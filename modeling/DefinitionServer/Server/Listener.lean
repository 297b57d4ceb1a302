import DefinitionServer.Endpoint.Basic
import DefinitionServer.Machine.Basic

/-!
# Listeners

A server listens on its endpoint. A socket file that a server has left behind is taken over, unless
some server still listens there.

## Main definitions

* `ListenerError`: why the server cannot listen.
* `Machine.listen`, `Machine.unlisten`: begins and ends listening.
-/
namespace DefinitionServer

/-- Why the server cannot listen. -/
inductive ListenerError where
  | resolve (host : Text) (port : Nat) (reason : Text)
  /-- The host has no addresses. -/
  | noAddress (host : Text) (port : Nat)
  | bindAddress (address : Text) (port : Nat) (reason : Text)
  | nonBlocking (reason : Text)
  | bindSocket (path reason : Text)
  /-- Another server listens at the path. -/
  | inUse (path : Text)
  | notSocket (path : Text)
  | probe (path reason : Text)
  | cleanup (path reason : Text)
  /-- The listener came to an end by itself. -/
  | crashed
deriving DecidableEq, Repr

namespace ListenerError

/-- A host and a port as they are written together. -/
def hostPort (host : Text) (port : Nat) : Text := host ++ ':' :: Text.ofNat port

/-- The wording of the error. -/
def message : ListenerError → Text
  | resolve host port reason =>
    "failed to resolve TCP address ".toList ++ hostPort host port ++ ": ".toList ++ reason
  | noAddress host port => "no TCP addresses resolved for ".toList ++ hostPort host port
  | bindAddress address port reason =>
    "failed to bind TCP listener at ".toList ++ hostPort address port ++ ": ".toList ++ reason
  | nonBlocking reason => "failed to enable non-blocking listener: ".toList ++ reason
  | bindSocket path reason =>
    "failed to bind unix listener at ".toList ++ path ++ ": ".toList ++ reason
  | inUse path => "unix socket ".toList ++ path ++ " is already in use".toList
  | notSocket path => "unix socket path ".toList ++ path ++ " is not a socket".toList
  | probe path reason =>
    "failed to inspect unix socket ".toList ++ path ++ ": ".toList ++ reason
  | cleanup path reason =>
    "failed to remove stale unix socket ".toList ++ path ++ ": ".toList ++ reason
  | crashed => "listener thread panicked".toList

end ListenerError

namespace Machine

/-- Puts a socket at a path where nothing stands. -/
def bindSocket (m : Machine) (path : Text) : Except SystemError Machine := do
  if path.contains '\x00' then .error .nullInSocketPath
  if maxSocketPath < (Text.Utf8.encode path).length then .error .socketPathTooLong
  let place ← m.files.place path
  match m.files.at? place with
  | some .directory => .error .addressInUse
  | some .deadLink => .error (if Path.endsInDot path then .notFound else .addressInUse)
  | some _ => .error (if Path.endsInDot path then .notDirectory else .addressInUse)
  | none =>
    if Path.endsInDirectory path then .error .notFound
    else return { m with files := m.files.put place (.socket true) }

/-- Listens at the path of a socket. -/
def listenAt (m : Machine) (path : Text) : Except ListenerError Machine :=
  let bind (m : Machine) : Except ListenerError Machine :=
    (m.bindSocket path).mapError fun e => .bindSocket path e.message
  match m.files.node path with
  | .ok (.socket true) => .error (.inUse path)
  | .ok (.socket false) =>
    match m.files.place path with
    | .ok place => bind { m with files := m.files.remove place }
    | .error e => .error (.cleanup path e.message)
  | .ok _ => .error (.notSocket path)
  | .error _ => bind m

/-- Listens on an address. Port 0 stands for any port that is free. -/
def listenOn (m : Machine) (host : Text) (port : Nat) : Except ListenerError Machine :=
  match NetAddress.ofHost host with
  | .error reason => .error (.resolve host port reason)
  | .ok address =>
    let refuse (e : SystemError) : Except ListenerError Machine :=
      .error (.bindAddress address.display port e.message)
    match address.bindFault? with
    | some e => refuse e
    | none =>
      if port = 0 then .ok m
      else if m.listening.any fun l => l.1.clashes address && l.2 = port then refuse .addressInUse
      else .ok { m with listening := (address, port) :: m.listening }

/-- Begins to listen on an endpoint. -/
def listen (m : Machine) : Endpoint → Except ListenerError Machine
  | .unix path => m.listenAt path
  | .tcp host port => m.listenOn host port

/-- Ends listening on an endpoint. A socket is removed. -/
def unlisten (m : Machine) : Endpoint → Machine
  | .unix path =>
    match m.files.place path with
    | .ok place => { m with files := m.files.remove place }
    | .error _ => m
  | .tcp host port =>
    { m with listening := m.listening.filter fun l =>
        (NetAddress.ofHost host).toOption ≠ some l.1 ∨ l.2 ≠ port }

end Machine
end DefinitionServer
