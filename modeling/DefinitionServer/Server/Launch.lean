import DefinitionServer.Client.Run
import DefinitionServer.Protocol.Session
import DefinitionServer.Server.Listener
import DefinitionServer.Server.Startup

/-!
# Running the server

The server starts up, listens, serves whoever connects, and stops when it is told to. All who
connect share one workspace.

## Main definitions

* `Config.converse`: what a connection receives.
* `Visitor`: someone who connects, and `Visit` what comes of it.
* `Launch.run`: the whole run.
-/
namespace DefinitionServer

/-- The session of a connection that sends `input`. -/
def Config.session (c : Config) (input : Bytes) (w : Workspace) : Session Workspace :=
  Session.serve Workspace.interpreter c.protocol { source := { unread := input }, state := w }

/-- What a connection receives that sends `input`, and the workspace after it. -/
def Config.converse (c : Config) (input : Bytes) (w : Workspace) : Bytes × Workspace :=
  ((c.session input w).sink.accepted, (c.session input w).state)

/-- Why a server did not run to its end. -/
inductive LaunchError where
  | startup (e : StartupError)
  | listener (e : ListenerError)
  /-- The server cannot be told to stop. -/
  | shutdown (reason : Text)
deriving DecidableEq, Repr

/-- The wording of the error. -/
def LaunchError.message : LaunchError → Text
  | startup e => "daemon bootstrap failed: ".toList ++ e.message
  | listener e => "daemon socket listener failed: ".toList ++ e.message
  | shutdown reason =>
    "failed to await shutdown signal: failed to install signal handlers: ".toList ++ reason

/-- Someone who connects to a server. -/
inductive Visitor where
  /-- Connects to the server's endpoint and sends these bytes. -/
  | direct (input : Bytes)
  /-- A run of the client with these arguments. -/
  | client (args : List Bytes)

/-- What comes of a visit. -/
inductive Visit where
  /-- The server sent these bytes. -/
  | received (output : Bytes)
  /-- The server could not be reached. -/
  | refused
  | ran (outcome : Client.Outcome)

namespace Launch

/-- One visit to a server, and the workspace after it. -/
def visit (env : Environment) (m : Machine) (c : Config) (w : Workspace) :
    Visitor → Visit × Workspace
  | .direct input =>
    match Client.dial m c.endpoint with
    | .ok () => let (output, w) := c.converse input w; (.received output, w)
    | .error _ => (.refused, w)
  | .client args =>
    let outcome := Client.run env m (fun input => (c.converse input w).1) none args
    (.ran outcome, (outcome.sent.map fun input => (c.converse input w).2).getD w)

/-- Visits one after the other. -/
def visitAll (env : Environment) (m : Machine) (c : Config) :
    Workspace → List Visitor → List Visit
  | _, [] => []
  | w, v :: vs =>
    let (r, w) := visit env m c w v
    r :: visitAll env m c w vs

end Launch

/-- What a run of the server leaves behind. -/
structure Launch where
  result : Except LaunchError Unit
  visits : List Visit
  events : List HealthEvent
  machine : Machine

namespace Launch

/-- Runs a server with the configuration that was loaded for it. It listens at its endpoint or, when
`elsewhere` is given, there. `wait` is how waiting for the end comes out. -/
def run (env : Environment) (m : Machine) (loaded : Except (List ConfigError) Config)
    (elsewhere : Option Endpoint) (visitors : List Visitor) (wait : Except Text Unit) : Launch :=
  let start := Startup.run m.files loaded
  let m := { m with files := start.files }
  match start.outcome with
  | .error e => ⟨.error (.startup e), [], start.events, m⟩
  | .ok c =>
    match m.listen (elsewhere.getD c.endpoint) with
    | .error e => ⟨.error (.listener e), [], start.events, m⟩
    | .ok listening =>
      { result := wait.mapError .shutdown
        visits := visitAll env listening c Workspace.empty visitors
        events := start.events ++ [.listenerStarted c.endpoint, .listenerStopped c.endpoint]
        machine := listening.unlisten (elsewhere.getD c.endpoint) }

end Launch
end DefinitionServer
