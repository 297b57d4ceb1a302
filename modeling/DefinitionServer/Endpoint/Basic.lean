import DefinitionServer.Endpoint.Url

/-!
# Endpoints

Where the server listens and the client connects: a Unix socket, named by its path, or a TCP host
and port. Endpoints are written as URLs.
-/
namespace DefinitionServer

/-- A place to connect to. -/
inductive Endpoint where
  | unix (path : Text)
  | tcp (host : Text) (port : Nat)
deriving DecidableEq, Repr

/-- Why a text names no endpoint. -/
inductive EndpointError where
  | unsupportedScheme (scheme : Text)
  | missingHost (input : Text)
  | missingPort (input : Text)
  | missingPath (input : Text)
  | url (e : UrlError)
deriving DecidableEq, Repr

/-- The wording of the error. -/
def EndpointError.message : EndpointError → Text
  | unsupportedScheme scheme => "unsupported socket scheme '".toList ++ scheme ++ "'".toList
  | missingHost input => "missing TCP host in '".toList ++ input ++ "'".toList
  | missingPort input => "missing TCP port in '".toList ++ input ++ "'".toList
  | missingPath input => "missing Unix socket path in '".toList ++ input ++ "'".toList
  | url e => e.message

namespace Endpoint

/-- The path of a Unix socket. -/
def unixPath? : Endpoint → Option Text
  | unix path => some path
  | tcp .. => none

/-- The URL of an endpoint. -/
def display : Endpoint → Text
  | unix path => "unix://".toList ++ path
  | tcp host port => "tcp://".toList ++ host ++ ':' :: Text.ofNat port

/-- The endpoint that a URL names. -/
def ofUrl (input : Text) (url : Url) : Except EndpointError Endpoint :=
  if url.scheme = "unix".toList then
    if url.path = [] then .error (.missingPath input) else .ok (.unix url.path)
  else if url.scheme = "tcp".toList then
    match url.host, url.port with
    | none, _ => .error (.missingHost input)
    | some _, none => .error (.missingPort input)
    | some host, some port => .ok (.tcp host port)
  else .error (.unsupportedScheme url.scheme)

/-- Reads an endpoint. -/
def parse (input : Text) : Except EndpointError Endpoint :=
  match Url.parse input with
  | .ok url => ofUrl input url
  | .error e => .error (.url e)

end Endpoint
end DefinitionServer
