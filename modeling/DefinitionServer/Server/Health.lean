import DefinitionServer.Config.Load
import DefinitionServer.Log.Filter

/-!
# Health

The stages in the life of a server, which it reports as they come, and what keeps it from starting.

## Main definitions

* `StartupError`: what keeps the server from starting.
* `HealthEvent`: a stage in the life of a server.
* `HealthEvent.record`: what the log says of it.
-/
namespace DefinitionServer

/-- Why the directory of a socket cannot be made. -/
inductive SocketError where
  | missingParent (path : Text)
  | createDirectory (path reason : Text)
deriving DecidableEq, Repr

/-- The wording of the error. -/
def SocketError.message : SocketError → Text
  | missingParent path => "socket path '".toList ++ path ++ "' has no parent directory".toList
  | createDirectory path reason =>
    "failed to create socket directory '".toList ++ path ++ "': ".toList ++ reason

/-- Why the server does not start. -/
inductive StartupError where
  | configuration (es : List ConfigError)
  /-- The log filter is none. -/
  | telemetry (e : Log.FilterError)
  | socket (e : SocketError)
deriving DecidableEq, Repr

namespace StartupError

/-- What could not be done. -/
def headline : StartupError → Text
  | configuration _ => "failed to load configuration".toList
  | telemetry _ => "failed to initialise telemetry: invalid log filter".toList
  | socket _ => "failed to prepare daemon socket".toList

/-- Why it could not be done. -/
def detail : StartupError → Text
  | configuration es => "; ".toList.intercalate (es.map ConfigError.message)
  | telemetry e => e.message
  | socket e => e.message

/-- The wording of the error. -/
def message (e : StartupError) : Text := e.headline ++ ": ".toList ++ e.detail

end StartupError

/-- A stage in the life of a server. -/
inductive HealthEvent where
  | bootstrapStarting
  | bootstrapSucceeded (c : Config)
  | bootstrapFailed (e : StartupError)
  | listenerStarted (e : Endpoint)
  | listenerStopped (e : Endpoint)
deriving DecidableEq, Repr

namespace HealthEvent

/-- The name of the event. -/
def name : HealthEvent → Text
  | bootstrapStarting => "bootstrap_starting".toList
  | bootstrapSucceeded _ => "bootstrap_succeeded".toList
  | bootstrapFailed _ => "bootstrap_failed".toList
  | listenerStarted _ => "listener_started".toList
  | listenerStopped _ => "listener_stopped".toList

/-- The part of the server that speaks of its health. -/
def target : Text := "glyphd::health".toList

/-- What the event says. -/
def message : HealthEvent → Text
  | bootstrapStarting => "starting daemon bootstrap".toList
  | bootstrapSucceeded _ => "daemon bootstrap completed".toList
  | bootstrapFailed _ => "daemon bootstrap failed".toList
  | listenerStarted _ => "accepting connections".toList
  | listenerStopped _ => "listener shut down".toList

/-- What the event tells besides. -/
def fields : HealthEvent → List (Text × Log.Field)
  | bootstrapStarting => []
  | bootstrapSucceeded c => [
      ("socket".toList, .text c.endpoint.display),
      ("log_filter".toList, .text c.logFilter),
      ("log_format".toList, .text c.logFormat.name),
      ("end_tag".toList, .text c.endTag),
      ("max_block_bytes".toList, .count c.maxBlockBytes)]
  | bootstrapFailed e => [("error".toList, .text e.message)]
  | listenerStarted e | listenerStopped e => [("endpoint".toList, .text e.display)]

/-- What the log says of the event. -/
def record (e : HealthEvent) : Log.Record where
  level := match e with
    | bootstrapFailed _ => .error
    | _ => .info
  target := target
  message := e.message
  fields := ("event".toList, .text e.name) :: e.fields

end HealthEvent
end DefinitionServer
