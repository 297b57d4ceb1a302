import DefinitionServer.Machine.Basic
import DefinitionServer.Server.Health

/-!
# Startup

Before it listens the server loads its configuration, sets up its log and makes the directory of
its socket. It reports how that went.

## Main definitions

* `Endpoint.prepare`: makes the directory of a socket.
* `Startup.run`: starts the server up.
-/
namespace DefinitionServer

/-- Makes the directory that a socket will be in. Other endpoints need none. -/
def Endpoint.prepare (files : FileTree) : Endpoint → Except SocketError FileTree
  | .tcp .. => .ok files
  | .unix path =>
    match (Path.parent? path).filter (· ≠ []) with
    | none => .error (.missingParent path)
    | some parent =>
      (files.makeDirectories parent).mapError fun e => .createDirectory parent e.message

/-- How far a server has come. -/
structure Startup where
  outcome : Except StartupError Config
  files : FileTree
  events : List HealthEvent
  /-- What is let into the log, once that is set up. -/
  filter : Option Log.Filter

namespace Startup

/-- A start that an error ended. -/
def failed (files : FileTree) (filter : Option Log.Filter) (e : StartupError) : Startup :=
  ⟨.error e, files, [.bootstrapStarting, .bootstrapFailed e], filter⟩

/-- Starts a server up with the configuration that was loaded for it. -/
def run (files : FileTree) (loaded : Except (List ConfigError) Config) : Startup :=
  match loaded with
  | .error es => failed files none (.configuration es)
  | .ok c =>
    match Log.Filter.parse c.logFilter with
    | .error e => failed files none (.telemetry e)
    | .ok filter =>
      match c.endpoint.prepare files with
      | .error e => failed files (some filter) (.socket e)
      | .ok files => ⟨.ok c, files, [.bootstrapStarting, .bootstrapSucceeded c], some filter⟩

/-- The records that the log of a server lets through. There is no log before it is set up. -/
def admitted (s : Startup) (records : List Log.Record) : List Log.Record :=
  match s.filter with
  | some f => records.filter f.enables
  | none => []

/-- What the log says of starting up. The beginning comes before there is a log. -/
def log (s : Startup) : List Log.Record := s.admitted (s.events.tail.map HealthEvent.record)

end Startup
end DefinitionServer
