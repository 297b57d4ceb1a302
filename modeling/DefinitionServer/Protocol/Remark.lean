import DefinitionServer.Protocol.Command
import DefinitionServer.Text.Quoted

/-!
# Remarks on requests

The log records of serving a connection, one for each thing that can happen to a request.
-/
namespace DefinitionServer

/-- The command with its argument, as the log shows it. -/
def Command.shown : Command → Text
  | define => "Define".toList
  | function name => "Function \x7b name: ".toList ++ Text.quoted name ++ " \x7d".toList
  | functionList => "FunctionList".toList
  | quit => "Quit".toList

namespace Remark

/-- The part of the server that handles requests. -/
def target : Text := "glyphd::dispatch".toList

/-- A record of the parts that a problem is named in. -/
def problem (level : Log.Level) (message : Text) (e : RequestError) : Log.Record :=
  ⟨level, target, message, [("error".toList, .text e.message)]⟩

/-- A command is understood. -/
def dispatching (c : Command) : Log.Record :=
  ⟨.debug, target, "dispatching command".toList, [("command".toList, .text c.shown)]⟩

/-- A block of so many lines is read. -/
def blockReceived (lines : Nat) : Log.Record :=
  ⟨.debug, target, "definition block received".toList, [("lines".toList, .count lines)]⟩

/-- The interpreter has answered a definition. -/
def evaluated (token : Token) : Log.Record :=
  ⟨.debug, target, "definition evaluated".toList,
    [("diagnostic".toList, .flag token.isDiagnostic), ("result".toList, .text token.canonical)]⟩

/-- The error is the answer to the request. -/
def rejecting (e : RequestError) : Log.Record := problem .debug "rejecting command".toList e

/-- The error ends the connection. -/
def closing (e : RequestError) : Log.Record :=
  problem .warn "closing connection after fatal error".toList e

/-- The answer to a failed request could not be written. -/
def unanswered (e : RequestError) : Log.Record :=
  problem .warn "failed to write error response".toList e

/-- The client has left. -/
def closed : Log.Record := ⟨.debug, target, "client closed session".toList, []⟩

end Remark
end DefinitionServer
