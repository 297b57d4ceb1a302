import DefinitionServer.Workspace.Interpreter

/-!
# Request errors

Why a request is not answered as asked. After a fatal error the place in the stream or the state
of the server can no longer be trusted and the connection ends; any other error is the answer.
-/
namespace DefinitionServer

/-- Why a request failed. -/
inductive RequestError where
  /-- The command line is no text, or names no command. -/
  | malformed (message : Text)
  | unknownCommand (command : Text)
  /-- The arguments do not fit the command. -/
  | invalidArguments (message : Text)
  /-- A line or block is longer than allowed. `size` bytes of it were read. -/
  | tooLarge (size max : Nat)
  /-- The stream ended after `lines` lines of a block. -/
  | unterminated (lines : Nat)
  /-- Reading or writing failed. -/
  | transport (reason : Text)
  /-- A value built from the request does not hold together. -/
  | invalidValue (e : ValueError)
  /-- The interpreter failed. -/
  | interpreter (f : Fault)
deriving DecidableEq, Repr

namespace RequestError

/-- The connection must be closed. -/
def isFatal : RequestError → Bool
  | malformed _ | unknownCommand _ | invalidArguments _ => false
  | tooLarge .. | unterminated _ | transport _ | invalidValue _ | interpreter _ => true

/-- The wording of the error. -/
def message : RequestError → Text
  | malformed m => "malformed command: ".toList ++ m
  | unknownCommand c => "unknown command '".toList ++ c ++ "'".toList
  | invalidArguments m => "invalid arguments: ".toList ++ m
  | tooLarge size max =>
    "request too large: ".toList ++ Text.ofNat size ++ " bytes exceeds ".toList
      ++ Text.ofNat max ++ " byte limit".toList
  | unterminated lines =>
    "block ended after ".toList ++ Text.ofNat lines ++ " lines without an end tag".toList
  | transport reason => "transport error: ".toList ++ reason
  | invalidValue e => "malformed value: ".toList ++ e.message
  | interpreter f => "evaluator failure: ".toList ++ f.message

end RequestError
end DefinitionServer
