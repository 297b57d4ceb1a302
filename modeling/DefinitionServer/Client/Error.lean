import DefinitionServer.Config.Load

/-!
# Client errors

Why the client has no response to show.
-/
namespace DefinitionServer

/-- Why the client has no response to show. -/
inductive ClientError where
  /-- Help is asked for. -/
  | help
  /-- The command line is not understood. -/
  | usage
  | configuration (es : List ConfigError)
  | readSource (path reason : Text)
  /-- A line of the source would close the block. -/
  | endTagInSource (path : Text) (line : Nat)
  | resolve (endpoint reason : Text)
  | connect (endpoint reason : Text)
  | send (reason : Text)
  | read (reason : Text)
  /-- The response is not closed. -/
  | missingEndTag
  /-- The response could not be shown. -/
  | forward (reason : Text)
deriving DecidableEq, Repr

namespace ClientError

/-- How the client is called. -/
def synopsis : Text := "usage: glyph [FLAGS] (def FILE | fn NAME | fnlist)".toList

/-- The wording of the error. -/
def message : ClientError → Text
  | help | usage => synopsis
  | configuration es =>
    "failed to load configuration: ".toList ++ "; ".toList.intercalate (es.map ConfigError.message)
  | readSource path reason => "failed to read '".toList ++ path ++ "': ".toList ++ reason
  | endTagInSource path line =>
    "line ".toList ++ Text.ofNat line ++ " of '".toList ++ path
      ++ "' is the end tag and would cut the definition short".toList
  | resolve endpoint reason =>
    "failed to resolve daemon address ".toList ++ endpoint ++ ": ".toList ++ reason
  | connect endpoint reason =>
    "failed to connect to daemon at ".toList ++ endpoint ++ ": ".toList ++ reason
  | send reason => "failed to send request to daemon: ".toList ++ reason
  | read reason => "failed to read response from daemon: ".toList ++ reason
  | missingEndTag => "daemon closed the connection before the end tag".toList
  | forward reason => "failed to forward daemon output: ".toList ++ reason

/-- The exit status of the client. -/
def status : ClientError → Nat
  | help => 0
  | usage => 2
  | _ => 1

end ClientError
end DefinitionServer
