import DefinitionServer.Text.Basic

/-!
# Log records

What the server says about its own work: a level, the part of the server that speaks, a message
and named fields. Records are values; whether and how they are written is decided elsewhere.
-/
namespace DefinitionServer.Log

/-- How much a record matters. -/
inductive Level where
  | error | warn | info | debug | trace
deriving DecidableEq, Repr

/-- Levels by the amount of detail they ask for. -/
def Level.detail : Level → Nat
  | error => 1
  | warn => 2
  | info => 3
  | debug => 4
  | trace => 5

/-- The name of a level. -/
def Level.label : Level → Text
  | error => "ERROR".toList
  | warn => "WARN".toList
  | info => "INFO".toList
  | debug => "DEBUG".toList
  | trace => "TRACE".toList

/-- The value of a field. -/
inductive Field where
  | text (t : Text)
  | count (n : Nat)
  | flag (b : Bool)
deriving DecidableEq, Repr

/-- One event of the server's work. -/
structure Record where
  level : Level
  target : Text
  message : Text
  fields : List (Text × Field)
deriving DecidableEq, Repr

end DefinitionServer.Log
