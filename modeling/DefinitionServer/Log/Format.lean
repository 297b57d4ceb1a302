import DefinitionServer.Data.Basic

/-!
# Log formats

How log records are written.
-/
namespace DefinitionServer.Log

/-- A way to write log records. -/
inductive Format where
  /-- One JSON object a line. -/
  | json
  /-- One short line for the human reader. -/
  | compact
deriving DecidableEq, Repr

namespace Format

/-- The name of a format. -/
def name : Format → Text
  | json => "json".toList
  | compact => "compact".toList

/-- The format of a name as settings files spell it. -/
def ofName? (t : Text) : Option Format := [json, compact].find? (·.name = t)

/-- The format of a name in any case. -/
def parse? (t : Text) : Option Format := ofName? (t.map Char.toLower)

/-- The format that settings ask for: its name, or a table with nothing but nothing under its
name. -/
def ofData? : Data → Option Format
  | .text t => ofName? t
  | .table [(t, .null)] => ofName? t
  | _ => none

/-- The wording for a text that names no format. -/
def unknown : Text := "Matching variant not found".toList

end Format
end DefinitionServer.Log
