import DefinitionServer.Log.Format
import DefinitionServer.Log.Record
import DefinitionServer.Text.Utf8

/-!
# Lines of the log

How a record is written in each of the formats, on one line.

## Main definitions

* `Log.Record.line`: the line of a record.
-/
namespace DefinitionServer.Log

/-- A character inside a JSON string. -/
def escaped (c : Char) : Text :=
  if c = '"' then ['\\', '"']
  else if c = '\\' then ['\\', '\\']
  else if c.toNat < 0x20 then
    ['\\', 'u', '0', '0', Nat.digitChar (c.toNat / 16), Nat.digitChar (c.toNat % 16)]
  else [c]

/-- A JSON string. -/
def quoted (t : Text) : Text := '"' :: (t.flatMap escaped ++ ['"'])

namespace Field

/-- The value of a field as JSON writes it. -/
def json : Field → Text
  | text t => quoted t
  | count n => Text.ofNat n
  | flag b => (if b then "true" else "false").toList

/-- The value of a field for the human reader. -/
def plain : Field → Text
  | text t => t
  | f => f.json

end Field

namespace Record

/-- The record as a JSON object. -/
def json (r : Record) : Text :=
  let entry (e : Text × Text) : Text := quoted e.1 ++ ':' :: e.2
  let entries := [("level".toList, quoted r.level.label), ("target".toList, quoted r.target),
    ("message".toList, quoted r.message)] ++ r.fields.map fun (k, f) => (k, f.json)
  '\x7b' :: (Text.join ',' (entries.map entry) ++ ['\x7d'])

/-- The record in short. -/
def compact (r : Record) : Text :=
  r.level.label ++ ' ' :: r.target ++ ": ".toList ++ r.message
    ++ r.fields.flatMap fun (k, f) => ' ' :: (k ++ '=' :: f.plain)

/-- The line of a record in a format. -/
def line : Format → Record → Text
  | .json, r => r.json
  | .compact, r => r.compact

end Record
end DefinitionServer.Log
