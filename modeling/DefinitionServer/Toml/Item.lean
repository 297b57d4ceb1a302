import DefinitionServer.Data.Basic

/-!
# Tables under construction

The table of a settings file grows statement by statement. How each table inside it came about
decides what may still be added: a header opens a table once, and a value with a dotted key goes only
into a table that is open or that keys with dots have made.

## Main definitions

* `Toml.Item`: what stands under a key while the file is read.
* `Toml.define`: adds a value under a key with dots.
* `Toml.reach`: changes what stands under the name of a header.
-/
namespace DefinitionServer.Toml

/-- How a table came about. -/
inductive Origin where
  /-- A header names a table inside it. -/
  | implicit
  /-- A key with dots leads through it. -/
  | dotted
  /-- It has a header. -/
  | header
deriving DecidableEq, Repr

/-- What stands under a key. A list of tables is open at its last one. -/
inductive Item where
  | value (d : Data)
  | table (origin : Origin) (entries : List (Text × Item))
  | tables (earlier : List Data) (last : List (Text × Item))

/-- The entries of a table under construction. -/
abbrev Entries := List (Text × Item)

/-- The data of an item that is complete. -/
def Item.toData : Item → Data
  | value d => d
  | table _ entries => .table (entries.attach.map fun e => (e.1.1, e.1.2.toData))
  | tables earlier last =>
    .list (earlier ++ [.table (last.attach.map fun e => (e.1.1, e.1.2.toData))])
decreasing_by
  all_goals
    have h := List.sizeOf_lt_of_mem e.2
    have : sizeOf e.1.2 < sizeOf e.1 := by
      rcases e with ⟨⟨k, i⟩, _⟩
      simp only [Prod.mk.sizeOf_spec]
      omega
  · simp only [table.sizeOf_spec]; omega
  · simp only [tables.sizeOf_spec]; omega

/-- The table that the entries make. -/
def Entries.toData (es : Entries) : Data := (Item.table .header es).toData

/-- Adds a value under the rest of a key with dots. The tables on the way come about when they are
missing, and one that has a header of its own is not entered. At the end of the way the value is put
only where `isOpen` says that the key may end, and it replaces nothing. -/
def defineIn (d : Data) (isOpen : Bool) : List Text → Entries → Option Entries
  | [], _ => none
  | [k], es => if isOpen && (es.lookup k).isNone then some (es ++ [(k, .value d)]) else none
  | k :: path, es =>
    match es.lookup k with
    | none => (defineIn d true path []).map fun inner => es ++ [(k, .table .dotted inner)]
    | some (.table .dotted inner) =>
      (defineIn d true path inner).map fun inner => Data.insert k (.table .dotted inner) es
    | some (.table .implicit inner) =>
      (defineIn d false path inner).map fun inner => Data.insert k (.table .implicit inner) es
    | some (.tables earlier last) =>
      (defineIn d false path last).map fun last => Data.insert k (.tables earlier last) es
    | some (.table .header _) | some (.value _) => none

/-- Adds a value under a key with dots. -/
def define (d : Data) : List Text → Entries → Option Entries := defineIn d true

/-- Changes what stands under the name of a header. The tables on the way come about when they are
missing, and a list of tables is entered at its last one. -/
def reach (f : Option Item → Option Item) : List Text → Entries → Option Entries
  | [], _ => none
  | [k], es => (f (es.lookup k)).map fun i => Data.insert k i es
  | k :: path, es =>
    match es.lookup k with
    | none => (reach f path []).map fun inner => Data.insert k (.table .implicit inner) es
    | some (.table origin inner) =>
      (reach f path inner).map fun inner => Data.insert k (.table origin inner) es
    | some (.tables earlier last) =>
      (reach f path last).map fun last => Data.insert k (.tables earlier last) es
    | some (.value _) => none

/-- What the header of a table makes of what stands under its name. -/
def openTable : Option Item → Option Item
  | none => some (.table .header [])
  | some (.table .implicit es) => some (.table .header es)
  | some _ => none

/-- What the header of one more table in a list makes of what stands under its name. -/
def openNext : Option Item → Option Item
  | none => some (.tables [] [])
  | some (.tables earlier last) => some (.tables (earlier ++ [Entries.toData last]) [])
  | some _ => none

/-- A change of the table that a header has opened. -/
def inside (f : Entries → Option Entries) : Option Item → Option Item
  | some (.table origin es) => (f es).map (.table origin)
  | some (.tables earlier last) => (f last).map (.tables earlier)
  | _ => none

end DefinitionServer.Toml
