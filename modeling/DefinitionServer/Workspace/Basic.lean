import DefinitionServer.Workspace.Header

/-!
# The workspace

The table of defined functions. A definition is an array of character rows, header first. A good
one replaces whatever its name stood for; any other gives a diagnostic and changes nothing.

## Main definitions

* `Definition.ofValue`: the function that an array of rows defines, or the diagnostic.
* `Workspace`: the table, in ascending order of names.
* `Workspace.define`, `Workspace.source?`, `Workspace.names`: its operations.
-/
namespace DefinitionServer

/-- A fault of an interpreter itself, which is no mistake in a definition. -/
inductive Fault where
  /-- The function table is lost. -/
  | poisoned
  /-- An array is too large to take apart. -/
  | exhausted
  | internal (message : Text)
deriving DecidableEq, Repr

/-- The wording of a fault. -/
def Fault.message : Fault → Text
  | poisoned => "workspace lock poisoned".toList
  | exhausted => "capacity overflow".toList
  | internal message => "evaluator failure: ".toList ++ message

/-- A function as it is kept: the header that its first row states, and all its rows. -/
structure Definition where
  header : Header
  rows : List Text
deriving DecidableEq, Repr

namespace Definition

/-- The rows without a closing del on a row of its own. -/
def withoutClosingDel (rows : List Text) : List Text :=
  match rows.getLast? with
  | some row => if Text.trim row = ['∇'] then rows.dropLast else rows
  | none => rows

/-- The first row without the blanks before an opening del and the del. -/
def withoutOpeningDel (row : Text) : Text := (Text.after? ['∇'] (Text.trimStart row)).getD row

/-- The label that a row begins with: a name before the first colon. -/
def label? (row : Text) : Option Text :=
  match row.cut ':' with
  | some (before, _) => if Name.isName (Text.trim before) then some (Text.trim before) else none
  | none => none

/-- The names that a definition with the given header and further rows binds. -/
def bound (h : Header) (body : List Text) : List Text := h.names ++ body.filterMap label?

/-- The function that rows define. Each name and label is bound once. -/
def ofRows (rows : List Text) : Except Diagnostic Definition :=
  match withoutClosingDel rows with
  | [] => .error .defnError
  | first :: body => do
    let first := withoutOpeningDel first
    let header ← Header.parse first
    if (bound header body).Nodup then .ok ⟨header, first :: body⟩ else .error .defnError

/-- The function that an array of rows defines. The rows of a matrix are padded on the right and
lose that first. -/
def ofValue (v : Value) : Except Fault (Except Diagnostic Definition) :=
  if v.rank ≠ 1 ∧ v.rank ≠ 2 then .ok (.error .rankError)
  else
    match v.rows with
    | .ok rows => .ok (ofRows (if v.rank = 2 then rows.map Text.trimEnd else rows))
    | .error .notText => .ok (.error .domainError)
    | .error .tooMany => .error .exhausted

end Definition

/-- The defined functions, in ascending order of their names. -/
structure Workspace where
  functions : List (Text × Definition)
deriving DecidableEq, Repr

namespace Workspace

/-- The workspace without functions. -/
def empty : Workspace := ⟨[]⟩

/-- The table with `d` under `name`, in the place of an earlier entry if there is one. -/
def insert (name : Text) (d : Definition) : List (Text × Definition) → List (Text × Definition)
  | [] => [(name, d)]
  | (key, old) :: rest =>
    if name < key then (name, d) :: (key, old) :: rest
    else if name = key then (name, d) :: rest
    else (key, old) :: insert name d rest

/-- The function of a name. -/
def find? (w : Workspace) (name : Text) : Option Definition := w.functions.lookup name

/-- The names of the defined functions, ascending. -/
def names (w : Workspace) : List Text := w.functions.map (·.1)

/-- The source of a function, a vector of its rows. -/
def source? (w : Workspace) (name : Text) : Option Value :=
  (w.find? name).map fun d => .items (d.rows.map .chars)

/-- Defines the function that an array of rows describes. -/
def define (w : Workspace) (v : Value) : Except Fault Token × Workspace :=
  match Definition.ofValue v with
  | .ok (.ok d) => (.ok (.defined d.header.name), ⟨insert d.header.name d w.functions⟩)
  | .ok (.error e) => (.ok (.diagnostic e), w)
  | .error fault => (.error fault, w)

end Workspace
end DefinitionServer
