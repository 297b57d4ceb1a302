import DefinitionServer.Text.Basic

/-!
# Settings data

The data that settings are written in: what a settings file, an environment variable or a command
line flag can hold before it is known what is asked of it. One table can be laid over another.

## Main definitions

* `Data`: a scalar, a list or a table.
* `Data.overlay`: the table in which the upper of two tables decides, key by key.
-/
namespace DefinitionServer

/-- A piece of settings data. The keys of a table are distinct. -/
inductive Data where
  | null
  | bool (b : Bool)
  | int (n : Int)
  /-- A number that is no integer, or that is too large for one. What number it is never matters. -/
  | real
  | text (t : Text)
  | list (items : List Data)
  | table (entries : List (Text × Data))
deriving Inhabited

namespace Data

/-- What stands in a table under a key. -/
def get? (key : Text) : Data → Option Data
  | table entries => entries.lookup key
  | _ => none

/-- The entries with the one under `key` set. A new key comes last. -/
def insert {α : Type} (key : Text) (a : α) : List (Text × α) → List (Text × α)
  | [] => [(key, a)]
  | (k, old) :: rest => if k = key then (k, a) :: rest else (k, old) :: insert key a rest

/-- What a setting becomes when another is laid over it. Tables are laid over each other key by
key, and anything else takes the place of what was there. -/
def overlay (lower upper : Data) : Data :=
  match lower, upper with
  | table old, table entries => table (entries.attach.foldl
      (fun acc e => insert e.1.1 (match acc.lookup e.1.1 with
        | some d => overlay d e.1.2
        | none => e.1.2) acc) old)
  | _, upper => upper
termination_by upper
decreasing_by
  have h := List.sizeOf_lt_of_mem e.2
  have : sizeOf e.1.2 < sizeOf e.1 := by
    rcases e with ⟨⟨k, d⟩, _⟩
    simp only [Prod.mk.sizeOf_spec]
    omega
  simp only [table.sizeOf_spec]
  omega

/-- The text, when the data is one. -/
def text? : Data → Option Text
  | text t => some t
  | _ => none

/-- The number, when the data is an integer from 0 to `max`. -/
def natTo? (max : Nat) : Data → Option Nat
  | int n => if 0 ≤ n ∧ n ≤ max then some n.toNat else none
  | _ => none

end Data
end DefinitionServer
