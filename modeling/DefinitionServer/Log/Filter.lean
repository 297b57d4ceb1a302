import DefinitionServer.Data.Numeral
import DefinitionServer.Log.Pattern
import DefinitionServer.Log.Record

/-!
# Log filters

Which records are written is said in directives, each a level for the targets that begin in a
certain way and, perhaps, for the records that have a certain field. The directive that says most
about a record decides. A directive may also ask for a span of work around the record, or for the
value of a field there. The server opens no spans, and so such a directive lets nothing through.

## Main definitions

* `Log.Filter.parse`: reads a filter.
* `Log.Filter.enables`: the filter lets a record through.
-/
namespace DefinitionServer.Log

/-- What a directive asks for beside the target. -/
inductive Scope where
  | anywhere
  /-- The record has a field. -/
  | field (name : Text)
  /-- The record is inside a span of some kind. -/
  | span
deriving DecidableEq, Repr

/-- A level for the targets with a given beginning, within a scope. Without a target it is for
all. -/
structure Directive where
  target : Option Text
  scope : Scope
  /-- How much detail is let through: none at 0, and as much as a level asks for. -/
  detail : Nat
deriving DecidableEq, Repr

/-- A filter: its directives in order. -/
abbrev Filter := List Directive

/-- Why a text is no filter. -/
inductive FilterError where
  | directive
  | level
  /-- The value of a field is no pattern. -/
  | pattern
deriving DecidableEq, Repr

/-- The wording of the error. -/
def FilterError.message : FilterError → Text
  | directive => "invalid filter directive".toList
  | level =>
    ("error parsing level filter: expected one of \"off\", \"error\", \"warn\", \"info\", "
      ++ "\"debug\", \"trace\", or a number 0-5").toList
  | pattern => "invalid field filter".toList

/-! ## Levels -/

/-- The names of the amounts of detail, from none to all. -/
def detailNames : List Text :=
  ["off", "error", "warn", "info", "debug", "trace"].map String.toList

/-- All detail, which is meant where no level is given. -/
def allDetail : Nat := 5

/-- The amount of detail of a name in any case, or of a number. -/
def detail? (t : Text) : Option Nat :=
  match detailNames.idxOf? (t.map Char.toLower), Numeral.size? t with
  | some n, _ => some n
  | none, some n => if n ≤ allDetail then some n else none
  | none, none => none

/-- The amount of detail after an equals sign. -/
def levelAfter (t : Text) : Except FilterError Nat :=
  if t = [] then .ok allDetail
  else
    match detail? t with
    | some n => .ok n
    | none => .error .level

/-! ## Fields -/

/-- The text is a number or a pattern. Numbers with a plus sign are no patterns. -/
def isFieldValue (t : Text) : Bool :=
  let isNumber (t : Text) : Bool := (Numeral.decimal? t).isSome
    || ["inf", "infinity", "nan"].any (·.toList = t.map Char.toLower)
  match t with
  | '+' :: r => isNumber r && r.head?.all fun c => c ≠ '+' && c ≠ '-'
  | t => Pattern.isPattern t

/-- What is asked for between braces: a field by its name, or a value of it, which only a span
has. -/
def fieldScope (t : Text) : Except FilterError Scope :=
  match t.splitOn '=' with
  | _ :: value :: _ => if isFieldValue value then .ok .span else .error .pattern
  | _ => if t = [] then .error .directive else .ok (.field t)

/-! ## Directives -/

/-- A directive begins with a bracket or with one of these. -/
def beginsDirective (c : Char) : Bool :=
  Text.isLetter c || Text.isNumeral c || c = '-' || c = ':' || c = '_'

namespace Directive

/-- The part of a text from one place to another. -/
def slice (t : Text) (start stop : Nat) : Text := (t.drop start).take (stop - start)

/-- Reads what stands at a place after the target and the scope: nothing, or a level. -/
def finish (written t : Text) (target : Option Text) (scope : Scope) (place : Nat) :
    Except FilterError Directive :=
  match t.drop place with
  | [] => .ok ⟨target, scope, allDetail⟩
  | '=' :: _ => (levelAfter (written.drop (place + 1))).map fun n => ⟨target, scope, n⟩
  | _ => .error .directive

/-- Reads the scope in the brackets that open at a place: a span, a field in braces, or both. -/
def readScope (written t : Text) (target : Option Text) (place : Nat) :
    Except FilterError Directive :=
  let stop := place + 1 + ((t.drop (place + 1)).takeWhile fun c => c ≠ ']' && c ≠ '\x7b').length
  match t.drop stop with
  | ']' :: _ => finish written t target .span (stop + 1)
  | '\x7b' :: r =>
    let last := stop + 1 + (r.takeWhile (· ≠ '\x7d')).length
    match t.drop last with
    | '\x7d' :: more => do
      let scope ← fieldScope (slice written (stop + 1) last)
      if more.head? = some ']' then
        finish written t target (if stop = place + 1 then scope else .span) (last + 2)
      else .error .directive
    | _ => .error .directive
  | _ => .error .directive

/-- Reads a directive: a level, a target with all its detail, or a target, a scope and a level. The
blanks around a directive say nothing by themselves, but the places of its parts are counted from
its first character without them and then looked up with them. -/
def parse (written : Text) : Except FilterError Directive :=
  let t := Text.trim written
  let word := t.takeWhile fun c => c ≠ '=' && c ≠ '['
  if t.head? = some '[' then readScope written t none 0
  else if !t.head?.any beginsDirective then .error .directive
  else
    match t.drop word.length with
    | [] =>
      match detail? written with
      | some n => .ok ⟨none, .anywhere, n⟩
      | none => .ok ⟨some written, .anywhere, allDetail⟩
    | '[' :: _ => readScope written t (some (slice written 0 word.length)) word.length
    | _ => finish written t (some (slice written 0 word.length)) .anywhere word.length

/-- The directive is about a record: about its target, and about a field that it has. The message
is a field of every record. -/
def covers (d : Directive) (r : Record) : Bool :=
  d.target.all (·.isPrefixOf r.target) &&
    match d.scope with
    | .anywhere => true
    | .field name => name = "message".toList || (r.fields.lookup name).isSome
    | .span => false

/-- How much of a target a directive names. -/
def reach (d : Directive) : Nat := (d.target.map (·.length + 1)).getD 0

/-- Of two directives about one record the second is to decide: it names more of the target or, if
neither does, asks for a field or for one whose name comes later. It also decides as the later of
two that say the same. -/
def yieldsTo (a b : Directive) : Bool :=
  a.reach < b.reach || (a.reach = b.reach &&
    match a.scope, b.scope with
    | .field x, .field y => !(y < x)
    | .field _, _ => false
    | _, _ => true)

end Directive

namespace Filter

/-- Reads a filter: directives with commas between them. -/
def parse (t : Text) : Except FilterError Filter :=
  ((t.splitOn ',').filter (· ≠ [])).mapM Directive.parse

/-- The directive that decides about a record. -/
def deciding? (f : Filter) (r : Record) : Option Directive :=
  (f.filter (·.covers r)).foldl (fun best d =>
    match best with
    | some b => if b.yieldsTo d then some d else some b
    | none => some d) none

/-- The filter lets a record through. -/
def enables (f : Filter) (r : Record) : Bool :=
  match f.deciding? r with
  | some d => r.level.detail ≤ d.detail
  | none => false

end Filter
end DefinitionServer.Log
