/-!
# Text

A text is the list of its characters, as a character vector is in an array language. The operations
below take a text apart at its edges, at its blanks and at a separator, read the numbers that its
digits write, and say what a reader has found at its beginning.

## Main definitions

* `Text`: a piece of text.
* `Text.Ranges`: a set of characters.
* `Text.isBlank`: the character is white space.
* `Scanned`: what a reader found, and what is left of the text.
* `Digit.number`: the number that digits write.
-/
namespace DefinitionServer

/-- A piece of text: its characters in order. -/
abbrev Text := List Char

namespace Text

/-! ## Blanks

A set of characters is kept as a list of closed ranges of code points, lowest range first. The
characters that separate words and surround lines are such a set: Unicode's `White_Space`. -/

/-- Closed ranges of code points, in ascending order and apart from one another. -/
abbrev Ranges := List (Nat × Nat)

/-- The code point lies in one of the ranges. The search ends at the first range above it. -/
def Ranges.holds : Ranges → Nat → Bool
  | [], _ => false
  | (lo, hi) :: rest, n => if n < lo then false else n ≤ hi || Ranges.holds rest n

/-- Ranges of the property `White_Space`. -/
def blanks : Ranges := [
    (0x9, 0xD), (0x20, 0x20), (0x85, 0x85), (0xA0, 0xA0), (0x1680, 0x1680), (0x2000, 0x200A),
    (0x2028, 0x2029), (0x202F, 0x202F), (0x205F, 0x205F), (0x3000, 0x3000)]

/-- The character is white space. -/
def isBlank (c : Char) : Bool := blanks.holds c.toNat

/-! ## Parts of a text -/

/-- The text without its leading blanks. -/
def trimStart (t : Text) : Text := t.dropWhile isBlank

/-- The text without its trailing blanks. -/
def trimEnd (t : Text) : Text := (t.reverse.dropWhile isBlank).reverse

/-- The text without the blanks around it. -/
def trim (t : Text) : Text := trimEnd (trimStart t)

/-- The maximal runs of characters that are not blank. -/
def words (t : Text) : List Text := (t.splitOnP isBlank).filter (· ≠ [])

/-- The text before and after the first `sep`, when there is one. -/
def cut (sep : Char) (t : Text) : Option (Text × Text) :=
  match t.span (· ≠ sep) with
  | (_, []) => none
  | (before, _ :: after) => some (before, after)

/-- The texts with `sep` between each and the next. -/
def join (sep : Char) (ts : List Text) : Text := [sep].intercalate ts

/-- What follows `head` when the text begins with it. -/
def after? (head : Text) (t : Text) : Option Text :=
  if head.isPrefixOf t then some (t.drop head.length) else none

/-- The decimal digits of a number. -/
def ofNat (n : Nat) : Text := Nat.toDigits 10 n

end Text

/-! ## Scanning

A reader that goes through a text from its beginning uses something up, so that readers which call
each other come to an end. -/

/-- What a reader found at the beginning of `t`, and the text after it. -/
structure Scanned (α : Type) (t : Text) where
  value : α
  rest : Text
  shorter : rest.length < t.length

/-- The same find, changed, and seen from a longer text. -/
def Scanned.widen {α β : Type} {s t : Text} (f : α → β) (x : Scanned α s)
    (h : s.length ≤ t.length) : Scanned β t :=
  ⟨f x.value, x.rest, Nat.lt_of_lt_of_le x.shorter h⟩

/-! ## Digits -/

namespace Digit

/-- The value of a digit, in any base up to sixteen. -/
def value? (c : Char) : Option Nat :=
  if '0' ≤ c ∧ c ≤ '9' then some (c.toNat - '0'.toNat)
  else if 'a' ≤ c ∧ c ≤ 'f' then some (c.toNat - 'a'.toNat + 10)
  else if 'A' ≤ c ∧ c ≤ 'F' then some (c.toNat - 'A'.toNat + 10)
  else none

/-- The character is a digit of a base. -/
def isBelow (base : Nat) (c : Char) : Bool :=
  match value? c with
  | some d => d < base
  | none => false

/-- The number that digits write in a base. Characters that are no digits count as zero. -/
def number (base : Nat) (digits : Text) : Nat :=
  digits.foldl (fun n c => n * base + (value? c).getD 0) 0

end Digit
end DefinitionServer
