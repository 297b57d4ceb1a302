import DefinitionServer.Text.Basic

/-!
# Punycode

The code that writes a label beyond ASCII in letters, digits and dashes. The characters of ASCII come
first, before the last dash. Each number after it says how far the next character is from the one
before, counted in code points and then in places where it can be put in. The numbers are written in
base 36, with bounds on the digits that follow the numbers read so far.

## Main definitions

* `Punycode.decode`: the label that a code writes.
-/
namespace DefinitionServer.Punycode

/-- The value of a digit: letters first, then decimal digits. -/
def digit? (c : Char) : Option Nat :=
  if 'a' ≤ c ∧ c ≤ 'z' then some (c.toNat - 'a'.toNat)
  else if '0' ≤ c ∧ c ≤ '9' then some (c.toNat - '0'.toNat + 26)
  else none

/-- A number ends at the first digit that is below this bound. `place` is 36 for its first digit, 72
for the second, and so on. -/
def bound (bias place : Nat) : Nat := min 26 (max 1 (place - bias))

/-- Reads one number: the sum of `sum` and the digits that follow, the first of which has the weight
`weight`. -/
def number? (bias : Nat) : (place weight sum : Nat) → (t : Text) → Option (Scanned Nat t)
  | _, _, _, [] => none
  | place, weight, sum, c :: r => do
    let d ← digit? c
    let sum := sum + d * weight
    if d < bound bias place then return ⟨sum, r, by simp⟩
    let rest ← number? bias (place + 36) (weight * (36 - bound bias place)) sum r
    return rest.widen id (by simp)

/-- A distance brought below 456, and 36 for each division that this took. -/
def scaled (delta : Nat) : Nat × Nat :=
  if 455 < delta then
    let (delta, place) := scaled (delta / 35)
    (delta, place + 36)
  else (delta, 0)
termination_by delta
decreasing_by exact Nat.div_lt_self (by omega) (by omega)

/-- The bias for the number after a distance, when the label has come to so many characters. -/
def adapted (delta count : Nat) (isFirst : Bool) : Nat :=
  let delta := if isFirst then delta / 700 else delta / 2
  let (delta, place) := scaled (delta + delta / count)
  place + 36 * delta / (delta + 38)

/-- What a decoder knows between two numbers. -/
structure State where
  label : Text
  /-- The code point and the place to count from. -/
  code : Nat := 0x80
  place : Nat := 0
  bias : Nat := 72

/-- The state after one more number. There is none when no character has the code point. -/
def State.step (s : State) (delta : Nat) : Option State :=
  let count := s.label.length + 1
  let code := s.code + (s.place + delta) / count
  let place := (s.place + delta) % count
  if h : code.isValidChar then
    some {
      label := s.label.take place ++ Char.ofNatAux code h :: s.label.drop place
      code
      place := place + 1
      bias := adapted delta count (s.label.all (·.toNat < 0x80)) }
  else none

/-- The label after the numbers that a text writes. -/
def State.run (s : State) (t : Text) : Option Text :=
  if t = [] then some s.label
  else do
    let delta ← number? s.bias 36 1 0 t
    run (← s.step delta.value) delta.rest
termination_by t.length
decreasing_by exact delta.shorter

/-- The label that a code writes. -/
def decode (t : Text) : Option Text :=
  match (t.reverse.dropWhile (· ≠ '-')).reverse with
  | [] | ['-'] => State.run { label := [] } t
  | basic => State.run { label := basic.dropLast } (t.drop basic.length)

end DefinitionServer.Punycode
