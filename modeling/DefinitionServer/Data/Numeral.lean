import DefinitionServer.Text.Basic

/-!
# Numerals

Numbers as settings write them: decimal, with a sign, perhaps with a fraction and an exponent.

## Main definitions

* `Numeral.size?`, `Numeral.integer?`: the number that a text writes.
* `Numeral.decimal?`: a number that may have a fraction.
* `Numeral.Decimal.overflows`: the number is too large for double precision.
-/
namespace DefinitionServer.Numeral

/-- The value of decimal digits, at least one. -/
def digits? (t : Text) : Option Nat :=
  if t ≠ [] ∧ t.all Char.isDigit then some (Digit.number 10 t) else none

/-- The largest size that a setting can ask for. -/
def maxSize : Nat := UInt64.size - 1

/-- A size: digits that may follow a plus sign, up to the largest size. -/
def size? (t : Text) : Option Nat :=
  (digits? (match t with | '+' :: r => r | t => t)).filter (· ≤ maxSize)

/-- An integer with or without a sign, from the least 64-bit integer to the largest size. -/
def integer? (t : Text) : Option Int :=
  match t with
  | '-' :: r => (digits? r).bind fun n => if n ≤ UInt64.size / 2 then some (-(n : Int)) else none
  | t => (size? t).map Int.ofNat

/-- The text without its sign. -/
def unsigned : Text → Text
  | '+' :: r | '-' :: r => r
  | t => t

/-- A decimal number without its sign: digits, and the power of ten that they count. -/
structure Decimal where
  digits : Text
  power : Int
deriving DecidableEq, Repr

/-- The integer after `e` in a decimal. -/
def power? : Text → Option Int
  | '-' :: r => (digits? r).map fun n => -(n : Int)
  | t => (digits? (unsigned t)).map Int.ofNat

/-- A number in decimal, perhaps with a sign, a fraction and an exponent. -/
def decimal? (t : Text) : Option Decimal :=
  let (mantissa, exponent) := (Text.cut 'e' ((unsigned t).map Char.toLower)).getD (unsigned t, ['0'])
  let (whole, fraction) := (Text.cut '.' mantissa).getD (mantissa, [])
  match digits? (whole ++ fraction), power? exponent with
  | some _, some power => some ⟨whole ++ fraction, power - fraction.length⟩
  | _, _ => none

/-- The least number that is nearer to `2 ^ 1024` than to any number of double precision. -/
def overflow : Nat := (1 <<< 1024) - (1 <<< 970)

/-- The number is too large for double precision. Only numbers of 309 or 310 digits before the point
need a closer look. -/
def Decimal.overflows (d : Decimal) : Bool :=
  let digits := d.digits.dropWhile (· = '0')
  let width := digits.length + d.power
  if digits = [] ∨ width < 309 then false
  else if 310 < width then true
  else overflow * Nat.pow 10 (-d.power).toNat ≤ Digit.number 10 digits * Nat.pow 10 d.power.toNat

end DefinitionServer.Numeral
