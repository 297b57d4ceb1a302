import DefinitionServer.Text.Basic

/-!
# String literals

Texts as settings write them between double quotes: on one line, with escapes. Some readers know
two escapes more than others.

## Main definitions

* `StringLiteral.read`: reads a literal after its opening quote.
-/
namespace DefinitionServer.StringLiteral

/-- The control characters that stand in no literal. -/
def isControl (c : Char) : Bool := (c.toNat < 0x20 && c ≠ '\t') || c = '\x7F'

/-- The character that hexadecimal digits number. -/
def scalar? (digits : Text) : Option Char :=
  let n := Digit.number 16 digits
  if h : n.isValidChar then
    if digits.all (Digit.isBelow 16) then some (Char.ofNatAux n h) else none
  else none

/-- The character that an escape stands for, after its backslash. With `more`, `e` stands for the
escape character and `x` for a character by two digits. -/
def escape (more : Bool) : (t : Text) → Option (Scanned Char t)
  | 'b' :: r => some ⟨'\x08', r, Nat.lt_add_one _⟩
  | 't' :: r => some ⟨'\t', r, Nat.lt_add_one _⟩
  | 'n' :: r => some ⟨'\n', r, Nat.lt_add_one _⟩
  | 'f' :: r => some ⟨'\x0C', r, Nat.lt_add_one _⟩
  | 'r' :: r => some ⟨'\r', r, Nat.lt_add_one _⟩
  | '"' :: r => some ⟨'"', r, Nat.lt_add_one _⟩
  | '\\' :: r => some ⟨'\\', r, Nat.lt_add_one _⟩
  | 'u' :: a :: b :: c :: d :: r =>
    (scalar? [a, b, c, d]).map (⟨·, r, Nat.lt_add_of_pos_right (k := 5) (Nat.succ_pos 4)⟩)
  | 'U' :: a :: b :: c :: d :: e :: f :: g :: h :: r =>
    (scalar? [a, b, c, d, e, f, g, h]).map
      (⟨·, r, Nat.lt_add_of_pos_right (k := 9) (Nat.succ_pos 8)⟩)
  | 'e' :: r => if more then some ⟨'\x1B', r, Nat.lt_add_one _⟩ else none
  | 'x' :: a :: b :: r =>
    if more then (scalar? [a, b]).map (⟨·, r, Nat.lt_add_of_pos_right (k := 3) (Nat.succ_pos 2)⟩)
    else none
  | _ => none

/-- The text of a literal whose opening quote has been read. -/
def read (more : Bool) : (t : Text) → Option (Scanned Text t)
  | [] => none
  | '"' :: r => some ⟨[], r, by simp⟩
  | '\\' :: r => do
    let c ← escape more r
    let tail ← read more c.rest
    return tail.widen (c.value :: ·) (by have := c.shorter; simp only [List.length_cons]; omega)
  | c :: r => do
    if isControl c then none
    let tail ← read more r
    return tail.widen (c :: ·) (by simp)
termination_by t => t.length
decreasing_by
  all_goals simp only [List.length_cons]
  · have := c.shorter; omega
  · omega

end DefinitionServer.StringLiteral
