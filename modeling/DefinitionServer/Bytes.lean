/-!
# Bytes and lines

What travels over a connection is a list of bytes. It is read in lines, which end in a line feed
that one carriage return may precede. The same cut serves bytes and characters.
-/
namespace DefinitionServer

/-- A stretch of a byte stream. -/
abbrev Bytes := List UInt8

namespace Bytes

/-- Line feed. -/
def lf : UInt8 := 10

/-- Carriage return. -/
def cr : UInt8 := 13

end Bytes

namespace Lines

variable {α : Type} [DecidableEq α]

/-- The list without one trailing `x`. -/
def dropFinal (x : α) (l : List α) : List α :=
  if l.getLast? = some x then l.dropLast else l

/-- The bytes through the first `lf`, and those after it. Without a line feed that is everything,
and nothing. -/
def next (lf : α) : List α → List α × List α
  | [] => ([], [])
  | x :: xs => if x = lf then ([x], xs) else ((x :: (next lf xs).1), (next lf xs).2)

/-- A line that ends in `lf` loses it, and then one `cr` before it. A line without a line feed
stays as it is. -/
def content (lf cr : α) (l : List α) : List α :=
  if l.getLast? = some lf then dropFinal cr l.dropLast else l

/-- The lines of a whole list. Only an empty piece after the last line feed is no line. -/
def split (lf cr : α) (l : List α) : List (List α) :=
  let pieces := l.splitOn lf
  let ended := pieces.dropLast.map (dropFinal cr)
  match pieces.getLast? with
  | some (x :: xs) => ended ++ [x :: xs]
  | _ => ended

theorem length_next (lf : α) (l : List α) : (next lf l).1.length + (next lf l).2.length = l.length := by
  induction l with
  | nil => rfl
  | cons x xs ih => by_cases h : x = lf <;> simp [next, h] <;> omega

theorem next_ne_nil (lf : α) {l : List α} (h : l ≠ []) : (next lf l).1 ≠ [] := by
  cases l with
  | nil => exact absurd rfl h
  | cons x xs => by_cases hx : x = lf <;> simp [next, hx]

end Lines
end DefinitionServer
