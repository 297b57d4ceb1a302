import DefinitionServer.Text.Basic

/-!
# Shapes

The axis lengths of an array value. No axis makes a scalar, one a vector, two a matrix. The number
of cells that a shape describes is the product of its axes, kept within a machine word.
-/
namespace DefinitionServer

/-- Axis lengths of an array value. -/
structure Shape where
  axes : List Nat
deriving DecidableEq, Repr, Inhabited

namespace Shape

/-- The shape of a scalar. -/
def scalar : Shape := ⟨[]⟩

/-- The shape of a vector of `n` cells. -/
def vector (n : Nat) : Shape := ⟨[n]⟩

/-- The shape of a matrix. -/
def matrix (rows cols : Nat) : Shape := ⟨[rows, cols]⟩

/-- The number of axes. -/
def rank (s : Shape) : Nat := s.axes.length

/-- The length of an axis, counted from zero. -/
def axis? (s : Shape) (i : Nat) : Option Nat := s.axes[i]?

/-- The largest cell count, that of a 64-bit word. -/
def maxVolume : Nat := UInt64.size - 1

/-- The product, when it is no larger than `maxVolume`. -/
def times? (a b : Nat) : Option Nat := if a * b ≤ maxVolume then some (a * b) else none

/-- The number of cells: the axes multiplied from the first on, and `maxVolume` as soon as a
product leaves the word. A zero axis after that point comes too late. -/
def volume (s : Shape) : Nat := (s.axes.foldlM times? 1).getD maxVolume

/-- The axes in decimal, a space between each and the next. -/
def display (s : Shape) : Text := Text.join ' ' (s.axes.map Text.ofNat)

end Shape
end DefinitionServer
