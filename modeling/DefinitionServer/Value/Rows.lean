import DefinitionServer.Text.Utf8
import DefinitionServer.Value.Basic

/-!
# Text in values

How text goes into values and comes out of them: the rows of a vector of character vectors or of
a character matrix, a block of byte lines as such a vector, and the one-line form of any value.
-/
namespace DefinitionServer

/-- Consecutive stretches of `n` elements, at least one in each. The last one may be shorter. -/
def chunks {α : Type} (n : Nat) : List α → List (List α)
  | [] => []
  | x :: xs => (x :: xs.take (n - 1)) :: chunks n (xs.drop (n - 1))
termination_by l => l.length
decreasing_by simp only [List.length_drop, List.length_cons]; omega

/-- A decimal number, with a high minus before a negative one. -/
def Text.ofInt (n : Int64) : Text :=
  if n.toInt < 0 then '¯' :: Text.ofNat n.toInt.natAbs else Text.ofNat n.toInt.natAbs

namespace Value

/-- The text of a character scalar or a character vector. -/
def text? (v : Value) : Option Text :=
  if 1 < v.rank then none else v.ravel.mapM Cell.char?

/-- The row that an element of a vector holds. A character is a row of its own. -/
def row? : Cell → Option Text
  | .char c => some [c]
  | .pointer v => v.text?
  | .int _ => none

/-- Why a value has no rows. -/
inductive RowFault where
  /-- It is no vector or matrix, or holds something other than text. -/
  | notText
  /-- No memory holds so many rows. -/
  | tooMany
deriving DecidableEq, Repr

/-- The longest list of texts that fits in the address space, at 24 bytes for each. -/
def maxRows : Nat := (UInt64.size / 2 - 1) / 24

/-- The rows of a matrix with the given axes, cut from its cells. Without columns every row is
empty, and the first axis alone says how many there are. -/
def matrixRows (rows cols : Nat) (cells : List Cell) : Except RowFault (List Text) :=
  if cols = 0 then
    if rows ≤ maxRows then .ok (List.replicate rows []) else .error .tooMany
  else
    match (chunks cols cells).mapM fun row => row.mapM Cell.char? with
    | some texts => .ok texts
    | none => .error .notText

/-- The rows of a vector of character vectors or of a character matrix. -/
def rows (v : Value) : Except RowFault (List Text) :=
  match v.shape.axes with
  | [_] =>
    match v.ravel.mapM row? with
    | some texts => .ok texts
    | none => .error .notText
  | [rows, cols] => matrixRows rows cols v.ravel
  | _ => .error .notText

mutual

/-- The value on one line: text as it is, and other cells with a space between them. -/
def display : Value → Text
  | mk shape ravel =>
    match (mk shape ravel).text? with
    | some text => text
    | none => Text.join ' ' (displayCells ravel)

/-- The text of each cell. -/
def displayCells : List Cell → List Text
  | [] => []
  | .char c :: cells => [c] :: displayCells cells
  | .int n :: cells => Text.ofInt n :: displayCells cells
  | .pointer v :: cells => display v :: displayCells cells

end

/-! ## Blocks of lines -/

/-- The character vector of one line, filled character by character. -/
def ofLine (line : Bytes) : Except ValueError Value :=
  let text := Text.Utf8.decodeLossy line
  (empty (.vector text.length)).fill (text.map .char)

/-- The vector of the character vectors of the lines, in order. Ill-formed bytes become
replacement characters. The finished value passes its structural check. -/
def ofLines (lines : List Bytes) : Except ValueError Value := do
  let rows ← lines.mapM ofLine
  let block ← (empty (.vector lines.length)).fill (rows.map .pointer)
  block.check
  return block

end Value
end DefinitionServer
