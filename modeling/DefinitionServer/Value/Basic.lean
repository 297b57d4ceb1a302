import DefinitionServer.Value.Shape

/-!
# Array values

A value is a shape and its ravel, the cells in row order. It starts empty for its shape and is
filled cell by cell, so a ravel may hold fewer cells than the shape describes but never more.
`check` finds the first value, at any depth of nesting, that is not full.
-/
namespace DefinitionServer

mutual

/-- An element of a ravel. -/
inductive Cell where
  | char (c : Char)
  | int (n : Int64)
  | pointer (v : Value)

/-- An array value: its shape and the cells filled so far. -/
inductive Value where
  | mk (shape : Shape) (ravel : List Cell)

end

/-- What can be wrong while a value is built or checked. -/
inductive ValueError where
  /-- A value `depth` pointers below the outermost holds `actual` cells in place of `expected`. -/
  | structural (depth expected actual : Nat)
  /-- A cell was pushed onto a value that was full. -/
  | overflow (capacity : Nat)
deriving DecidableEq, Repr

/-- The wording of the error. -/
def ValueError.message : ValueError → Text
  | structural depth expected actual =>
    "structural invariant violated at depth ".toList ++ Text.ofNat depth
      ++ ": shape declares ".toList ++ Text.ofNat expected
      ++ " cells, ravel holds ".toList ++ Text.ofNat actual
  | overflow capacity =>
    "ravel overflow: value holds at most ".toList ++ Text.ofNat capacity ++ " cells".toList

namespace Cell

/-- The character of a character cell. -/
def char? : Cell → Option Char
  | char c => some c
  | _ => none

/-- The value that a pointer cell leads to. -/
def nested? : Cell → Option Value
  | pointer v => some v
  | _ => none

end Cell

namespace Value

/-- The declared shape. -/
def shape : Value → Shape
  | mk shape _ => shape

/-- The cells filled so far. -/
def ravel : Value → List Cell
  | mk _ ravel => ravel

@[simp] theorem shape_mk (s : Shape) (r : List Cell) : (mk s r).shape = s := rfl
@[simp] theorem ravel_mk (s : Shape) (r : List Cell) : (mk s r).ravel = r := rfl
@[simp] theorem mk_shape_ravel (v : Value) : mk v.shape v.ravel = v := by cases v; rfl

/-- The number of axes. -/
def rank (v : Value) : Nat := v.shape.rank

/-- The number of cells filled so far. -/
def count (v : Value) : Nat := v.ravel.length

/-- The cell at a place of the ravel. -/
def cell? (v : Value) (i : Nat) : Option Cell := v.ravel[i]?

/-! ## Making values -/

/-- A value of the given shape with no cell filled. -/
def empty (s : Shape) : Value := mk s []

instance : Inhabited Value := ⟨empty .scalar⟩
instance : Inhabited Cell := ⟨.pointer default⟩

/-- The vector of the characters of a text. -/
def chars (t : Text) : Value := mk (.vector t.length) (t.map .char)

/-- A vector of pointers to the given values. -/
def items (vs : List Value) : Value := mk (.vector vs.length) (vs.map .pointer)

/-- An integer scalar. -/
def int (n : Int64) : Value := mk .scalar [.int n]

/-- Fills the next free place. -/
def push (v : Value) (c : Cell) : Except ValueError Value :=
  if v.count < v.shape.volume then .ok (mk v.shape (v.ravel ++ [c]))
  else .error (.overflow v.shape.volume)

/-- Fills the next free places with the given cells, in order, or fails with the first that finds
no place. -/
def fill (v : Value) (cs : List Cell) : Except ValueError Value :=
  if v.count + cs.length ≤ v.shape.volume ∨ cs = [] then .ok (mk v.shape (v.ravel ++ cs))
  else .error (.overflow v.shape.volume)

@[simp] theorem fill_nil (v : Value) : v.fill [] = .ok v := by simp [fill]

/-- Filling is pushing one cell after the other. -/
theorem fill_cons (v : Value) (c : Cell) (cs : List Cell) :
    v.fill (c :: cs) = v.push c >>= fun w => w.fill cs := by
  by_cases hv : v.count < v.shape.volume
  · have hp : v.push c = .ok (mk v.shape (v.ravel ++ [c])) := by simp [push, hv]
    rw [hp]
    change _ = fill _ cs
    simp only [count] at hv
    cases cs with
    | nil => simp [fill, count]; omega
    | cons d ds => simp [fill, count, Nat.add_assoc, Nat.add_comm 1]
  · have hp : v.push c = .error (.overflow v.shape.volume) := by simp [push, hv]
    rw [hp]
    change _ = Except.error _
    have : ¬ v.count + (cs.length + 1) ≤ v.shape.volume := by omega
    simp [fill, this]

/-! ## The structural check -/

mutual

/-- The check of a value that lies `depth` pointers below the outermost. -/
def checkAt (depth : Nat) : Value → Except ValueError Unit
  | mk shape ravel =>
    if shape.volume = ravel.length then checkCells (depth + 1) ravel
    else .error (.structural depth shape.volume ravel.length)

/-- The check of the values that the cells lead to, in ravel order. -/
def checkCells (depth : Nat) : List Cell → Except ValueError Unit
  | [] => .ok ()
  | .pointer v :: cells =>
    match checkAt depth v with
    | .ok () => checkCells depth cells
    | .error e => .error e
  | .char _ :: cells => checkCells depth cells
  | .int _ :: cells => checkCells depth cells

end

/-- Fails at the first value, outermost first and then in ravel order, whose cell count is not
the volume of its shape. -/
def check (v : Value) : Except ValueError Unit := checkAt 0 v

end Value

/-! ## Equality -/

mutual

/-- Equality of values is decided cell by cell. -/
def Value.decEq : (v w : Value) → Decidable (v = w)
  | .mk s r, .mk t q =>
    if h : s = t then
      match decEqCells r q with
      | isTrue hc => isTrue (by rw [h, hc])
      | isFalse hc => isFalse (by simp [hc])
    else isFalse (by simp [h])

/-- Equality of cells is decided by their kind and content. -/
def Cell.decEq : (c d : Cell) → Decidable (c = d)
  | .char a, .char b => if h : a = b then isTrue (by rw [h]) else isFalse (by simp [h])
  | .int m, .int n => if h : m = n then isTrue (by rw [h]) else isFalse (by simp [h])
  | .pointer v, .pointer w =>
    match Value.decEq v w with
    | isTrue h => isTrue (by rw [h])
    | isFalse h => isFalse (by simp [h])
  | .char _, .int _ | .char _, .pointer _ | .int _, .char _ | .int _, .pointer _
  | .pointer _, .char _ | .pointer _, .int _ => isFalse (by simp)

/-- Equality of ravels is decided cell by cell. -/
def decEqCells : (r q : List Cell) → Decidable (r = q)
  | [], [] => isTrue rfl
  | [], _ :: _ => isFalse (by simp)
  | _ :: _, [] => isFalse (by simp)
  | c :: r, d :: q =>
    match Cell.decEq c d with
    | isTrue h =>
      match decEqCells r q with
      | isTrue hr => isTrue (by rw [h, hr])
      | isFalse hr => isFalse (by simp [hr])
    | isFalse h => isFalse (by simp [h])

end

instance : DecidableEq Value := Value.decEq
instance : DecidableEq Cell := Cell.decEq

end DefinitionServer
