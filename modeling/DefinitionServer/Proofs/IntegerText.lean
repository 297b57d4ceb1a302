import DefinitionServer.Data.Numeral
import DefinitionServer.Proofs.CharacterRows
import DefinitionServer.Proofs.Digits
import DefinitionServer.Proofs.Words

/-!
# Integers as text

An array of integers is displayed as their decimal digits, with a high minus before those of a
negative one and a space between each integer and the next. A reader that takes the text apart at its
spaces gets the integers again, whatever the shape is, and it gets them from an array of pointers to
integers as well. So arrays are displayed alike only when they hold the same integers in the same
order.

## Main definitions

* `Text.integer?`, `Text.integers?`: the integers that a text writes.
* `Cell.HoldsInteger`: a cell is an integer or leads to one that is alone.
-/
namespace DefinitionServer

/-! ## Written integers -/

namespace Text

variable {n : Nat} {c : Char}

/-- The integer that digits write, with a high minus before those of a negative one. -/
def integer? : Text → Option Int
  | '¯' :: digits => (Numeral.digits? digits).map fun n : Nat => -(n : Int)
  | digits => (Numeral.digits? digits).map Int.ofNat

/-- The integers that the words of a text write. -/
def integers? (t : Text) : Option (List Int) := t.words.mapM integer?

theorem isDigit_of_mem_ofNat (h : c ∈ ofNat n) : c.isDigit = true :=
  Nat.isDigit_of_mem_toDigits (by decide) (by decide) h

theorem isBlank_of_isDigit (h : c.isDigit = true) : isBlank c = false := by
  obtain ⟨hlow, hhigh⟩ : 48 ≤ c.toNat ∧ c.toNat ≤ 57 := Char.isDigit_iff_toNat.1 h
  have hapart : ∀ r ∈ blanks, r.2 < 48 ∨ 57 < r.1 := by decide
  by_contra hblank
  obtain ⟨r, hr, hlo, hhi⟩ := Ranges.exists_of_holds (Bool.not_eq_false _ ▸ hblank)
  have hr := hapart r hr
  omega

theorem digits?_ofNat (n : Nat) : Numeral.digits? (ofNat n) = some n := by
  have hdigits : (ofNat n).all Char.isDigit = true :=
    List.all_eq_true.2 fun _ hc => isDigit_of_mem_ofNat hc
  rw [Numeral.digits?, if_pos ⟨Nat.toDigits_ne_nil, hdigits⟩, ofNat,
    Digit.number_toDigits (by decide) (by decide)]

/-- A natural number begins with a digit, so it does not read as a negative one. -/
theorem integer?_ofNat (n : Nat) : integer? (ofNat n) = some n := by
  rw [integer?]
  · rw [digits?_ofNat]
    rfl
  · intro digits hdigits
    have hdigit : '¯'.isDigit = true := isDigit_of_mem_ofNat (hdigits ▸ List.mem_cons_self)
    exact absurd hdigit (by decide)

/-- What is written of an integer reads as the integer. The least one has a magnitude that is no
integer of 64 bits, but it is written as a natural number. -/
theorem integer?_ofInt (n : Int64) : integer? (ofInt n) = some n.toInt := by
  rw [ofInt]
  split <;> rename_i hsign
  · rw [integer?, digits?_ofNat, Option.map_some]
    exact congrArg some (by omega)
  · rw [integer?_ofNat]
    exact congrArg some (by omega)

theorem word_ofInt (n : Int64) : Word (ofInt n) := by
  have hblank : ∀ c ∈ ofNat n.toInt.natAbs, isBlank c = false := fun _ hc =>
    isBlank_of_isDigit (isDigit_of_mem_ofNat hc)
  rw [ofInt]
  split
  · exact ⟨List.cons_ne_nil _ _, List.forall_mem_cons.2 ⟨by decide, hblank⟩⟩
  · exact ⟨Nat.toDigits_ne_nil, hblank⟩

section Join

variable (ns : List Int64)

theorem words_join_ofInt : words (join ' ' (ns.map ofInt)) = ns.map ofInt :=
  (spaced_join (List.forall_mem_map.2 fun n _ => word_ofInt n)).words_eq

/-- Integers with a space between each and the next read as the integers. -/
theorem integers?_join : integers? (join ' ' (ns.map ofInt)) = some (ns.map Int64.toInt) := by
  rw [integers?, words_join_ofInt, mapM_eq_some_iff, List.forall₂_map_left_iff,
    List.forall₂_map_right_iff]
  exact List.forall₂_same.2 fun n _ => integer?_ofInt n

/-- One space stands between an integer and the next, and none elsewhere. -/
theorem splitOn_join_ofInt (hne : ns ≠ []) :
    (join ' ' (ns.map ofInt)).splitOn ' ' = ns.map ofInt := by
  refine List.splitOn_intercalate ' ' ?_ (mt List.map_eq_nil_iff.1 hne)
  refine List.forall_mem_map.2 fun n _ hspace => ?_
  exact absurd ((word_ofInt n).2 ' ' hspace) (by decide)

end Join
end Text

/-! ## Cells of integers -/

/-- The cell holds an integer: it is the integer, or leads to an array with one cell, which holds
it. -/
inductive Cell.HoldsInteger : Cell → Int64 → Prop
  | int (n : Int64) : HoldsInteger (.int n) n
  | pointer {v : Value} {c : Cell} {n : Int64} (hv : v.ravel = [c]) (h : HoldsInteger c n) :
      HoldsInteger (.pointer v) n

namespace Value

open Text (join ofInt)

variable {v : Value} {c : Cell} {cells : List Cell} {n : Int64} {ns : List Int64}

/-- The cells of an array of integers hold them. -/
theorem holdsInteger_map_int (ns : List Int64) :
    List.Forall₂ Cell.HoldsInteger (ns.map .int) ns :=
  List.forall₂_map_left_iff.2 (List.forall₂_same.2 fun n _ => .int n)

/-- The cells of a vector of pointers to integer scalars hold the integers. -/
theorem holdsInteger_items (ns : List Int64) :
    List.Forall₂ Cell.HoldsInteger (items (ns.map int)).ravel ns := by
  rw [items, ravel_mk, List.map_map]
  exact List.forall₂_map_left_iff.2 (List.forall₂_same.2 fun n _ => .pointer rfl (.int n))

/-! ## Their text -/

theorem display_of_ravel_nil (h : v.ravel = []) : v.display = [] := by
  obtain ⟨shape, ravel⟩ := v
  obtain rfl : ravel = [] := h
  rw [display]
  split <;> rename_i htext
  · exact List.map_eq_nil_iff.1 (text?_eq_some_iff.1 htext).2.symm
  · rw [displayCells, join, List.intercalate_nil]

/-- An array with a cell that is no character is not displayed as text. -/
theorem display_of_mem (hc : c ∈ v.ravel) (hchar : c.char? = none) :
    v.display = join ' ' (displayCells v.ravel) := by
  obtain ⟨shape, ravel⟩ := v
  rw [display]
  split <;> rename_i htext
  · rw [(text?_eq_some_iff.1 htext).2] at hc
    obtain ⟨x, -, rfl⟩ := List.mem_map.1 hc
    simp [Cell.char?] at hchar
  · rfl

theorem char?_of_holdsInteger (h : c.HoldsInteger n) : c.char? = none := by
  cases h <;> rfl

/-- The cell is displayed as its integer, however deep it is. -/
theorem displayCells_cons (h : c.HoldsInteger n) (cells : List Cell) :
    displayCells (c :: cells) = ofInt n :: displayCells cells := by
  induction h generalizing cells with
  | int n => rw [displayCells]
  | @pointer v c n hv h ih =>
    have hc : c ∈ v.ravel := hv ▸ List.mem_singleton_self c
    rw [displayCells, display_of_mem hc (char?_of_holdsInteger h), hv, ih, displayCells,
      Text.join_singleton]

theorem displayCells_eq (h : List.Forall₂ Cell.HoldsInteger cells ns) :
    displayCells cells = ns.map ofInt := by
  induction h with
  | nil => rw [displayCells, List.map_nil]
  | cons hc _ ih => rw [displayCells_cons hc, ih, List.map_cons]

theorem display_eq_join (h : List.Forall₂ Cell.HoldsInteger v.ravel ns) :
    v.display = join ' ' (ns.map ofInt) := by
  cases hravel : v.ravel with
  | nil =>
    obtain rfl : ns = [] := List.forall₂_nil_left_iff.1 (hravel ▸ h)
    rw [display_of_ravel_nil hravel, List.map_nil, join, List.intercalate_nil]
  | cons c cells =>
    obtain ⟨n, -, hc, -, -⟩ := List.forall₂_cons_left_iff.1 (hravel ▸ h)
    have hmem : c ∈ v.ravel := hravel ▸ List.mem_cons_self
    rw [display_of_mem hmem (char?_of_holdsInteger hc), displayCells_eq h]

/-- **Integers read back from the text of an array.** The array has any shape, and each cell is an
integer or leads to one. The words of the text write the integers in their order. They are what
stands between its spaces, but that an array without cells has an empty text and no words. So two
such arrays have one text exactly when their integers are the same. -/
theorem display_integers (h : List.Forall₂ Cell.HoldsInteger v.ravel ns) :
    v.display.integers? = some (ns.map Int64.toInt) ∧
      (ns = [] ∧ v.display = [] ∨ v.display.splitOn ' ' = v.display.words) ∧
      ∀ (w : Value) (ms : List Int64), List.Forall₂ Cell.HoldsInteger w.ravel ms →
        (w.display = v.display ↔ ms = ns) := by
  have hread {u : Value} {ks : List Int64} (hu : List.Forall₂ Cell.HoldsInteger u.ravel ks) :
      u.display.integers? = some (ks.map Int64.toInt) := by
    rw [display_eq_join hu, Text.integers?_join]
  refine ⟨hread h, ?_, fun w ms hw => ⟨fun hsame => ?_, ?_⟩⟩
  · rw [display_eq_join h]
    by_cases hne : ns = []
    · exact .inl ⟨hne, by rw [hne]; rfl⟩
    · exact .inr (by rw [Text.splitOn_join_ofInt ns hne, Text.words_join_ofInt])
  · have hints := hread hw
    rw [hsame, hread h, Option.some.injEq] at hints
    exact (List.map_injective_iff.2 fun _ _ => Int64.toInt_inj.1) hints.symm
  · rintro rfl
    rw [display_eq_join hw, display_eq_join h]

/-- The least integer and others, as a matrix and as a vector of pointers to scalars. -/
theorem display_integers_least :
    let ns : List Int64 := [Int64.minValue, 0, -1, 42]
    let v := mk (.matrix 2 2) (ns.map .int)
    let w := items (ns.map int)
    List.Forall₂ Cell.HoldsInteger v.ravel ns ∧ List.Forall₂ Cell.HoldsInteger w.ravel ns ∧
      v.display.integers? = some [-9223372036854775808, 0, -1, 42] ∧ w.display = v.display ∧
      v.display = "¯9223372036854775808 0 ¯1 42".toList := by
  intro ns v w
  have hv : List.Forall₂ Cell.HoldsInteger v.ravel ns := holdsInteger_map_int ns
  have hw : List.Forall₂ Cell.HoldsInteger w.ravel ns := holdsInteger_items ns
  obtain ⟨hread, -, hsame⟩ := display_integers hv
  exact ⟨hv, hw, hread, (hsame w ns hw).2 rfl, by decide +kernel⟩

end Value
end DefinitionServer
