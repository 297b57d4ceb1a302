import DefinitionServer.Proofs.CharacterRows
import DefinitionServer.Proofs.Filling
import DefinitionServer.Proofs.Volume
import DefinitionServer.Workspace.Basic

/-!
# The rows of a matrix

The rows of a matrix are cut from its cells by the second axis alone. The structural check makes the
cut come out even: there are as many cells as the axes say, so there are as many rows as the first
axis says, the last is as long as the others, and no cell is lost. A matrix without columns has no
cells to cut, and its first axis alone says how many empty rows there are. That may be more than a
list can hold, and then there is no answer, although no cell is anything but a character.

## Main definitions

* `Value.InRows`: the cells are the characters of so many rows of one length.
-/
namespace DefinitionServer.Value

variable {v : Value} {n cols : Nat} {rows : List Text}

/-- The cells are the characters of `n` rows of length `cols`, one row after the other. -/
structure InRows (v : Value) (n cols : Nat) (rows : List Text) : Prop where
  length_eq : rows.length = n
  length_row : ∀ row ∈ rows, row.length = cols
  ravel_eq : v.ravel = rows.flatten.map .char

/-! ## The cells of a checked matrix -/

/-- A matrix that passes its check has a cell for each row and column. -/
theorem count_of_check (haxes : v.shape.axes = [n, cols]) (hcheck : v.check = .ok ())
    (hfits : n * cols ≤ Shape.maxVolume) (hlong : ¬ v.TooLong) : v.count = n * cols := by
  -- Without columns the product says nothing about the first axis, but the rows are not too many.
  have hn : n ≤ Shape.maxVolume := by
    have hmax : maxRows ≤ Shape.maxVolume := by decide
    rw [tooLong_iff haxes] at hlong
    rcases Nat.eq_zero_or_pos cols with rfl | hcols
    · omega
    · exact (Nat.le_mul_of_pos_right n hcols).trans hfits
  have hshape : v.shape = .matrix n cols := congrArg Shape.mk haxes
  have hfull : v.count = v.shape.volume := ((check_eq_ok_iff v).1 hcheck).1
  rw [hfull, hshape, Shape.volume_matrix hn hfits]

theorem forall_char_iff {cells : List Cell} :
    (∀ c ∈ cells, c.char?.isSome) ↔ ∃ t : Text, cells = t.map .char := by
  constructor
  · intro h
    induction cells with
    | nil => exact ⟨[], rfl⟩
    | cons c cells ih =>
      obtain ⟨hc, hcells⟩ := List.forall_mem_cons.1 h
      obtain ⟨t, rfl⟩ := ih hcells
      cases c with
      | char x => exact ⟨x :: t, rfl⟩
      | int m => simp [Cell.char?] at hc
      | pointer u => simp [Cell.char?] at hc
  · rintro ⟨t, rfl⟩
    simp [Cell.char?]

/-! ## The rows it is cut into -/

/-- Stretches as long as there are columns come out as so many rows. -/
theorem inRows_iff_stretches (hcols : 0 < cols) (hcount : v.count = n * cols) :
    v.InRows n cols rows ↔ Stretches cols rows ∧ v.ravel = rows.flatten.map .char := by
  constructor
  · rintro ⟨-, hrow, hravel⟩
    exact ⟨stretches_of_length hcols hrow, hravel⟩
  · rintro ⟨hs, hravel⟩
    have hlength : rows.flatten.length = n * cols := by
      rw [← hcount, count, hravel, List.length_map]
    obtain ⟨hrows, hrow⟩ := hs.of_length_flatten hcols hlength
    exact ⟨hrows, hrow, hravel⟩

/-- Without columns and without cells, the rows are empty. -/
theorem inRows_noColumns_iff (hcount : v.count = 0) :
    v.InRows n 0 rows ↔ rows = List.replicate n [] := by
  constructor
  · rintro ⟨hlength, hrow, -⟩
    exact List.eq_replicate_iff.2 ⟨hlength, fun row h => List.eq_nil_of_length_eq_zero (hrow row h)⟩
  · rintro rfl
    refine ⟨List.length_replicate, fun row h => ?_, ?_⟩
    · rw [List.eq_of_mem_replicate h, List.length_nil]
    · rw [List.eq_nil_of_length_eq_zero hcount, List.flatten_replicate_nil, List.map_nil]

/-- With a cell for each row and column, a matrix has the rows that its cells come out as. -/
theorem hasRows_iff_inRows (haxes : v.shape.axes = [n, cols]) (hcount : v.count = n * cols) :
    v.HasRows rows ↔ v.InRows n cols rows := by
  rcases Nat.eq_zero_or_pos cols with rfl | hcols
  · rw [hasRows_of_noColumns haxes, inRows_noColumns_iff hcount]
  · rw [hasRows_of_matrix haxes hcols, matrixRows_eq_ok_iff hcols,
      inRows_iff_stretches hcols hcount]

/-- With a cell for each row and column, it is enough that the cells are characters. -/
theorem exists_inRows_iff (hcount : v.count = n * cols) :
    (∃ rows, v.InRows n cols rows) ↔ ∀ c ∈ v.ravel, c.char?.isSome := by
  rw [forall_char_iff]
  constructor
  · rintro ⟨rows, h⟩
    exact ⟨rows.flatten, h.ravel_eq⟩
  · rintro ⟨t, ht⟩
    rcases Nat.eq_zero_or_pos cols with rfl | hcols
    · exact ⟨_, (inRows_noColumns_iff hcount).2 rfl⟩
    · obtain ⟨hs, hflat⟩ := stretches_chunks hcols t
      exact ⟨chunks cols t, (inRows_iff_stretches hcols hcount).2 ⟨hs, by rw [hflat, ht]⟩⟩

/-- **The rows of a matrix hold all that is in it.** The matrix passes its check, and a word holds the
product of its axes. It has rows exactly when its cells are characters, unless it has no columns and
more rows than a list can hold, which leaves it without an answer. The rows are as many as the first
axis says, each as long as the second says, and one after the other they are the cells in order. -/
theorem rows_matrix_iff (haxes : v.shape.axes = [n, cols]) (hcheck : v.check = .ok ())
    (hfits : n * cols ≤ Shape.maxVolume) :
    ((∃ rows, v.rows = .ok rows) ↔
        (∀ c ∈ v.ravel, c.char?.isSome) ∧ ¬ (cols = 0 ∧ maxRows < n)) ∧
      (∀ rows, v.rows = .ok rows ↔ v.InRows n cols rows ∧ ¬ (cols = 0 ∧ maxRows < n)) ∧
      (v.rows = .error .tooMany ↔ cols = 0 ∧ maxRows < n) := by
  have hcount : ¬ v.TooLong → v.count = n * cols := count_of_check haxes hcheck hfits
  have hok (rows : List Text) :
      v.rows = .ok rows ↔ v.InRows n cols rows ∧ ¬ (cols = 0 ∧ maxRows < n) := by
    rw [rows_eq_ok_iff, ← tooLong_iff haxes]
    exact and_congr_left fun hlong => hasRows_iff_inRows haxes (hcount hlong)
  refine ⟨?_, hok, rows_eq_tooMany_iff.trans (tooLong_iff haxes)⟩
  simp only [hok, exists_and_right, ← tooLong_iff haxes]
  exact and_congr_left fun hlong => exists_inRows_iff (hcount hlong)

/-- Two rows of three characters, and two rows of none. -/
theorem rows_matrix_two_rows :
    let v := mk (.matrix 2 3) ("F∇\nab ".toList.map .char)
    let w := empty (.matrix 2 0)
    (v.check = .ok () ∧ 2 * 3 ≤ Shape.maxVolume ∧ v.rows = .ok ["F∇\n".toList, "ab ".toList]) ∧
      w.check = .ok () ∧ 2 * 0 ≤ Shape.maxVolume ∧ w.rows = .ok [[], []] := by
  intro v w
  have hv : v.check = .ok () := by rfl
  have hw : w.check = .ok () := by rfl
  have hfits : 2 * 3 ≤ Shape.maxVolume ∧ 2 * 0 ≤ Shape.maxVolume := by decide
  refine ⟨⟨hv, hfits.1, ?_⟩, hw, hfits.2, ?_⟩
  · exact ((rows_matrix_iff rfl hv hfits.1).2.1 _).2 ⟨⟨rfl, by decide, rfl⟩, by decide⟩
  · exact ((rows_matrix_iff rfl hw hfits.2).2.1 _).2 ⟨⟨rfl, by decide, rfl⟩, by decide⟩

/-- The longest matrix without columns. It is full and has no cell that is not a character, but no
rows, and a definition from it has no answer. -/
theorem rows_matrix_longest :
    let v := empty (.matrix Shape.maxVolume 0)
    v.check = .ok () ∧ (∀ c ∈ v.ravel, c.char?.isSome) ∧ v.rows = .error .tooMany ∧
      (Workspace.empty.define v).1 = .error .exhausted ∧
      ¬ ∀ (v : Value) (n cols : Nat), v.shape.axes = [n, cols] → v.check = .ok () →
        n * cols ≤ Shape.maxVolume →
        ((∃ rows, v.rows = .ok rows) ↔ ∀ c ∈ v.ravel, c.char?.isSome) := by
  intro v
  have hcheck : v.check = .ok () := by rfl
  have hcells : ∀ c ∈ v.ravel, c.char?.isSome := List.forall_mem_nil _
  have hrows : v.rows = .error .tooMany := by rfl
  refine ⟨hcheck, hcells, hrows, by rfl, fun hall => ?_⟩
  obtain ⟨rows, hok⟩ := (hall v _ _ rfl hcheck (Nat.zero_le _)).2 hcells
  rw [hrows] at hok
  exact absurd hok (by simp)

end DefinitionServer.Value
