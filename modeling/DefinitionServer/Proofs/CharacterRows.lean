import DefinitionServer.Value.Rows
import Mathlib.Data.List.Forall2

/-!
# The rows of an array

A vector has rows when every element holds one: a character, or an array of characters with one axis
at most. A matrix has rows when its cells are characters, cut into stretches as long as its second
axis. A matrix without columns has as many empty rows as its first axis says, whatever that is, so
there is one for which no list is long enough. No other array has rows.

## Main definitions

* `Stretches`: a list is cut into stretches of a given length.
* `Value.HasRows`: an array has these rows.
* `Value.TooLong`: an array has more rows than a list can hold.
-/
namespace DefinitionServer

/-! ## Stretches -/

section Stretches

variable {α β : Type} {n : Nat}

/-- The lists are not empty and have the given length, but the last may be shorter. -/
inductive Stretches (n : Nat) : List (List α) → Prop
  | nil : Stretches n []
  | last {c : List α} (hne : c ≠ []) (hlen : c.length ≤ n) : Stretches n [c]
  | cons {c d : List α} {cs : List (List α)} (hlen : c.length = n) (h : Stretches n (d :: cs)) :
      Stretches n (c :: d :: cs)

theorem chunks_of_length_le {c : List α} (hne : c ≠ []) (hlen : c.length ≤ n) :
    chunks n c = [c] := by
  cases c with
  | nil => exact absurd rfl hne
  | cons x xs =>
    have hxs : xs.length ≤ n - 1 := by
      rw [List.length_cons] at hlen
      omega
    rw [chunks, List.take_of_length_le hxs, List.drop_of_length_le hxs, chunks]

theorem chunks_append (hn : 0 < n) {c : List α} (hlen : c.length = n) (l : List α) :
    chunks n (c ++ l) = c :: chunks n l := by
  cases c with
  | nil =>
    rw [List.length_nil] at hlen
    omega
  | cons x xs =>
    have hxs : xs.length = n - 1 := by
      rw [List.length_cons] at hlen
      omega
    rw [List.cons_append, chunks, List.take_left' hxs, List.drop_left' hxs]

theorem stretches_chunks (hn : 0 < n) (l : List α) :
    Stretches n (chunks n l) ∧ (chunks n l).flatten = l := by
  induction l using chunks.induct n with
  | case1 => exact ⟨by rw [chunks]; exact .nil, by rw [chunks]; rfl⟩
  | case2 x xs ih =>
    obtain ⟨hs, hflat⟩ := ih
    rw [chunks, List.flatten_cons, hflat, List.cons_append, List.take_append_drop]
    refine ⟨?_, rfl⟩
    cases hrest : xs.drop (n - 1) with
    | nil =>
      rw [chunks]
      exact .last (List.cons_ne_nil _ _) (by rw [List.length_cons, List.length_take]; omega)
    | cons y ys =>
      rw [hrest, chunks] at hs
      rw [chunks]
      refine .cons ?_ hs
      have hlen := congrArg List.length hrest
      rw [List.length_drop, List.length_cons] at hlen
      rw [List.length_cons, List.length_take]
      omega

/-- There is one way to cut a list into stretches. -/
theorem chunks_eq_iff (hn : 0 < n) {l : List α} {cs : List (List α)} :
    chunks n l = cs ↔ l = cs.flatten ∧ Stretches n cs := by
  constructor
  · rintro rfl
    obtain ⟨hs, hflat⟩ := stretches_chunks hn l
    exact ⟨hflat.symm, hs⟩
  · rintro ⟨rfl, hs⟩
    induction hs with
    | nil => rw [List.flatten_nil, chunks]
    | last hne hlen => rw [List.flatten_singleton, chunks_of_length_le hne hlen]
    | cons hlen _ ih => rw [List.flatten_cons, chunks_append hn hlen, ih]

/-- Lists of one length are stretches of it. -/
theorem stretches_of_length (hn : 0 < n) {cs : List (List α)} (h : ∀ c ∈ cs, c.length = n) :
    Stretches n cs := by
  induction cs with
  | nil => exact .nil
  | cons c cs ih =>
    obtain ⟨hc, hcs⟩ := List.forall_mem_cons.1 h
    cases cs with
    | nil => exact .last (List.ne_nil_of_length_pos (by omega)) (by omega)
    | cons d cs => exact .cons hc (ih hcs)

/-- The last stretch is not shorter when a whole number of them is as long as the list. -/
theorem Stretches.of_length_flatten (hn : 0 < n) {cs : List (List α)} (h : Stretches n cs) {k : Nat}
    (hlen : cs.flatten.length = k * n) : cs.length = k ∧ ∀ c ∈ cs, c.length = n := by
  induction h generalizing k with
  | nil =>
    have hk : k = 0 := (Nat.mul_eq_zero.1 hlen.symm).resolve_right (Nat.ne_of_gt hn)
    exact ⟨hk.symm, fun c hc => absurd hc List.not_mem_nil⟩
  | @last c hne hle =>
    rw [List.flatten_singleton] at hlen
    have hpos : 0 < k := Nat.pos_of_mul_pos_right (hlen ▸ List.length_pos_of_ne_nil hne)
    have hone : k ≤ 1 := Nat.le_of_mul_le_mul_right (by omega) hn
    obtain rfl : k = 1 := by omega
    refine ⟨rfl, fun c' hc' => ?_⟩
    rw [List.mem_singleton.1 hc', hlen, Nat.one_mul]
  | @cons c d cs hc _ ih =>
    rw [List.flatten_cons, List.length_append, hc] at hlen
    cases k with
    | zero => omega
    | succ k =>
      rw [Nat.succ_mul] at hlen
      obtain ⟨hcount, hlengths⟩ := ih (k := k) (by omega)
      exact ⟨congrArg (· + 1) hcount, List.forall_mem_cons.2 ⟨hc, hlengths⟩⟩

/-- What a list holds makes no difference to its stretches. -/
theorem stretches_map_iff {f : α → β} {cs : List (List α)} :
    Stretches n (cs.map (List.map f)) ↔ Stretches n cs := by
  induction cs with
  | nil => exact ⟨fun _ => .nil, fun _ => .nil⟩
  | cons c cs ih =>
    cases cs with
    | nil =>
      constructor
      · rintro (_ | ⟨hne, hlen⟩)
        exact .last (by simpa using hne) (by simpa using hlen)
      · rintro (_ | ⟨hne, hlen⟩)
        exact .last (by simpa using hne) (by simpa using hlen)
    | cons d cs =>
      constructor
      · rintro (_ | _ | ⟨hlen, hs⟩)
        exact .cons (by simpa using hlen) (ih.1 hs)
      · rintro (_ | _ | ⟨hlen, hs⟩)
        exact .cons (by simpa using hlen) (ih.2 hs)

theorem mapM_eq_some_iff {f : α → Option β} {as : List α} {bs : List β} :
    as.mapM f = some bs ↔ List.Forall₂ (fun a b => f a = some b) as bs := by
  induction as generalizing bs with
  | nil => cases bs <;> simp
  | cons a as ih =>
    cases bs with
    | nil => simp [List.mapM_cons, Option.bind_eq_some_iff]
    | cons b bs => simp [List.mapM_cons, Option.bind_eq_some_iff, ih]

end Stretches

/-! ## Cells of text -/

/-- The cell holds a row: it leads to the row, or it is the only character of it. -/
inductive Cell.HoldsRow : Cell → Text → Prop
  | char (c : Char) : HoldsRow (.char c) [c]
  | pointer {v : Value} {row : Text} (hr : v.rank ≤ 1) (hc : v.ravel = row.map .char) :
      HoldsRow (.pointer v) row

namespace Value

theorem mapM_char?_eq_some_iff {cells : List Cell} {t : Text} :
    cells.mapM Cell.char? = some t ↔ cells = t.map .char := by
  have hcell (cell : Cell) (c : Char) : cell.char? = some c ↔ cell = .char c := by
    cases cell <;> simp [Cell.char?]
  simp only [mapM_eq_some_iff, hcell]
  rw [← List.forall₂_map_right_iff (R := Eq), List.forall₂_eq_eq_eq]

theorem text?_eq_some_iff {v : Value} {t : Text} :
    v.text? = some t ↔ v.rank ≤ 1 ∧ v.ravel = t.map .char := by
  rw [text?]
  split
  · simp
    omega
  · rw [mapM_char?_eq_some_iff]
    exact ⟨fun h => ⟨by omega, h⟩, And.right⟩

theorem row?_eq_some_iff {cell : Cell} {row : Text} :
    row? cell = some row ↔ cell.HoldsRow row := by
  constructor
  · intro h
    cases cell with
    | char c =>
      obtain rfl := Option.some.inj h
      exact .char c
    | int n => simp [row?] at h
    | pointer v =>
      obtain ⟨hr, hc⟩ := text?_eq_some_iff.1 h
      exact .pointer hr hc
  · rintro (c | ⟨hr, hc⟩)
    · rfl
    · exact text?_eq_some_iff.2 ⟨hr, hc⟩

/-! ## Rows -/

/-- The array has these rows. -/
inductive HasRows (v : Value) : List Text → Prop
  | vector {n : Nat} {rows : List Text} (ha : v.shape.axes = [n])
      (h : List.Forall₂ Cell.HoldsRow v.ravel rows) : HasRows v rows
  | matrix {n cols : Nat} {rows : List Text} (ha : v.shape.axes = [n, cols]) (hcols : 0 < cols)
      (hs : Stretches cols rows) (h : v.ravel = rows.flatten.map .char) : HasRows v rows
  | noColumns {n : Nat} (ha : v.shape.axes = [n, 0]) : HasRows v (List.replicate n [])

/-- The array is a matrix of more empty rows than a list can hold. -/
def TooLong (v : Value) : Prop := ∃ n, maxRows < n ∧ v.shape.axes = [n, 0]

theorem TooLong.rank_eq {v : Value} (h : v.TooLong) : v.rank = 2 := by
  obtain ⟨n, -, ha⟩ := h
  rw [rank, Shape.rank, ha]
  rfl

theorem tooLong_iff {v : Value} {n cols : Nat} (ha : v.shape.axes = [n, cols]) :
    v.TooLong ↔ cols = 0 ∧ maxRows < n := by
  constructor
  · rintro ⟨m, hm, ha'⟩
    simp only [ha, List.cons.injEq, and_true] at ha'
    obtain ⟨rfl, rfl⟩ := ha'
    exact ⟨rfl, hm⟩
  · rintro ⟨rfl, hn⟩
    exact ⟨n, hn, ha⟩

theorem matrixRows_eq_ok_iff {n cols : Nat} (hcols : 0 < cols) {cells : List Cell}
    {rows : List Text} :
    matrixRows n cols cells = .ok rows ↔
      Stretches cols rows ∧ cells = rows.flatten.map .char := by
  have hmapM : ((chunks cols cells).mapM fun row => row.mapM Cell.char?) = some rows ↔
      chunks cols cells = rows.map (List.map .char) := by
    rw [mapM_eq_some_iff]
    simp only [mapM_char?_eq_some_iff]
    rw [← List.forall₂_map_right_iff (R := Eq), List.forall₂_eq_eq_eq]
  have hchunks : chunks cols cells = rows.map (List.map .char) ↔
      Stretches cols rows ∧ cells = rows.flatten.map .char := by
    rw [chunks_eq_iff hcols, List.map_flatten, and_comm, stretches_map_iff]
  rw [matrixRows, if_neg (by omega), ← hchunks, ← hmapM]
  split <;> simp [*]

section Axes

variable {v : Value} {rows : List Text} {n : Nat}

theorem hasRows_of_vector (ha : v.shape.axes = [n]) :
    v.HasRows rows ↔ v.ravel.mapM row? = some rows := by
  rw [mapM_eq_some_iff]
  simp only [row?_eq_some_iff]
  constructor
  · rintro (⟨-, h⟩ | ⟨h, -, -, -⟩ | h)
    · exact h
    all_goals simp [ha] at h
  · exact .vector ha

theorem hasRows_of_matrix {cols : Nat} (ha : v.shape.axes = [n, cols]) (hcols : 0 < cols) :
    v.HasRows rows ↔ matrixRows n cols v.ravel = .ok rows := by
  rw [matrixRows_eq_ok_iff hcols]
  constructor
  · rintro (⟨h, -⟩ | ⟨h, -, hs, hcells⟩ | h)
    · simp [ha] at h
    · simp only [ha, List.cons.injEq, and_true] at h
      obtain ⟨-, rfl⟩ := h
      exact ⟨hs, hcells⟩
    · simp only [ha, List.cons.injEq, and_true] at h
      omega
  · rintro ⟨hs, hcells⟩
    exact .matrix ha hcols hs hcells

theorem hasRows_of_noColumns (ha : v.shape.axes = [n, 0]) :
    v.HasRows rows ↔ rows = List.replicate n [] := by
  constructor
  · rintro (⟨h, -⟩ | ⟨h, hcols, -, -⟩ | h)
    · simp [ha] at h
    · simp only [ha, List.cons.injEq, and_true] at h
      omega
    · simp only [ha, List.cons.injEq, and_true] at h
      rw [h]
  · rintro rfl
    exact .noColumns ha

end Axes

variable {v : Value} {rows : List Text}

/-- Only a matrix without columns can have too many rows. -/
theorem rows_eq_tooMany_iff : v.rows = .error .tooMany ↔ v.TooLong := by
  rw [Value.rows, TooLong]
  split
  · split <;> simp [*]
  · rename_i n cols ha
    rw [matrixRows, ha]
    split <;> rename_i hcols
    · split <;> simp [hcols] <;> omega
    · split <;> simp [hcols]
  · rename_i hmatrix
    simp only [Except.error.injEq, reduceCtorEq, false_iff, not_exists, not_and]
    exact fun n _ ha => hmatrix n 0 ha

/-- The rows of an array are the rows it has, unless these are too many. -/
theorem rows_eq_ok_iff : v.rows = .ok rows ↔ v.HasRows rows ∧ ¬ v.TooLong := by
  rw [← rows_eq_tooMany_iff, Value.rows]
  split
  · rename_i n ha
    rw [hasRows_of_vector ha]
    split <;> simp [*]
  · rename_i n cols ha
    rcases Nat.eq_zero_or_pos cols with rfl | hcols
    · rw [hasRows_of_noColumns ha, matrixRows, if_pos rfl]
      split <;> simp [eq_comm]
    · rw [hasRows_of_matrix ha hcols]
      constructor
      · intro h
        simp [h]
      · exact And.left
  · rename_i hvector hmatrix
    simp only [reduceCtorEq, false_iff, not_and]
    rintro (⟨ha, -⟩ | ⟨ha, -, -, -⟩ | ha)
    · exact absurd ha (hvector _)
    · exact absurd ha (hmatrix _ _)
    · exact absurd ha (hmatrix _ _)

/-- An array is no text when it does not have any rows. -/
theorem rows_eq_notText_iff : v.rows = .error .notText ↔ ∀ rows, ¬ v.HasRows rows := by
  constructor
  · intro h rows hrows
    by_cases hlong : v.TooLong
    · simp [rows_eq_tooMany_iff.2 hlong] at h
    · simp [rows_eq_ok_iff.2 ⟨hrows, hlong⟩] at h
  · intro h
    rcases hv : v.rows with (_ | _) | rows
    · rfl
    · obtain ⟨n, -, ha⟩ := rows_eq_tooMany_iff.1 hv
      exact absurd (.noColumns ha) (h _)
    · exact absurd (rows_eq_ok_iff.1 hv).1 (h rows)

end Value
end DefinitionServer
