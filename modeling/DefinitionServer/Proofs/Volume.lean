import DefinitionServer.Value.Shape
import Mathlib.Algebra.BigOperators.Ring.List
import Mathlib.Algebra.GroupWithZero.Nat

/-!
# The volume of a shape

The axes of a shape are multiplied from the first on, and the volume is the greatest word as soon as
a product is greater. Without a zero axis no product is greater than the last, so the volume is the
product of the axes, cut off at the greatest word, in whatever order the axes stand. A zero axis
makes the volume zero only if the axes before it have a product that a word can hold. Behind axes
that are too large it comes too late, and then the order of the axes makes a difference.

## Main definitions

* `Shape.ZeroTooLate`: a zero axis stands behind axes whose product no word holds.
-/
namespace DefinitionServer.Shape

variable {a : Nat} {axes : List Nat}

/-! ## Products within a word -/

theorem times?_of_le {a b : Nat} (h : a * b ≤ maxVolume) : times? a b = some (a * b) := if_pos h

theorem times?_of_lt {a b : Nat} (h : maxVolume < a * b) : times? a b = none :=
  if_neg (Nat.not_le.2 h)

theorem prod_pos_of_notMem (h : 0 ∉ axes) : 0 < axes.prod :=
  Nat.pos_of_ne_zero (List.prod_ne_zero h)

theorem notMem_of_lt_prod (h : maxVolume < axes.prod) : 0 ∉ axes := fun hzero => by
  rw [List.prod_eq_zero_iff.2 hzero] at h
  exact Nat.not_lt_zero _ h

/-- Axes that are not zero only let a product grow, so it is in a word all along if it is in the
end. -/
theorem foldlM_times?_of_notMem (ha : a ≤ maxVolume) (h : 0 ∉ axes) :
    axes.foldlM times? a =
      if a * axes.prod ≤ maxVolume then some (a * axes.prod) else none := by
  induction axes generalizing a with
  | nil => simp [ha]
  | cons x axes ih =>
    obtain ⟨-, hrest⟩ := not_or.1 (mt List.mem_cons.2 h)
    rw [List.foldlM_cons, List.prod_cons, ← Nat.mul_assoc]
    by_cases hx : a * x ≤ maxVolume
    · rw [times?_of_le hx]
      exact ih hx hrest
    · have hgrows : a * x ≤ a * x * axes.prod := Nat.le_mul_of_pos_right _ (prod_pos_of_notMem hrest)
      rw [times?_of_lt (Nat.not_le.1 hx), if_neg (by omega)]
      rfl

/-- A product that is zero stays so. -/
theorem foldlM_times?_zero : axes.foldlM times? 0 = some 0 := by
  induction axes with
  | nil => rfl
  | cons x axes ih =>
    have hx : times? 0 x = some 0 := by rw [times?, Nat.zero_mul, if_pos (Nat.zero_le _)]
    rw [List.foldlM_cons, hx]
    exact ih

/-! ## Volumes -/

/-- A zero axis stands behind axes whose product no word holds. -/
def ZeroTooLate (s : Shape) : Prop :=
  ∃ front rest, s.axes = front ++ 0 :: rest ∧ maxVolume < front.prod

theorem volume_of_notMem (h : 0 ∉ axes) : volume ⟨axes⟩ = min axes.prod maxVolume := by
  rw [volume, foldlM_times?_of_notMem (by decide) h, Nat.one_mul]
  split <;> rename_i hfits
  · rw [Option.getD_some, Nat.min_eq_left hfits]
  · rw [Option.getD_none, Nat.min_eq_right (by omega)]

/-- What comes behind the first zero axis makes no difference. -/
theorem volume_append_zero {front : List Nat} (h : 0 ∉ front) (rest : List Nat) :
    volume ⟨front ++ 0 :: rest⟩ = if front.prod ≤ maxVolume then 0 else maxVolume := by
  rw [volume, List.foldlM_append, foldlM_times?_of_notMem (by decide) h, Nat.one_mul]
  split
  · have hzero : (0 :: rest).foldlM times? front.prod = some 0 := by
      rw [List.foldlM_cons, times?, Nat.mul_zero, if_pos (Nat.zero_le _)]
      exact foldlM_times?_zero
    rw [Option.bind_eq_bind, Option.bind_some, hzero]
    rfl
  · rfl

theorem volume_of_zeroTooLate {s : Shape} (h : s.ZeroTooLate) : s.volume = maxVolume := by
  obtain ⟨axes⟩ := s
  obtain ⟨front, rest, rfl, hlarge⟩ := h
  rw [volume_append_zero (notMem_of_lt_prod hlarge), if_neg (Nat.not_le.2 hlarge)]

theorem volume_of_not_zeroTooLate {s : Shape} (h : ¬ s.ZeroTooLate) :
    s.volume = min s.axes.prod maxVolume := by
  obtain ⟨axes⟩ := s
  by_cases hzero : 0 ∈ axes
  · obtain ⟨front, rest, rfl, hfront⟩ := List.eq_append_cons_of_mem hzero
    have hfits : front.prod ≤ maxVolume := Nat.not_lt.1 fun hlarge => h ⟨front, rest, rfl, hlarge⟩
    rw [volume_append_zero hfront, if_pos hfits, List.prod_eq_zero_iff.2 hzero, Nat.zero_min]
  · exact volume_of_notMem hzero

/-- The product of the axes of a matrix is its volume when each of the two products on the way is in
a word. -/
theorem volume_matrix {rows cols : Nat} (hrows : rows ≤ maxVolume)
    (hfits : rows * cols ≤ maxVolume) : (matrix rows cols).volume = rows * cols := by
  have hfirst : times? 1 rows = some rows := by
    rw [times?_of_le (by rwa [Nat.one_mul]), Nat.one_mul]
  have hfold : [rows, cols].foldlM times? 1 = some (rows * cols) := by
    rw [List.foldlM_cons, hfirst, Option.bind_eq_bind, Option.bind_some, List.foldlM_cons,
      times?_of_le hfits]
    rfl
  rw [volume, matrix, hfold, Option.getD_some]

/-! ## The order of the axes -/

/-- The axes that are not zero. -/
def nonzero (s : Shape) : List Nat := s.axes.filter (· ≠ 0)

theorem zero_notMem_nonzero (s : Shape) : 0 ∉ s.nonzero := by
  simp [nonzero]

/-- A zero axis counts wherever it stands when a word holds the product of the others. -/
theorem volume_eq_zero {s : Shape} (hzero : 0 ∈ s.axes) (hfits : s.nonzero.prod ≤ maxVolume) :
    s.volume = 0 := by
  rw [volume_of_not_zeroTooLate, List.prod_eq_zero_iff.2 hzero, Nat.zero_min]
  rintro ⟨front, rest, haxes, hlarge⟩
  have hkept : front.filter (· ≠ 0) = front :=
    List.filter_eq_self.2 fun x hx =>
      decide_eq_true (ne_of_mem_of_not_mem hx (notMem_of_lt_prod hlarge))
  rw [nonzero, haxes, List.filter_append, hkept, List.prod_append] at hfits
  have hrest := prod_pos_of_notMem (zero_notMem_nonzero ⟨0 :: rest⟩)
  exact absurd hfits (Nat.not_le.2 (Nat.lt_of_lt_of_le hlarge (Nat.le_mul_of_pos_right _ hrest)))

theorem volume_eq_of_perm {s t : Shape} (hfits : 0 ∈ s.axes → s.nonzero.prod ≤ maxVolume)
    (h : t.axes.Perm s.axes) : t.volume = s.volume := by
  by_cases hzero : 0 ∈ s.axes
  · have hnonzero : t.nonzero.prod = s.nonzero.prod := (h.filter _).prod_eq
    rw [volume_eq_zero hzero (hfits hzero),
      volume_eq_zero (h.mem_iff.2 hzero) (hnonzero ▸ hfits hzero)]
  · have ht : t.volume = min t.axes.prod maxVolume := volume_of_notMem (mt h.mem_iff.1 hzero)
    have hs : s.volume = min s.axes.prod maxVolume := volume_of_notMem hzero
    rw [ht, hs, h.prod_eq]

/-- Large axes have one volume in front of a zero axis and another behind it. -/
theorem exists_perm_volume_ne {s : Shape} (hzero : 0 ∈ s.axes)
    (hlarge : maxVolume < s.nonzero.prod) :
    ∃ t : Shape, t.axes.Perm s.axes ∧ t.volume ≠ s.volume := by
  obtain ⟨zeros, hperm⟩ : ∃ zeros, (s.nonzero ++ 0 :: zeros).Perm s.axes := by
    have hsplit := List.filter_append_perm (· ≠ 0) s.axes
    cases hrest : s.axes.filter fun x => !decide (x ≠ 0) with
    | nil => simpa using List.filter_eq_nil_iff.1 hrest 0 hzero
    | cons x zeros =>
      have hmem : x ∈ s.axes.filter fun x => !decide (x ≠ 0) := hrest ▸ List.mem_cons_self
      obtain rfl : x = 0 := by simpa using (List.mem_filter.1 hmem).2
      exact ⟨zeros, hrest ▸ hsplit⟩
  have hbehind : volume ⟨s.nonzero ++ 0 :: zeros⟩ = maxVolume :=
    volume_of_zeroTooLate ⟨s.nonzero, zeros, rfl, hlarge⟩
  have hfront : volume ⟨0 :: zeros ++ s.nonzero⟩ = 0 :=
    volume_append_zero List.not_mem_nil (zeros ++ s.nonzero)
  by_cases hs : s.volume = 0
  · refine ⟨⟨s.nonzero ++ 0 :: zeros⟩, hperm, ?_⟩
    rw [hbehind, hs]
    decide
  · refine ⟨⟨0 :: zeros ++ s.nonzero⟩, List.perm_append_comm.trans hperm, ?_⟩
    rw [hfront]
    exact Ne.symm hs

/-- **The volume is the product of the axes, cut off at the greatest word, unless a zero axis stands
behind axes that are too large.** Then it is the greatest word. The order of the axes makes no
difference exactly when there is no zero axis or a word holds the product of the others. -/
theorem volume_eq_saturated_iff (s : Shape) :
    (s.volume = min s.axes.prod maxVolume ↔ ¬ s.ZeroTooLate) ∧
      (s.ZeroTooLate → s.axes.prod = 0 ∧ s.volume = maxVolume) ∧
      ((∀ t : Shape, t.axes.Perm s.axes → t.volume = s.volume) ↔
        (0 ∈ s.axes → s.nonzero.prod ≤ maxVolume)) := by
  have hlate (h : s.ZeroTooLate) : s.axes.prod = 0 ∧ s.volume = maxVolume := by
    obtain ⟨front, rest, haxes, -⟩ := id h
    exact ⟨List.prod_eq_zero_iff.2 (by simp [haxes]), volume_of_zeroTooLate h⟩
  refine ⟨⟨fun hvolume h => ?_, volume_of_not_zeroTooLate⟩, hlate, fun hall hzero => ?_,
    fun hfits t ht => volume_eq_of_perm hfits ht⟩
  · rw [(hlate h).1, (hlate h).2] at hvolume
    exact absurd hvolume (by decide)
  · by_contra hlarge
    obtain ⟨t, ht, hne⟩ := exists_perm_volume_ne hzero (Nat.not_le.1 hlarge)
    exact hne (hall t ht)

/-- An array of no cells whose shape has the greatest volume. With the zero axis in front its volume
is zero. -/
theorem volume_two_large_axes :
    let s : Shape := ⟨[2 ^ 32, 2 ^ 32, 0]⟩
    s.axes.prod = 0 ∧ s.volume = maxVolume ∧ volume ⟨[0, 2 ^ 32, 2 ^ 32]⟩ = 0 ∧
      ¬ (∀ s : Shape, s.volume = min s.axes.prod maxVolume) ∧
      ¬ ∀ s t : Shape, t.axes.Perm s.axes → t.volume = s.volume := by
  intro s
  have hprod : s.axes.prod = 0 := by decide
  have hbehind : s.volume = maxVolume := by decide
  have hfront : volume ⟨[0, 2 ^ 32, 2 ^ 32]⟩ = 0 := by decide
  refine ⟨hprod, hbehind, hfront, fun hall => ?_, fun hall => ?_⟩
  · have hmin := hall s
    rw [hprod, hbehind] at hmin
    exact absurd hmin (by decide)
  · have hsame := hall s ⟨[0, 2 ^ 32, 2 ^ 32]⟩ (by decide)
    rw [hfront, hbehind] at hsame
    exact absurd hsame (by decide)

end DefinitionServer.Shape
