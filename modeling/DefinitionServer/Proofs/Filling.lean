import DefinitionServer.Proofs.StructuralCheck

/-!
# Filling a value

Cells are pushed onto an empty value one after the other. A push finds a place as long as there are
fewer cells than the shape describes, and the later ones fail and change nothing. So the value holds
the first cells, up to the volume of its shape, and passes its check when there were enough of them
and those that are pointers lead to values that pass theirs.

## Main definitions

* `Value.pushAll`: pushes cells one after the other.
-/
namespace DefinitionServer.Value

variable {v : Value} {c : Cell}

/-! ## One push -/

theorem push_of_lt (h : v.count < v.shape.volume) (c : Cell) :
    v.push c = .ok (mk v.shape (v.ravel ++ [c])) :=
  if_pos h

theorem push_of_le (h : v.shape.volume ≤ v.count) (c : Cell) :
    v.push c = .error (.overflow v.shape.volume) :=
  if_neg (Nat.not_lt.2 h)

/-- How many places of the ravel are free. -/
def free (v : Value) : Nat := v.shape.volume - v.count

theorem free_concat (s : Shape) (ravel : List Cell) (c : Cell) :
    (mk s (ravel ++ [c])).free = (mk s ravel).free - 1 := by
  simp only [free, count, shape_mk, ravel_mk, List.length_append, List.length_singleton]
  omega

/-! ## Many pushes -/

/-- Pushes cells one after the other: what each push gives, and the value after them. A push that
fails leaves the value to the next one as it was. -/
def pushAll (v : Value) : List Cell → List (Except ValueError Unit) × Value
  | [] => ([], v)
  | c :: cs =>
    match v.push c with
    | .ok w => (.ok () :: (w.pushAll cs).1, (w.pushAll cs).2)
    | .error e => (.error e :: (v.pushAll cs).1, (v.pushAll cs).2)

/-- A push that finds a place is the beginning of filling the places behind it. -/
theorem pushAll_cons_of_lt (h : v.count < v.shape.volume) (c : Cell) (cs : List Cell) :
    v.pushAll (c :: cs) =
      (.ok () :: ((mk v.shape (v.ravel ++ [c])).pushAll cs).1,
        ((mk v.shape (v.ravel ++ [c])).pushAll cs).2) := by
  rw [pushAll, push_of_lt h]

theorem pushAll_cons_of_le (h : v.shape.volume ≤ v.count) (c : Cell) (cs : List Cell) :
    v.pushAll (c :: cs) =
      (.error (.overflow v.shape.volume) :: (v.pushAll cs).1, (v.pushAll cs).2) := by
  rw [pushAll, push_of_le h]

/-- A value takes the first cells, up to its free places. -/
theorem pushAll_value (v : Value) (cs : List Cell) :
    (v.pushAll cs).2 = mk v.shape (v.ravel ++ cs.take v.free) := by
  induction cs generalizing v with
  | nil => simp [pushAll]
  | cons c cs ih =>
    by_cases h : v.count < v.shape.volume
    · have hfree : v.free = v.free - 1 + 1 := by rw [free]; omega
      have hleft : (mk v.shape (v.ravel ++ [c])).free = v.free - 1 := free_concat _ _ _
      rw [pushAll_cons_of_lt h, ih, hleft, hfree, List.take_succ_cons]
      simp
    · have hfree : v.free = 0 := by rw [free]; omega
      rw [pushAll_cons_of_le (Nat.not_lt.1 h), ih, hfree, List.take_zero, List.take_zero]

/-- The pushes succeed up to the free places, and those after them fail. -/
theorem pushAll_results (v : Value) (cs : List Cell) :
    (v.pushAll cs).1 = (List.range cs.length).map fun i =>
      if i < v.free then .ok () else .error (.overflow v.shape.volume) := by
  induction cs generalizing v with
  | nil => rfl
  | cons c cs ih =>
    rw [List.length_cons, List.range_succ_eq_map, List.map_cons, List.map_map]
    by_cases h : v.count < v.shape.volume
    · have hfree : 0 < v.free := by rw [free]; omega
      have hleft : (mk v.shape (v.ravel ++ [c])).free = v.free - 1 := free_concat _ _ _
      rw [pushAll_cons_of_lt h, ih, hleft, if_pos hfree]
      refine congrArg (_ :: ·) (List.map_congr_left fun i _ => ?_)
      exact if_congr (by omega) rfl rfl
    · have hfree : v.free = 0 := by rw [free]; omega
      rw [pushAll_cons_of_le (Nat.not_lt.1 h), ih, hfree]
      simp only [Nat.not_lt_zero, if_false, Function.comp_def]

/-! ## The check of what was filled -/

/-- The check passes at any depth when every value that is led to is full. -/
theorem checkAt_eq_ok_iff (depth : Nat) (v : Value) :
    checkAt depth v = .ok () ↔ ∀ path w, v.Leads path w → w.Full := by
  have hverdict := verdict_checkAt depth v
  generalize checkAt depth v = r at hverdict
  cases hverdict with
  | whole hall => exact iff_of_true rfl hall
  | @fault path w h => exact iff_of_false (by simp) fun hall => h.not_full (hall path w h.led)

/-- A value passes when it is full and those that its pointers lead to pass. -/
theorem check_eq_ok_iff (v : Value) :
    v.check = .ok () ↔ v.Full ∧ ∀ u, .pointer u ∈ v.ravel → u.check = .ok () := by
  simp only [check, checkAt_eq_ok_iff]
  constructor
  · intro hall
    refine ⟨hall [] v .here, fun u hu path w hl => ?_⟩
    obtain ⟨i, hi⟩ := List.mem_iff_getElem?.1 hu
    exact hall (i :: path) w (.step hi hl)
  · rintro ⟨hfull, hcells⟩ path w hl
    cases hl with
    | here => exact hfull
    | step hc hl => exact hcells _ (List.mem_of_getElem? hc) _ _ hl

/-- **Filling keeps to the shape.** Of the cells that are pushed onto an empty value, each finds a
place whose number is below the volume, and each that is not fails with the volume as the capacity
and leaves the value as it was. The value holds the first cells, as many as were pushed or as its
volume is. It passes the check exactly when there were enough and every value that a kept pointer
leads to passes. -/
theorem pushAll_empty (s : Shape) (cs : List Cell) :
    let filled := fun n => ((empty s).pushAll (cs.take n)).2
    let r := (empty s).pushAll cs
    (r.1 = (List.range cs.length).map fun i =>
        if i < s.volume then .ok () else .error (.overflow s.volume)) ∧
      (∀ i, s.volume ≤ i → filled (i + 1) = filled i) ∧
      r.2.shape = s ∧ r.2.ravel = cs.take (min cs.length s.volume) ∧
      (r.2.check = .ok () ↔
        s.volume ≤ cs.length ∧ ∀ u, .pointer u ∈ r.2.ravel → u.check = .ok ()) := by
  intro filled r
  have hvalue (ds : List Cell) : ((empty s).pushAll ds).2 = mk s (ds.take s.volume) :=
    pushAll_value (empty s) ds
  refine ⟨pushAll_results (empty s) cs, fun i hi => ?_, ?_, ?_, ?_⟩
  · change ((empty s).pushAll (cs.take (i + 1))).2 = ((empty s).pushAll (cs.take i)).2
    rw [hvalue, hvalue, List.take_take, List.take_take, Nat.min_eq_left hi,
      Nat.min_eq_left (Nat.le_succ_of_le hi)]
  · rw [hvalue cs, shape_mk]
  · rw [hvalue cs, ravel_mk, Nat.min_comm, ← List.take_take, List.take_length]
  · have hfull : r.2.Full ↔ s.volume ≤ cs.length := by
      rw [Full, hvalue cs, count, ravel_mk, shape_mk, List.length_take]
      omega
    rw [check_eq_ok_iff, hfull]

/-- A scalar takes one cell, and a matrix without columns none. -/
example : (((empty .scalar).pushAll [.char 'a', .char 'b']).1 = [.ok (), .error (.overflow 1)] ∧
    ((empty (.matrix 3 0)).pushAll [.char 'a']).2 = empty (.matrix 3 0)) := by
  decide

end DefinitionServer.Value
