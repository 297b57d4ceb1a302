import DefinitionServer.Value.Basic
import Mathlib.Data.List.Lex
import Mathlib.Order.Lattice.Nat

/-!
# What the structural check finds

A value and those that its pointers lead to make a tree. A place in it is the path that leads there:
at each step, where in the ravel the pointer stands. Paths are in the order of a dictionary, so a
value comes before what it contains, and what stands earlier in a ravel before what stands later. The
check passes exactly when there are as many cells everywhere as the shapes describe. It fails with
the first place, in this order, where there are not: the length of its path is the depth it tells.

## Main definitions

* `Value.Leads`: a path leads from a value to another.
* `Value.Full`: a value has as many cells as its shape describes.
* `Value.FirstFault`: a path leads to the first value that is not full.
* `Value.Verdict`: what a check of some places must come to.
-/
namespace DefinitionServer.Value

variable {u v w : Value} {c : Cell} {cells : List Cell} {path : List Nat} {depth : Nat}

/-! ## Places -/

/-- A path leads from a value to another: each step goes through the pointer at that place of the
ravel. -/
inductive Leads : Value → List Nat → Value → Prop
  | here {v : Value} : Leads v [] v
  | step {u v w : Value} {i : Nat} {path : List Nat} (hc : v.cell? i = some (.pointer u))
      (h : Leads u path w) : Leads v (i :: path) w

/-- A path leads to one value only. -/
theorem Leads.unique (h : v.Leads path w) (h' : v.Leads path u) : w = u := by
  induction h with
  | here =>
    cases h'
    rfl
  | step hc _ ih =>
    cases h' with
    | step hc' h' =>
      obtain rfl : _ = _ := Cell.pointer.inj (Option.some.inj (hc.symm.trans hc'))
      exact ih h'

/-- A path leads from one of the cells to a value. -/
def Within (cells : List Cell) (path : List Nat) (w : Value) : Prop :=
  ∃ i rest u, path = i :: rest ∧ cells[i]? = some (.pointer u) ∧ u.Leads rest w

theorem leads_iff : v.Leads path w ↔ path = [] ∧ w = v ∨ Within v.ravel path w := by
  constructor
  · rintro (_ | ⟨hc, h⟩)
    · exact .inl ⟨rfl, rfl⟩
    · exact .inr ⟨_, _, _, rfl, hc, h⟩
  · rintro (⟨rfl, rfl⟩ | ⟨i, rest, u, rfl, hc, h⟩)
    · exact .here
    · exact .step hc h

theorem not_within_nil : ¬ Within [] path w := by
  rintro ⟨i, rest, u, -, hc, -⟩
  simp at hc

/-- What is within cells is in the first or within the others. -/
theorem within_cons : Within (c :: cells) path w ↔
    (∃ u rest, c = .pointer u ∧ path = 0 :: rest ∧ u.Leads rest w) ∨
      ∃ i rest, path = (i + 1) :: rest ∧ Within cells (i :: rest) w := by
  constructor
  · rintro ⟨_ | i, rest, u, rfl, hc, h⟩
    · exact .inl ⟨u, rest, Option.some.inj hc, rfl, h⟩
    · exact .inr ⟨i, rest, rfl, i, rest, u, rfl, hc, h⟩
  · rintro (⟨u, rest, rfl, rfl, h⟩ | ⟨i, rest, rfl, j, rest', u, heq, hc, h⟩)
    · exact ⟨0, rest, u, rfl, rfl, h⟩
    · obtain ⟨rfl, rfl⟩ := List.cons.inj heq
      exact ⟨i + 1, rest, u, rfl, hc, h⟩

/-! ## Verdicts -/

/-- The value has as many cells as its shape describes. -/
def Full (v : Value) : Prop := v.count = v.shape.volume

/-- Of the values at some places, the one at this path is the first that is not full. -/
structure FirstFault (leads : List Nat → Value → Prop) (path : List Nat) (w : Value) : Prop where
  led : leads path w
  not_full : ¬ w.Full
  first : ∀ q u, leads q u → q < path → u.Full

/-- What a check of some places comes to: all values there are full, or the first that is not is
told, with its depth below that of the empty path. -/
inductive Verdict (leads : List Nat → Value → Prop) (depth : Nat) : Except ValueError Unit → Prop
  | whole (h : ∀ path w, leads path w → w.Full) : Verdict leads depth (.ok ())
  | fault {path : List Nat} {w : Value} (h : FirstFault leads path w) :
      Verdict leads depth (.error (.structural (depth + path.length) w.shape.volume w.count))

variable {r : Except ValueError Unit} {e : ValueError}

theorem Verdict.of_firstFault {leads : List Nat → Value → Prop} {d : Nat}
    (h : FirstFault leads path w) (hd : d = depth + path.length) :
    Verdict leads depth (.error (.structural d w.shape.volume w.count)) := by
  subst hd
  exact .fault h

theorem Verdict.of_not_full (hv : ¬ v.Full) :
    Verdict v.Leads depth (.error (.structural depth v.shape.volume v.count)) :=
  .fault ⟨.here, hv, fun _ _ _ hq => absurd hq (List.not_lt_nil _)⟩

/-- A full value is judged by its cells. -/
theorem Verdict.of_full (hv : v.Full) (h : Verdict (Within v.ravel) depth r) :
    Verdict v.Leads depth r := by
  cases h with
  | whole h =>
    refine .whole fun path w hl => ?_
    rcases leads_iff.1 hl with ⟨-, rfl⟩ | hl
    · exact hv
    · exact h path w hl
  | fault h =>
    refine .fault ⟨leads_iff.2 (.inr h.led), h.not_full, fun q u hq hlt => ?_⟩
    rcases leads_iff.1 hq with ⟨-, rfl⟩ | hq
    · exact hv
    · exact h.first q u hq hlt

/-- Where the first cell leads to full values only, the other cells are judged. -/
theorem Verdict.cons (hc : ∀ u, c = .pointer u → ∀ path w, u.Leads path w → w.Full)
    (h : Verdict (Within cells) depth r) : Verdict (Within (c :: cells)) depth r := by
  cases h with
  | whole h =>
    refine .whole fun path w hl => ?_
    rcases within_cons.1 hl with ⟨u, rest, rfl, -, hu⟩ | ⟨i, rest, -, hl⟩
    · exact hc u rfl rest w hu
    · exact h _ w hl
  | @fault path w h =>
    obtain ⟨i, rest, u, rfl, -, -⟩ := id h.led
    have hfault : FirstFault (Within (c :: cells)) ((i + 1) :: rest) w := by
      refine ⟨within_cons.2 (.inr ⟨i, rest, rfl, h.led⟩), h.not_full, ?_⟩
      intro q u hq hlt
      rcases within_cons.1 hq with ⟨u', rest', rfl, -, hu'⟩ | ⟨j, rest', rfl, hq'⟩
      · exact hc u' rfl rest' u hu'
      · refine h.first _ u hq' ?_
        rw [List.cons_lt_cons_iff] at hlt ⊢
        simpa using hlt
    exact .of_firstFault hfault (by rw [List.length_cons, List.length_cons])

/-- A fault that the first cell leads to comes before the other cells. -/
theorem Verdict.cons_of_error (h : Verdict u.Leads (depth + 1) (.error e)) :
    Verdict (Within (.pointer u :: cells)) depth (.error e) := by
  cases h with
  | @fault path w h =>
    have hfault : FirstFault (Within (.pointer u :: cells)) (0 :: path) w := by
      refine ⟨within_cons.2 (.inl ⟨u, path, rfl, rfl, h.led⟩), h.not_full, ?_⟩
      intro q w' hq hlt
      rcases within_cons.1 hq with ⟨u', rest, hu', rfl, hq'⟩ | ⟨i, rest, rfl, -⟩
      · obtain rfl := Cell.pointer.inj hu'
        rw [List.cons_lt_cons_iff] at hlt
        exact h.first rest w' hq' (by simpa using hlt)
      · rw [List.cons_lt_cons_iff] at hlt
        simp at hlt
    exact .of_firstFault hfault (by rw [List.length_cons]; omega)

/-! ## The check -/

mutual

theorem verdict_checkAt (depth : Nat) : (v : Value) → Verdict v.Leads depth (checkAt depth v)
  | mk shape ravel => by
    rw [checkAt]
    split <;> rename_i hcount
    · exact .of_full hcount.symm (verdict_checkCells depth ravel)
    · exact .of_not_full (v := mk shape ravel) (Ne.symm hcount)

theorem verdict_checkCells (depth : Nat) :
    (cells : List Cell) → Verdict (Within cells) depth (checkCells (depth + 1) cells)
  | [] => by
    rw [checkCells]
    exact .whole fun _ _ hl => absurd hl not_within_nil
  | .char a :: cells => by
    rw [checkCells]
    exact .cons (fun u hu => by simp at hu) (verdict_checkCells depth cells)
  | .int n :: cells => by
    rw [checkCells]
    exact .cons (fun u hu => by simp at hu) (verdict_checkCells depth cells)
  | .pointer v :: cells => by
    have hv := verdict_checkAt (depth + 1) v
    rw [checkCells]
    split <;> rename_i hcheck <;> rw [hcheck] at hv
    · refine .cons (fun u hu => ?_) (verdict_checkCells depth cells)
      obtain rfl := Cell.pointer.inj hu
      cases hv with
      | whole h => exact h
    · exact hv.cons_of_error

end

/-- There is at most one first fault. -/
theorem FirstFault.unique {q : List Nat} (h : FirstFault v.Leads path w)
    (h' : FirstFault v.Leads q u) : path = q ∧ w = u := by
  rcases lt_trichotomy path q with hlt | rfl | hlt
  · exact absurd (h'.first path w h.led hlt) h.not_full
  · exact ⟨rfl, h.led.unique h'.led⟩
  · exact absurd (h.first q u h'.led hlt) h'.not_full

/-- **The check finds the first value, if any, that is not full.** It passes exactly when every
value that a path leads to is full. It fails with exactly the depth, the volume and the count of the
first that is not, where a value comes before its contents and these come in the order of the
ravel. -/
theorem check_firstFault (v : Value) :
    (v.check = .ok () ↔ ∀ path w, v.Leads path w → w.Full) ∧
      ∀ e, v.check = .error e ↔ ∃ path w, FirstFault v.Leads path w ∧
        e = .structural path.length w.shape.volume w.count := by
  have hverdict : Verdict v.Leads 0 v.check := verdict_checkAt 0 v
  generalize v.check = r at hverdict
  cases hverdict with
  | whole hall =>
    refine ⟨iff_of_true rfl hall, fun e => iff_of_false (by simp) ?_⟩
    rintro ⟨path, w, h, -⟩
    exact h.not_full (hall path w h.led)
  | @fault path w h =>
    refine ⟨iff_of_false (by simp) fun hall => h.not_full (hall path w h.led), fun e => ?_⟩
    rw [Nat.zero_add]
    constructor
    · intro he
      exact ⟨path, w, h, (Except.error.inj he).symm⟩
    · rintro ⟨q, u, h', rfl⟩
      obtain ⟨rfl, rfl⟩ := h.unique h'
      rfl

/-- Of two faults the deeper is told when it is in the earlier cell. -/
example :
    let deep := mk (.vector 1) [.pointer (mk (.vector 2) [])]
    let late := mk (.vector 3) []
    (mk (.vector 2) [.pointer deep, .pointer late]).check = .error (.structural 2 2 0) := by
  rfl

end DefinitionServer.Value
