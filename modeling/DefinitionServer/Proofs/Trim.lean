import DefinitionServer.Text.Basic
import Mathlib.Data.List.TakeWhile

/-!
# Trimming

Trimming a text takes blanks off its ends and nothing else, so blanks at the ends make no
difference to it. A piece before a separator that is no blank may therefore be trimmed after the
whole text was.
-/
namespace DefinitionServer.Text

theorem Ranges.exists_of_holds {rs : Ranges} {n : Nat} (h : rs.holds n = true) :
    ∃ r ∈ rs, r.1 ≤ n ∧ n ≤ r.2 := by
  induction rs with
  | nil => simp [Ranges.holds] at h
  | cons r rs ih =>
    obtain ⟨lo, hi⟩ := r
    rw [Ranges.holds] at h
    split at h
    · simp at h
    · rename_i hlo
      rcases Bool.or_eq_true _ _ |>.mp h with hhi | hrest
      · exact ⟨(lo, hi), List.mem_cons_self, Nat.le_of_not_lt hlo, of_decide_eq_true hhi⟩
      · obtain ⟨r, hr, hn⟩ := ih hrest
        exact ⟨r, List.mem_cons_of_mem _ hr, hn⟩

/-- What is left of a list without its ends stands between these ends. -/
theorem exists_trimmed {α : Type} (q : α → Bool) (l : List α) : ∃ before after,
    l = before ++ ((l.dropWhile q).reverse.dropWhile q).reverse ++ after ∧
      (∀ x ∈ before, q x = true) ∧ ∀ x ∈ after, q x = true := by
  refine ⟨l.takeWhile q, ((l.dropWhile q).reverse.takeWhile q).reverse, ?_, ?_, ?_⟩
  · rw [List.append_assoc, ← List.reverse_append, List.takeWhile_append_dropWhile,
      List.reverse_reverse, List.takeWhile_append_dropWhile]
  · intro x hx
    exact List.mem_takeWhile_imp hx
  · intro x hx
    exact List.mem_takeWhile_imp (List.mem_reverse.1 hx)

theorem trimStart_append_of_blank {before : Text} (h : ∀ c ∈ before, isBlank c = true) (t : Text) :
    trimStart (before ++ t) = trimStart t := by
  rw [trimStart, List.dropWhile_append_of_pos h, trimStart]

theorem trimEnd_append_of_blank {after : Text} (h : ∀ c ∈ after, isBlank c = true) (t : Text) :
    trimEnd (t ++ after) = trimEnd t := by
  have h' : ∀ c ∈ after.reverse, isBlank c = true := fun c hc => h c (List.mem_reverse.1 hc)
  rw [trimEnd, List.reverse_append, List.dropWhile_append_of_pos h', trimEnd]

/-- Blanks at the ends make no difference to the trimmed text. -/
theorem trim_append_of_blank {before after : Text} (hb : ∀ c ∈ before, isBlank c = true)
    (ha : ∀ c ∈ after, isBlank c = true) (t : Text) : trim (before ++ t ++ after) = trim t := by
  rw [List.append_assoc, trim, trimStart_append_of_blank hb]
  by_cases hall : ∀ c ∈ t, isBlank c = true
  · have htail : ∀ c ∈ t ++ after, isBlank c = true := by
      intro c hc
      rcases List.mem_append.1 hc with hc | hc
      · exact hall c hc
      · exact ha c hc
    have hnil : trimStart (t ++ after) = [] := List.dropWhile_eq_nil_iff.2 htail
    have hnil' : trimStart t = [] := List.dropWhile_eq_nil_iff.2 hall
    rw [hnil, trim, hnil']
  · have hstart : trimStart (t ++ after) = trimStart t ++ after := by
      rw [trimStart, List.dropWhile_append, if_neg, trimStart]
      intro hempty
      exact hall (List.dropWhile_eq_nil_iff.1 (List.isEmpty_iff.1 hempty))
    rw [hstart, trimEnd_append_of_blank ha, trim]

theorem trimStart_cons_of_blank {c : Char} (h : isBlank c = true) (t : Text) :
    trimStart (c :: t) = trimStart t :=
  List.dropWhile_cons_of_pos h

theorem trimStart_cons_of_not {c : Char} (h : isBlank c = false) (t : Text) :
    trimStart (c :: t) = c :: t :=
  List.dropWhile_cons_of_neg (by simp [h])

/-- The end of a text is trimmed unless nothing is left of it, and then a blank before it goes
too. -/
theorem trimEnd_cons (c : Char) (t : Text) :
    trimEnd (c :: t) = if trimEnd t = [] ∧ isBlank c = true then [] else c :: trimEnd t := by
  rw [trimEnd, trimEnd, List.reverse_cons, List.dropWhile_append]
  cases hrest : t.reverse.dropWhile isBlank with
  | nil => cases hc : isBlank c <;> simp [hc]
  | cons x xs => simp

theorem trimEnd_cons_of_not {c : Char} (h : isBlank c = false) (t : Text) :
    trimEnd (c :: t) = c :: trimEnd t := by
  rw [trimEnd_cons, if_neg]
  simp [h]

theorem trim_of_notBlank {t : Text} (h : ∀ c ∈ t, isBlank c = false) : trim t = t := by
  induction t with
  | nil => rfl
  | cons c t ih =>
    have hc : isBlank c = false := h c List.mem_cons_self
    have hend : trimEnd t = t := by
      have ih := ih fun x hx => h x (List.mem_cons_of_mem c hx)
      cases t with
      | nil => rfl
      | cons x t => rwa [trim, trimStart_cons_of_not (h x (by simp))] at ih
    rw [trim, trimStart_cons_of_not hc, trimEnd_cons_of_not hc, hend]

theorem after?_singleton (c : Char) (t : Text) :
    after? [c] t = if t.head? = some c then some t.tail else none := by
  cases t with
  | nil => rfl
  | cons x t => by_cases hx : c = x <;> simp [after?, hx, Ne.symm]

theorem headD_splitOn (sep : Char) (t : Text) :
    (t.splitOn sep).headD [] = t.takeWhile (· ≠ sep) := by
  rw [List.splitOn]
  induction t with
  | nil => rfl
  | cons c t ih =>
    rw [List.splitOnP_cons_eq_if_modifyHead]
    by_cases hc : c = sep
    · simp [hc]
    · rw [if_neg (by simpa using hc), List.takeWhile_cons_of_pos (by simpa using hc), ← ih]
      cases hs : t.splitOnP (· == sep) with
      | nil => exact absurd hs (List.splitOnP_ne_nil _ _)
      | cons piece pieces => rfl

/-- The piece before a separator, trimmed, is the same whether or not the text was trimmed first. -/
theorem trim_headD_splitOn_trim {sep : Char} (hsep : isBlank sep = false) (t : Text) :
    trim (((trim t).splitOn sep).headD []) = trim (t.takeWhile (· ≠ sep)) := by
  obtain ⟨before, after, ht, hb, ha⟩ := exists_trimmed isBlank t
  change t = before ++ trim t ++ after at ht
  have hne : ∀ {c}, isBlank c = true → decide (c ≠ sep) = true := by
    intro c hc
    rw [decide_eq_true_eq]
    rintro rfl
    rw [hsep] at hc
    exact Bool.false_ne_true hc
  rw [headD_splitOn]
  conv => rhs; rw [ht]
  rw [List.append_assoc, List.takeWhile_append_of_pos fun c hc => hne (hb c hc),
    List.takeWhile_append]
  split
  · rename_i hlen
    have hall : (trim t).takeWhile (· ≠ sep) = trim t :=
      (List.takeWhile_prefix _).eq_of_length hlen
    have hafter : after.takeWhile (· ≠ sep) = after :=
      List.takeWhile_eq_self_iff.2 fun c hc => hne (ha c hc)
    rw [hall, hafter, ← List.append_assoc, trim_append_of_blank hb ha]
  · have hnil : ∀ c ∈ ([] : Text), isBlank c = true := by simp
    rw [← List.append_nil (before ++ _), trim_append_of_blank hb hnil]

end DefinitionServer.Text
