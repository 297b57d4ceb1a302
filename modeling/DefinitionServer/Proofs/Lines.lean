import DefinitionServer.Protocol.Source
import Mathlib.Data.List.Forall2
import Mathlib.Data.List.TakeWhile

/-!
# Streams as lines

A stream that does not break down is a list of lines, each with its terminator, and reading takes
lines off its front. What the server reads is said here in terms of that list, so that nothing
later looks at single bytes of a stream.

## Main definitions

* `Lines.raw`: the lines of a list.
* `Source.lines`: the unread lines of a stream.
-/
namespace DefinitionServer
namespace Lines

variable {α : Type} [DecidableEq α] {lf cr : α}

/-- The lines of a list, each with its terminator. Only the last may lack it. -/
def raw (lf : α) : List α → List (List α)
  | [] => []
  | x :: xs =>
    if x = lf then [x] :: raw lf xs
    else
      match raw lf xs with
      | [] => [[x]]
      | l :: ls => (x :: l) :: ls

@[simp] theorem raw_nil : raw lf ([] : List α) = [] := rfl

theorem raw_eq_next {l : List α} (h : l ≠ []) :
    raw lf l = (next lf l).1 :: raw lf (next lf l).2 := by
  induction l with
  | nil => exact absurd rfl h
  | cons x xs ih =>
    by_cases hx : x = lf
    · simp [raw, next, hx]
    · cases xs with
      | nil => simp [raw, next, hx]
      | cons y ys => rw [raw, if_neg hx, ih (by simp)]; simp [next, hx]

@[simp] theorem flatten_raw (l : List α) : (raw lf l).flatten = l := by
  induction l with
  | nil => rfl
  | cons x xs ih =>
    rw [raw]
    split
    · simp [ih]
    · split <;> rename_i h <;> rw [h] at ih <;> simp_all

@[simp] theorem raw_eq_nil_iff {l : List α} : raw lf l = [] ↔ l = [] := by
  constructor
  · intro h
    have hl : (raw lf l).flatten = l := flatten_raw l
    rw [← hl, h]
    rfl
  · rintro rfl
    rfl

/-- A line in front of a list is its first line. -/
theorem raw_append_lf {x : List α} (h : lf ∉ x) (l : List α) :
    raw lf (x ++ lf :: l) = (x ++ [lf]) :: raw lf l := by
  induction x with
  | nil => simp [raw]
  | cons y x ih =>
    rw [List.mem_cons, not_or] at h
    rw [List.cons_append, raw, if_neg (Ne.symm h.1), ih h.2]
    rfl

theorem next_append_lf {x : List α} (h : lf ∉ x) (l : List α) :
    next lf (x ++ lf :: l) = (x ++ [lf], l) := by
  induction x with
  | nil => simp [next]
  | cons y x ih =>
    rw [List.mem_cons, not_or] at h
    rw [List.cons_append, next, if_neg (Ne.symm h.1), ih h.2]
    rfl

theorem raw_of_notMem {x : List α} (h : lf ∉ x) (hne : x ≠ []) : raw lf x = [x] := by
  induction x with
  | nil => exact absurd rfl hne
  | cons y x ih =>
    rw [List.mem_cons, not_or] at h
    rw [raw, if_neg (Ne.symm h.1)]
    by_cases hx : x = []
    · rw [hx]; rfl
    · rw [ih h.2 hx]

/-- A list is empty, or is a line without a terminator, or has a line with one in front of it. -/
@[elab_as_elim]
theorem rawInduction (lf : α) {motive : List α → Prop} (nil : motive [])
    (last : ∀ x, x ≠ [] → lf ∉ x → motive x)
    (line : ∀ x l, lf ∉ x → motive l → motive (x ++ lf :: l)) (l : List α) : motive l := by
  induction hn : l.length using Nat.strongRecOn generalizing l with
  | ind n ih =>
    by_cases hlf : lf ∈ l
    · obtain ⟨x, y, rfl, hx⟩ := List.eq_append_cons_of_mem hlf
      rw [List.length_append, List.length_cons] at hn
      exact line x y hx (ih y.length (by omega) y rfl)
    · by_cases hl : l = []
      · exact hl ▸ nil
      · exact last l hl hlf

/-- The first line ends in the only terminator it has, or it is the last line and has none. -/
theorem raw_cons {l m : List α} {ms : List (List α)} (h : raw lf l = m :: ms) :
    (∃ x, m = x ++ [lf] ∧ lf ∉ x) ∨ (lf ∉ m ∧ m ≠ [] ∧ ms = []) := by
  by_cases hl : lf ∈ l
  · obtain ⟨x, y, rfl, hx⟩ := List.eq_append_cons_of_mem hl
    rw [raw_append_lf hx, List.cons.injEq] at h
    exact .inl ⟨x, h.1.symm, hx⟩
  · have hne : l ≠ [] := by rintro rfl; simp at h
    rw [raw_of_notMem hl hne, List.cons.injEq] at h
    obtain ⟨rfl, rfl⟩ := h
    exact .inr ⟨hl, hne, rfl⟩

/-- A line ends in the only terminator it has, or has none. -/
theorem mem_raw {l m : List α} (h : m ∈ raw lf l) :
    (∃ x, m = x ++ [lf] ∧ lf ∉ x) ∨ (lf ∉ m ∧ m ≠ []) := by
  induction l generalizing m with
  | nil => simp at h
  | cons a l ih =>
    by_cases ha : a = lf
    · rw [raw, if_pos ha, List.mem_cons] at h
      rcases h with rfl | h
      · exact .inl ⟨[], by simp [ha]⟩
      · exact ih h
    rw [raw, if_neg ha] at h
    split at h <;> rename_i hraw
    · rw [List.mem_singleton] at h
      exact .inr (by simp [h, Ne.symm ha])
    rcases List.mem_cons.1 h with rfl | h
    -- the character belongs to the line that the rest begins with
    · rcases ih (hraw ▸ List.mem_cons_self) with ⟨x, rfl, hx⟩ | ⟨hx, -⟩
      · exact .inl ⟨a :: x, rfl, by simp [hx, Ne.symm ha]⟩
      · exact .inr (by simp [hx, Ne.symm ha])
    · exact ih (hraw ▸ List.mem_cons_of_mem _ h)

theorem ne_nil_of_mem_raw {l m : List α} (h : m ∈ raw lf l) : m ≠ [] := by
  rcases mem_raw h with ⟨x, rfl, -⟩ | ⟨-, hne⟩
  · simp
  · exact hne

/-- The last lines of a list are the lines of its end. -/
theorem raw_flatten_of_suffix {l : List α} {ms : List (List α)} (h : ms <:+ raw lf l) :
    raw lf ms.flatten = ms := by
  induction l using rawInduction lf with
  | nil =>
    obtain rfl : ms = [] := List.suffix_nil.1 h
    rfl
  | last x hne hx =>
    rw [raw_of_notMem hx hne] at h
    rcases List.suffix_cons_iff.1 h with rfl | h
    · rw [List.flatten_singleton, raw_of_notMem hx hne]
    · obtain rfl := List.suffix_nil.1 h
      rfl
  | line x l hx ih =>
    rw [raw_append_lf hx] at h
    rcases List.suffix_cons_iff.1 h with rfl | h
    · rw [List.flatten_cons, flatten_raw, List.append_assoc, List.singleton_append,
        raw_append_lf hx]
    · exact ih h

/-- Terminated pieces are the lines of their concatenation. -/
theorem raw_flatMap {xs : List (List α)} (h : ∀ x ∈ xs, lf ∉ x) :
    raw lf (xs.flatMap (· ++ [lf])) = xs.map (· ++ [lf]) := by
  induction xs with
  | nil => rfl
  | cons x xs ih =>
    rw [List.flatMap_cons, List.append_assoc, List.singleton_append,
      raw_append_lf (h x (by simp)), ih fun y hy => h y (by simp [hy])]
    rfl

/-- What comes after a terminator begins a new line. -/
theorem raw_append {a : List α} (ha : a = [] ∨ a.getLast? = some lf) (b : List α) :
    raw lf (a ++ b) = raw lf a ++ raw lf b := by
  induction a with
  | nil => rfl
  | cons x a ih =>
    replace ha := ha.resolve_left (List.cons_ne_nil x a)
    cases a with
    | nil =>
      obtain rfl : x = lf := by simpa using ha
      simp [raw]
    | cons y a =>
      have hrest := ih (.inr (by simpa using ha))
      rw [List.cons_append, raw, hrest]
      conv => rhs; rw [raw]
      split
      · rfl
      · rcases hraw : raw lf (y :: a) with _ | ⟨l, ls⟩
        · simp at hraw
        · rfl

theorem length_pos_of_raw_cons {l m : List α} {ms : List (List α)} (h : raw lf l = m :: ms) :
    0 < m.length := by
  rcases raw_cons h with ⟨x, rfl, -⟩ | ⟨-, hne, -⟩
  · simp
  · exact List.length_pos_iff.2 hne

/-! ## Contents -/

theorem prefix_dropFinal (x : α) (l : List α) : dropFinal x l <+: l := by
  rw [dropFinal]
  split
  · exact List.dropLast_prefix l
  · exact List.prefix_rfl

theorem length_dropFinal_le (x : α) (l : List α) : (dropFinal x l).length ≤ l.length :=
  (prefix_dropFinal x l).length_le

/-- Nothing is dropped exactly when something else is last. -/
theorem dropFinal_eq_self {x : α} {l : List α} : dropFinal x l = l ↔ l.getLast? ≠ some x := by
  constructor
  · intro h hlast
    have hlen := congrArg List.length h
    have hpos := List.length_pos_iff.2 (List.ne_nil_of_mem (List.mem_of_getLast? hlast))
    rw [dropFinal, if_pos hlast, List.length_dropLast] at hlen
    omega
  · exact fun h => if_neg h

theorem length_le_dropFinal (x : α) (l : List α) : l.length ≤ (dropFinal x l).length + 1 := by
  rw [dropFinal]
  split
  · rw [List.length_dropLast]; omega
  · omega

theorem content_append_lf (x : List α) : content lf cr (x ++ [lf]) = dropFinal cr x := by
  simp [content]

theorem content_of_notMem {x : List α} (h : lf ∉ x) : content lf cr x = x :=
  if_neg fun hl => h (List.mem_of_getLast? hl)

theorem length_content_le (l : List α) : (content lf cr l).length ≤ l.length := by
  rw [content]
  split
  · have := length_dropFinal_le cr l.dropLast
    rw [List.length_dropLast] at this
    omega
  · exact Nat.le_refl _

/-- A terminated line is one or two longer than its content. -/
theorem length_le_content (l : List α) : l.length ≤ (content lf cr l).length + 2 := by
  rw [content]
  split
  · have := length_le_dropFinal cr l.dropLast
    rw [List.length_dropLast] at this
    omega
  · omega

/-- The lines of a whole list are the contents of its lines. -/
theorem split_eq_map_content (l : List α) : split lf cr l = (raw lf l).map (content lf cr) := by
  induction l using rawInduction lf with
  | nil => rfl
  | last x hne hx =>
    rw [split, List.splitOn_eq_singleton hx, raw_of_notMem hx hne, List.map_singleton,
      content_of_notMem hx]
    cases x with
    | nil => exact absurd rfl hne
    | cons a x => rfl
  | line x l hx ih =>
    have hne : l.splitOn lf ≠ [] := List.splitOn_ne_nil lf l
    rw [raw_append_lf hx, List.map_cons, ← ih, content_append_lf, split,
      List.splitOn_append_cons_self_of_not_mem hx, List.dropLast_cons_of_ne_nil hne, List.map_cons,
      List.getLast?_cons_of_ne_nil hne, split]
    split <;> rfl

/-- The content of a line has no line feed. -/
theorem lf_notMem_content {l m : List α} (h : m ∈ raw lf l) : lf ∉ content lf cr m := by
  rcases mem_raw h with ⟨x, rfl, hx⟩ | ⟨hx, -⟩
  · rw [content_append_lf]
    exact fun hlf => hx ((prefix_dropFinal cr x).subset hlf)
  · rwa [content_of_notMem hx]

theorem lf_notMem_of_mem_split {l m : List α} (h : m ∈ split lf cr l) : lf ∉ m := by
  rw [split_eq_map_content] at h
  obtain ⟨line, hline, rfl⟩ := List.mem_map.1 h
  exact lf_notMem_content hline

theorem length_content_lt (x : List α) :
    (content lf cr (x ++ [lf])).length < (x ++ [lf]).length := by
  have := length_dropFinal_le cr x
  rw [content_append_lf, List.length_append, List.length_singleton]
  omega

/-- An element that stops the taking makes no difference behind a list. -/
theorem takeWhile_append_of_stops {β : Type} {q : β → Bool} {x : β} (hx : q x = false)
    (l : List β) :
    (l ++ [x]).takeWhile q = l.takeWhile q := by
  rw [List.takeWhile_append]
  split
  · rename_i hlen
    rw [List.takeWhile_cons_of_neg (by simp [hx]), List.append_nil,
      (List.takeWhile_prefix q).eq_of_length hlen]
  · rfl

/-- What a function makes of each line is related to it, and nothing else is. -/
theorem forall₂_iff_map_eq {β γ : Type} {R : β → γ → Prop} {f : β → γ} {bs : List β} {cs : List γ}
    (h : ∀ b c, R b c ↔ f b = c) :
    List.Forall₂ R bs cs ↔ bs.map f = cs := by
  rw [← List.forall₂_eq_eq_eq, List.forall₂_map_left_iff]
  exact ⟨fun hall => hall.imp fun b c => (h b c).1, fun hall => hall.imp fun b c => (h b c).2⟩

end Lines

/-- The line without its terminator. -/
abbrev Bytes.content (line : Bytes) : Bytes := Lines.content Bytes.lf Bytes.cr line

namespace Source

/-- The lines that are not read yet, each with its terminator. -/
def lines (s : Source) : List Bytes := Lines.raw Bytes.lf s.unread

variable {s : Source} {l : Bytes} {ls : List Bytes}

theorem flatten_lines (s : Source) : s.lines.flatten = s.unread := Lines.flatten_raw _

theorem rawLine_of_nil (h : s.lines = []) : s.rawLine = [] := by
  rw [rawLine, Lines.raw_eq_nil_iff.1 h]
  rfl

theorem next_of_cons (h : s.lines = l :: ls) :
    Lines.next Bytes.lf s.unread = (l, ls.flatten) ∧ Lines.raw Bytes.lf ls.flatten = ls := by
  have hne : s.unread ≠ [] := by rintro hn; simp [lines, hn] at h
  rw [lines, Lines.raw_eq_next hne, List.cons.injEq] at h
  obtain ⟨rfl, rfl⟩ := h
  simp

theorem rawLine_of_cons (h : s.lines = l :: ls) : s.rawLine = l :=
  congrArg Prod.fst (next_of_cons h).1

/-- Past its first line a stream has the other lines. -/
theorem lines_advance (h : s.lines = l :: ls) : (s.advance l.length).lines = ls := by
  have hs : s.unread = l ++ ls.flatten := by rw [← flatten_lines, h]; rfl
  rw [lines, advance, hs, List.drop_left]
  exact (next_of_cons h).2

@[simp] theorem breakdown_advance (hs : s.breakdown = none) (n : Nat) :
    (s.advance n).breakdown = none := by
  simp [advance, hs]

/-! ## Reading without breakdown -/

theorem readLine_of_nil (hs : s.breakdown = none) (h : s.lines = []) (max consumed : Nat) :
    s.readLine max consumed = (.ok none, s) := by
  simp [readLine, hs, rawLine_of_nil h]

theorem readLine_of_fits (hs : s.breakdown = none) (h : s.lines = l :: ls) {max consumed : Nat}
    (hfit : consumed + l.length ≤ max) :
    s.readLine max consumed = (.ok (some (Bytes.content l)), s.advance l.length) := by
  have hpos := Lines.length_pos_of_raw_cons h
  have hne : l ≠ [] := List.length_pos_iff.1 hpos
  simp only [readLine, hs, rawLine_of_cons h]
  rw [if_neg hne, if_neg (by omega)]

theorem readLine_of_exceeds (hs : s.breakdown = none) (h : s.lines = l :: ls) {max consumed : Nat}
    (hc : consumed ≤ max) (hexceeds : max < consumed + l.length) :
    s.readLine max consumed =
      (.error (.tooLarge (max + 1) max), s.advance (max - consumed + 1)) := by
  have hpos := Lines.length_pos_of_raw_cons h
  have hne : l ≠ [] := List.length_pos_iff.1 hpos
  simp only [readLine, hs, rawLine_of_cons h]
  rw [if_neg hne, if_pos (by omega), show consumed + (max - consumed) + 1 = max + 1 by omega]

/-! ## Command lines -/

variable {p : Protocol}

/-- What a line is for the reader of command lines. -/
theorem nextCommand_eq (p : Protocol) (s : Source) :
    s.nextCommand p =
      match s.readLine p.maxBlockBytes 0 with
      | (.error e, t) => (.error e, t)
      | (.ok none, t) => (.ok none, t)
      | (.ok (some line), t) =>
        if line.all isSpace then t.nextCommand p else ((CommandLine.parse line).map some, t) := by
  rw [nextCommand]
  split <;> rename_i hr <;> rw [hr]

theorem nextCommand_of_nil (hs : s.breakdown = none) (h : s.lines = []) :
    s.nextCommand p = (.ok none, s) := by
  rw [nextCommand_eq, readLine_of_nil hs h]

theorem nextCommand_of_exceeds (hs : s.breakdown = none) (h : s.lines = l :: ls)
    (hexceeds : p.maxBlockBytes < l.length) :
    (s.nextCommand p).1 = .error (.tooLarge (p.maxBlockBytes + 1) p.maxBlockBytes) := by
  have hexceeds : p.maxBlockBytes < 0 + l.length := by omega
  rw [nextCommand_eq, readLine_of_exceeds hs h (Nat.zero_le _) hexceeds]

theorem nextCommand_of_blank (hs : s.breakdown = none) (h : s.lines = l :: ls)
    (hfit : l.length ≤ p.maxBlockBytes) (hl : (Bytes.content l).all isSpace = true) :
    s.nextCommand p = (s.advance l.length).nextCommand p := by
  have hfit : 0 + l.length ≤ p.maxBlockBytes := by omega
  rw [nextCommand_eq, readLine_of_fits hs h hfit]
  exact if_pos hl

theorem nextCommand_of_line (hs : s.breakdown = none) (h : s.lines = l :: ls)
    (hfit : l.length ≤ p.maxBlockBytes) (hl : (Bytes.content l).all isSpace = false) :
    s.nextCommand p = ((CommandLine.parse (Bytes.content l)).map some, s.advance l.length) := by
  have hfit : 0 + l.length ≤ p.maxBlockBytes := by omega
  rw [nextCommand_eq, readLine_of_fits hs h hfit]
  exact if_neg (Bool.eq_false_iff.1 hl)

end Source
end DefinitionServer
