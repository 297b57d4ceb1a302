import DefinitionServer.Proofs.Block

/-!
# What the limit on a block lets through

The limit on a block is meant for all the bytes that the block takes off the stream, its end tag
with them. The reader counts the content of a line and one byte more, which leaves out the carriage
return of a line that ends in one. So the limit is met to the byte when no line before the last ends
so, and otherwise a block passes with one byte more for each such line.

## Main definitions

* `Block.span`: the bytes of the lines through the end tag.
* `Block.uncounted`: the bytes of lines that their size leaves out.
* `Block.Limited`: the limit is kept, but for some bytes.
-/
namespace DefinitionServer

namespace Lines

variable {α : Type} [DecidableEq α] {lf : α}

/-- A line that another follows has its terminator. -/
theorem terminated_of_raw {l n m : List α} {ms ns : List (List α)} (h : raw lf l = ms ++ n :: ns)
    (hm : m ∈ ms) : ∃ x, m = x ++ [lf] := by
  obtain ⟨before, after, rfl⟩ := List.append_of_mem hm
  have hsuffix : m :: (after ++ n :: ns) <:+ raw lf l := ⟨before, by rw [h]; simp⟩
  rcases raw_cons (raw_flatten_of_suffix hsuffix) with ⟨x, hx, -⟩ | ⟨-, -, hnil⟩
  · exact ⟨x, hx⟩
  · simp at hnil

end Lines

namespace Block

/-! ## The bytes that are not counted -/

/-- The line ends in a line feed with a carriage return before it. -/
def EndsInReturn (l : Bytes) : Prop := [Bytes.cr, Bytes.lf] <:+ l

instance (l : Bytes) : Decidable (EndsInReturn l) := inferInstanceAs (Decidable (_ <:+ _))

/-- How many lines that another follows end in a carriage return. -/
def uncounted (ls : List Bytes) : Nat := ls.dropLast.countP fun l => EndsInReturn l

theorem endsInReturn_append_lf (x : Bytes) :
    EndsInReturn (x ++ [Bytes.lf]) ↔ x.getLast? = some Bytes.cr := by
  have h : [Bytes.cr, Bytes.lf] = [Bytes.cr] ++ [Bytes.lf] := rfl
  rw [EndsInReturn, h, List.suffix_append_inj_of_length_eq rfl,
    List.singleton_suffix_iff_getLast?_eq_some, and_iff_left rfl]

/-- A terminator has a second byte just when it is left out of what the line counts for. -/
theorem length_of_terminated (x : Bytes) :
    (x ++ [Bytes.lf]).length = (Bytes.content (x ++ [Bytes.lf])).length + 1 +
      if EndsInReturn (x ++ [Bytes.lf]) then 1 else 0 := by
  rw [Bytes.content, Lines.content_append_lf, Lines.dropFinal, List.length_append,
    List.length_singleton]
  simp only [endsInReturn_append_lf]
  split <;> rename_i hlast
  · have hpos := List.length_pos_iff.2 (List.ne_nil_of_mem (List.mem_of_getLast? hlast))
    rw [List.length_dropLast]
    omega
  · rfl

theorem uncounted_cons {l : Bytes} {ls : List Bytes} (h : ls ≠ []) :
    uncounted (l :: ls) = uncounted ls + if EndsInReturn l then 1 else 0 := by
  rw [uncounted, List.dropLast_cons_of_ne_nil h, List.countP_cons, uncounted]
  simp only [decide_eq_true_eq]

theorem uncounted_eq_zero_iff {ls : List Bytes} :
    uncounted ls = 0 ↔ ∀ l ∈ ls.dropLast, ¬ EndsInReturn l := by
  rw [uncounted, List.countP_eq_zero]
  simp only [decide_eq_true_eq]

/-- Lines take the bytes they count for, and those that are not counted. -/
theorem size_add_uncounted {ls : List Bytes} (h : ∀ l ∈ ls.dropLast, ∃ x, l = x ++ [Bytes.lf]) :
    size ls + uncounted ls = ls.flatten.length := by
  induction ls with
  | nil => rfl
  | cons l ls ih =>
    cases ls with
    | nil => simp [size, uncounted]
    | cons m ms =>
      obtain ⟨x, rfl⟩ := h l (by simp)
      have ih := ih fun k hk => h k (by simp [hk])
      have hlength := length_of_terminated x
      rw [size, uncounted_cons (by simp), List.flatten_cons, List.length_append, ← ih]
      omega

variable (p : Protocol)

/-- How many bytes the lines of a stream through the first end tag take. -/
def span (ls : List Bytes) : Nat := (taken p ls).flatten.length

/-- The lines through the end tag take the bytes they count for, and those that are not counted. -/
theorem size_taken_add_uncounted (input : Bytes) :
    size (taken p (Lines.raw Bytes.lf input)) + uncounted (taken p (Lines.raw Bytes.lf input)) =
      span p (Lines.raw Bytes.lf input) := by
  apply size_add_uncounted
  intro l hl
  obtain ⟨after, hafter⟩ : taken p (Lines.raw Bytes.lf input) <+: Lines.raw Bytes.lf input :=
    prefix_taken
  have hne : taken p (Lines.raw Bytes.lf input) ≠ [] := by
    intro hnil
    simp [hnil] at hl
  rw [← List.dropLast_concat_getLast hne, List.append_assoc] at hafter
  exact Lines.terminated_of_raw hafter.symm hl

variable {p}

theorem read_eq_tooLarge_iff {ls : List Bytes} {size max : Nat} :
    Block.read p ls = .error (.tooLarge size max) ↔
      p.maxBlockBytes < Block.size (taken p ls) ∧ size = p.maxBlockBytes + 1 ∧
        max = p.maxBlockBytes := by
  rw [Block.read]
  split
  · rename_i hbig
    simp [hbig, eq_comm]
  · rename_i hfit
    split <;> simp [hfit]

/-- A block that is read leaves the lines after its end tag. -/
theorem taken_append_of_read {ls block after : List Bytes}
    (h : Block.read p ls = .ok (block, after)) :
    taken p ls ++ after = ls ∧ size (taken p ls) ≤ p.maxBlockBytes := by
  have hls : body p ls ++ rest p ls = ls := List.takeWhile_append_dropWhile
  rw [Block.read] at h
  split at h
  · simp at h
  rename_i hfit
  split at h <;> rename_i hrest
  · simp at h
  · obtain ⟨-, rfl⟩ := Prod.mk.inj (Except.ok.inj h)
    refine ⟨?_, Nat.le_of_not_lt hfit⟩
    conv => rhs; rw [← hls]
    rw [taken, hrest, List.append_assoc]
    rfl

end Block

/-! ## Reading up to the limit -/

namespace Source

open Block

variable {p : Protocol} {s : Source}

/-- A block that is too large is read one byte past the limit, and past the bytes that were not
counted. The lines before it took `consumed` bytes. -/
theorem unread_of_tooLarge (hs : s.breakdown = none) {consumed count : Nat}
    (hc : consumed ≤ p.maxBlockBytes) {size max : Nat}
    (h : (s.loadBlockFrom p consumed count).1 = .error (.tooLarge size max)) :
    s.unread.length ≤ (s.loadBlockFrom p consumed count).2.unread.length +
      (p.maxBlockBytes - consumed + 1) + uncounted (taken p s.lines) := by
  generalize hl : s.lines = ls
  induction ls generalizing s consumed count with
  | nil =>
    rw [loadBlockFrom_of_nil hs hl] at h
    simp at h
  | cons l ls ih =>
    have hadv := lines_advance hl
    have hsadv := breakdown_advance hs l.length
    have hunread : s.unread.length = l.length + (s.advance l.length).unread.length := by
      rw [← flatten_lines s, ← flatten_lines (s.advance l.length), hl, hadv, List.flatten_cons,
        List.length_append]
    rcases Nat.lt_or_ge p.maxBlockBytes (consumed + l.length) with hbig | hfit
    · rw [loadBlockFrom_eq, readLine_of_exceeds hs hl hc hbig]
      simp only [advance, List.length_drop]
      omega
    cases hcl : closes p l with
    | true =>
      rw [loadBlockFrom_of_closes hs hl hfit count hcl] at h
      simp at h
    | false =>
      rw [loadBlockFrom_of_line hs hl hfit count hcl] at h ⊢
      simp only at h ⊢
      have hinner : ((s.advance l.length).loadBlockFrom p (consumed + (Bytes.content l).length + 1)
          (count + 1)).1 = .error (.tooLarge size max) := by
        generalize ((s.advance l.length).loadBlockFrom p
          (consumed + (Bytes.content l).length + 1) (count + 1)).1 = r at h
        cases r with
        | error f => simpa [Except.map] using h
        | ok block => simp [Except.map] at h
      by_cases hnil : ls = []
      · rw [loadBlockFrom_of_nil hsadv (hadv.trans hnil)] at hinner
        simp at hinner
      · rcases Lines.raw_cons hl with ⟨x, rfl, -⟩ | ⟨-, -, h⟩
        · have hlength := length_of_terminated x
          have ih := ih hsadv (by omega) hinner hadv
          rw [taken_cons_of_not hcl, uncounted_cons (mt taken_eq_nil_iff.1 hnil)]
          omega
        · exact absurd h hnil

/-- The stream that gives the bytes and does not break down. -/
def ofBytes (input : Bytes) : Source where
  unread := input

end Source

namespace Block

variable (p : Protocol) (input : Bytes)

/-- What taking a block off the bytes gives. -/
def taking : Except RequestError (List Bytes) × Source := (Source.ofBytes input).loadBlock p

/-- How many of the bytes that takes. -/
def consumed : Nat := input.length - (taking p input).2.unread.length

/-- The limit is kept for the block at the head of the bytes, but for `extra` bytes. -/
structure Limited (extra : Nat) : Prop where
  /-- A block of more bytes is too large, and no other is. -/
  tooLarge_iff : (∃ size max, (taking p input).1 = .error (.tooLarge size max)) ↔
    p.maxBlockBytes + extra < span p (Lines.raw Bytes.lf input)
  /-- A block that is accepted took no more bytes. -/
  accepted : ∀ block, (taking p input).1 = .ok block → consumed p input ≤ p.maxBlockBytes + extra
  /-- One that is too large took at most one byte more, and is reported with the limit and one. -/
  refused : ∀ size max, (taking p input).1 = .error (.tooLarge size max) →
    consumed p input ≤ p.maxBlockBytes + extra + 1 ∧ size = p.maxBlockBytes + 1 ∧
      max = p.maxBlockBytes

variable {p input}

theorem taking_eq_error_iff {e : RequestError} :
    (taking p input).1 = .error e ↔ Block.read p (Lines.raw Bytes.lf input) = .error e := by
  rcases hread : Block.read p (Lines.raw Bytes.lf input) with f | ⟨block, after⟩
  · obtain ⟨t, ht⟩ := Source.loadBlock_of_read_error (s := Source.ofBytes input) rfl hread
    rw [taking, ht]
    simp
  · obtain ⟨t, ht, -⟩ := Source.loadBlock_of_read (s := Source.ofBytes input) rfl hread
    rw [taking, ht]
    simp

/-- A block that is accepted takes the lines through the end tag and nothing else. -/
theorem consumed_of_ok {block : List Bytes} (h : (taking p input).1 = .ok block) :
    size (taken p (Lines.raw Bytes.lf input)) ≤ p.maxBlockBytes ∧
      consumed p input = span p (Lines.raw Bytes.lf input) := by
  rcases hread : Block.read p (Lines.raw Bytes.lf input) with f | ⟨block', after⟩
  · rw [taking_eq_error_iff.2 hread] at h
    simp at h
  · obtain ⟨t, ht, hafter, -⟩ := Source.loadBlock_of_read (s := Source.ofBytes input) rfl hread
    obtain ⟨hlines, hsize⟩ := taken_append_of_read hread
    have hlength := congrArg (fun ls => ls.flatten.length) hlines
    simp only [List.flatten_append, List.length_append, Lines.flatten_raw] at hlength
    refine ⟨hsize, ?_⟩
    rw [consumed, taking, ht, ← Source.flatten_lines t, hafter, span]
    omega

/-- The limit is kept but for the bytes that are not counted. -/
theorem limited_uncounted (p : Protocol) (input : Bytes) :
    Limited p input (uncounted (taken p (Lines.raw Bytes.lf input))) := by
  have hspan := size_taken_add_uncounted p input
  constructor
  · constructor
    · rintro ⟨size, max, h⟩
      have := (read_eq_tooLarge_iff.1 (taking_eq_error_iff.1 h)).1
      omega
    · intro hbig
      exact ⟨_, _, taking_eq_error_iff.2 (read_eq_tooLarge_iff.2 ⟨by omega, rfl, rfl⟩)⟩
  · intro block h
    obtain ⟨hsize, hconsumed⟩ := consumed_of_ok h
    omega
  · intro size max h
    obtain ⟨-, hreported⟩ := read_eq_tooLarge_iff.1 (taking_eq_error_iff.1 h)
    have hunread : input.length ≤ (taking p input).2.unread.length + (p.maxBlockBytes - 0 + 1) +
        uncounted (taken p (Lines.raw Bytes.lf input)) :=
      Source.unread_of_tooLarge (s := Source.ofBytes input) rfl (Nat.zero_le _) h
    refine ⟨?_, hreported⟩
    rw [consumed]
    omega

/-- **The limit on a block is kept to the byte, whatever it is, exactly when no line before the last
ends in a carriage return.** Otherwise a block passes with one byte over the limit for each line
that does, and no more. -/
theorem limited_iff_not_endsInReturn (p : Protocol) (input : Bytes) :
    let lines := taken p (Lines.raw Bytes.lf input)
    Limited p input (uncounted lines) ∧
      ((∀ max, Limited { p with maxBlockBytes := max } input 0) ↔
        ∀ l ∈ lines.dropLast, ¬ EndsInReturn l) := by
  intro lines
  rw [← uncounted_eq_zero_iff]
  refine ⟨limited_uncounted p input, fun hlimited => ?_, fun hnone max => ?_⟩
  · -- one byte below the bytes of the block, the limit tells the two counts apart
    let max := span p (Lines.raw Bytes.lf input) - 1
    have hclaimed : _ ↔ max + 0 < span p (Lines.raw Bytes.lf input) := (hlimited max).tooLarge_iff
    have hcounted : _ ↔ max + uncounted lines < span p (Lines.raw Bytes.lf input) :=
      (limited_uncounted { p with maxBlockBytes := max } input).tooLarge_iff
    have hiff := hclaimed.symm.trans hcounted
    have hspan := size_taken_add_uncounted p input
    change size lines + uncounted lines = _ at hspan
    omega
  · have hcounted : Limited { p with maxBlockBytes := max } input (uncounted lines) :=
      limited_uncounted { p with maxBlockBytes := max } input
    rwa [hnone] at hcounted

/-- A block of seven bytes that a limit of six lets through. -/
theorem not_limited_return :
    let p : Protocol := ⟨"END".toList, 6⟩
    let input := Text.Utf8.encode "a\r\nEND\n".toList
    span p (Lines.raw Bytes.lf input) = 7 ∧
      (taking p input).1 = .ok [Text.Utf8.encode "a".toList] ∧ consumed p input = 7 ∧
      ¬ Limited p input 0 := by
  intro p input
  have hspan : span p (Lines.raw Bytes.lf input) = 7 := by decide
  have hblock : (taking p input).1 = .ok [Text.Utf8.encode "a".toList] := by decide +kernel
  have hconsumed : consumed p input = 7 := by decide +kernel
  refine ⟨hspan, hblock, hconsumed, fun hlimited => ?_⟩
  have := hlimited.accepted _ hblock
  rw [hconsumed] at this
  exact absurd this (by decide)

end Block
end DefinitionServer
