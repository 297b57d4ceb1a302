import DefinitionServer.Proofs.Trim
import Mathlib.Data.List.TakeDrop

/-!
# Words and pieces of a text

A separator parts a text into pieces, and blanks part it into words. Both ways to take a text apart
are told here from the other side: which texts have given pieces, and which have given words. Blanks
around a word, and more of them than one between two words, make no difference to the words.

## Main definitions

* `Text.Gap`: a stretch of blanks.
* `Text.Word`: a text that is one word.
* `Text.Spaced`: a text has the given words.
-/
namespace DefinitionServer.Text

/-! ## Pieces -/

/-- What is no separator stands in one of the pieces. -/
theorem exists_mem_splitOnP (p : Char → Bool) {t : Text} {c : Char} (hc : c ∈ t)
    (hp : p c = false) : ∃ piece ∈ t.splitOnP p, c ∈ piece := by
  induction t with
  | nil => simp at hc
  | cons x t ih =>
    rw [List.splitOnP_cons_eq_if_modifyHead]
    split
    · rename_i hx
      rcases List.mem_cons.1 hc with rfl | hc
      · simp [hp] at hx
      · obtain ⟨piece, hpiece, hmem⟩ := ih hc
        exact ⟨piece, List.mem_cons_of_mem _ hpiece, hmem⟩
    · cases hs : t.splitOnP p with
      | nil => exact absurd hs (List.splitOnP_ne_nil _ _)
      | cons first others =>
        rw [hs] at ih
        rw [List.modifyHead_cons]
        rcases List.mem_cons.1 hc with rfl | hc
        · exact ⟨c :: first, List.mem_cons_self, List.mem_cons_self⟩
        · obtain ⟨piece, hpiece, hmem⟩ := ih hc
          rcases List.mem_cons.1 hpiece with rfl | hpiece
          · exact ⟨x :: piece, List.mem_cons_self, List.mem_cons_of_mem x hmem⟩
          · exact ⟨piece, List.mem_cons_of_mem _ hpiece, hmem⟩

/-- The texts with given pieces: each piece but the first stands behind a separator, and none has
one in it. -/
theorem splitOn_eq_cons_iff {sep : Char} {t first : Text} {others : List Text} :
    t.splitOn sep = first :: others ↔
      t = first ++ others.flatMap (sep :: ·) ∧ ∀ piece ∈ first :: others, sep ∉ piece := by
  induction others generalizing t first with
  | nil =>
    constructor
    · intro h
      have hsep : sep ∉ t := by
        intro hmem
        obtain ⟨before, after, rfl, hbefore⟩ := List.eq_append_cons_of_mem hmem
        rw [List.splitOn_append_cons_self_of_not_mem hbefore] at h
        exact List.splitOn_ne_nil sep after (List.cons.inj h).2
      rw [List.splitOn_eq_singleton hsep] at h
      obtain rfl := (List.cons.inj h).1
      simpa using hsep
    · rintro ⟨rfl, hsep⟩
      rw [List.flatMap_nil, List.append_nil]
      exact List.splitOn_eq_singleton (hsep _ List.mem_cons_self)
  | cons second others ih =>
    constructor
    · intro h
      have hmem : sep ∈ t := by
        by_contra hsep
        rw [List.splitOn_eq_singleton hsep] at h
        simp at h
      obtain ⟨before, after, rfl, hbefore⟩ := List.eq_append_cons_of_mem hmem
      rw [List.splitOn_append_cons_self_of_not_mem hbefore] at h
      obtain ⟨rfl, hafter⟩ := List.cons.inj h
      obtain ⟨rfl, hothers⟩ := ih.1 hafter
      exact ⟨rfl, List.forall_mem_cons.2 ⟨hbefore, hothers⟩⟩
    · rintro ⟨rfl, hsep⟩
      obtain ⟨hfirst, hothers⟩ := List.forall_mem_cons.1 hsep
      rw [List.flatMap_cons, List.cons_append, List.splitOn_append_cons_self_of_not_mem hfirst,
        ih.2 ⟨rfl, hothers⟩]

/-- A piece has no separator, and its characters are those of the text. -/
theorem of_mem_splitOn {sep : Char} {t piece : Text} (h : piece ∈ t.splitOn sep) :
    sep ∉ piece ∧ ∀ c ∈ piece, c ∈ t := by
  obtain ⟨first, others, hsplit⟩ := List.exists_cons_of_ne_nil (List.splitOn_ne_nil sep t)
  obtain ⟨ht, hsep⟩ := splitOn_eq_cons_iff.1 hsplit
  rw [hsplit] at h
  refine ⟨hsep piece h, fun c hc => ?_⟩
  rw [ht, List.mem_append, List.mem_flatMap]
  rcases List.mem_cons.1 h with rfl | h
  · exact .inl hc
  · exact .inr ⟨piece, h, List.mem_cons_of_mem sep hc⟩

theorem join_singleton (sep : Char) (t : Text) : join sep [t] = t := List.intercalate_singleton

theorem join_cons_cons (sep : Char) (t u : Text) (ts : List Text) :
    join sep (t :: u :: ts) = t ++ sep :: join sep (u :: ts) := by
  rw [join, List.intercalate_cons_cons, List.append_assoc, List.singleton_append, join]

/-- What is in a joined text and is no separator is in one of the texts. -/
theorem mem_of_mem_join {sep c : Char} {ts : List Text} (h : c ∈ join sep ts) (hc : c ≠ sep) :
    ∃ t ∈ ts, c ∈ t := by
  induction ts with
  | nil => simp [join] at h
  | cons t ts ih =>
    cases ts with
    | nil =>
      rw [join_singleton] at h
      exact ⟨t, List.mem_cons_self, h⟩
    | cons u ts =>
      rw [join_cons_cons, List.mem_append, List.mem_cons] at h
      rcases h with h | h | h
      · exact ⟨t, List.mem_cons_self, h⟩
      · exact absurd h hc
      · obtain ⟨v, hv, hmem⟩ := ih h
        exact ⟨v, List.mem_cons_of_mem t hv, hmem⟩

theorem cut_nil (sep : Char) : cut sep [] = none := rfl

theorem cut_cons (sep c : Char) (t : Text) :
    cut sep (c :: t) =
      if c = sep then some ([], t) else (cut sep t).map fun parts => (c :: parts.1, parts.2) := by
  rw [cut, cut, List.span_eq_takeWhile_dropWhile, List.span_eq_takeWhile_dropWhile]
  by_cases hc : c = sep
  · simp [hc]
  · rw [List.takeWhile_cons_of_pos (by simpa using hc), List.dropWhile_cons_of_pos
      (by simpa using hc), if_neg hc]
    cases t.dropWhile (· ≠ sep) <;> rfl

/-- A text is cut at the first separator it has. -/
theorem cut_eq_some_iff {sep : Char} {t before after : Text} :
    t.cut sep = some (before, after) ↔ t = before ++ sep :: after ∧ sep ∉ before := by
  induction t generalizing before with
  | nil => simp [cut_nil]
  | cons c t ih =>
    rw [cut_cons]
    by_cases hc : c = sep
    · subst hc
      rw [if_pos rfl]
      cases before with
      | nil => simp
      | cons x before => simp +contextual
    · rw [if_neg hc, Option.map_eq_some_iff]
      constructor
      · rintro ⟨⟨front, rest⟩, hcut, hparts⟩
        obtain ⟨rfl, rfl⟩ := Prod.mk.inj hparts
        obtain ⟨rfl, hfront⟩ := ih.1 hcut
        exact ⟨rfl, by simp [hfront, Ne.symm hc]⟩
      · rintro ⟨ht, hsep⟩
        cases before with
        | nil => exact absurd (List.cons.inj ht).1 hc
        | cons x before =>
          obtain ⟨rfl, rfl⟩ := List.cons.inj ht
          exact ⟨(before, after), ih.2 ⟨rfl, mt (List.mem_cons_of_mem c) hsep⟩, rfl⟩

theorem cut_eq_none_iff {sep : Char} {t : Text} : t.cut sep = none ↔ sep ∉ t := by
  constructor
  · intro h hmem
    obtain ⟨before, after, rfl, hbefore⟩ := List.eq_append_cons_of_mem hmem
    rw [cut_eq_some_iff.2 ⟨rfl, hbefore⟩] at h
    simp at h
  · intro h
    cases hcut : t.cut sep with
    | none => rfl
    | some parts =>
      obtain ⟨before, after⟩ := parts
      rw [(cut_eq_some_iff.1 hcut).1] at h
      simp at h

/-! ## Words -/

/-- A stretch of blanks, maybe of none. -/
def Gap (t : Text) : Prop := ∀ c ∈ t, isBlank c = true

/-- A text that is one word: it has a character, and none that is blank. -/
def Word (t : Text) : Prop := t ≠ [] ∧ ∀ c ∈ t, isBlank c = false

/-- The text has these words in this order. At least one blank stands between a word and the
next. -/
inductive Spaced : List Text → Text → Prop
  | nil {gap : Text} (hg : Gap gap) : Spaced [] gap
  | last {gap word : Text} (hg : Gap gap) (hw : Word word) : Spaced [word] (gap ++ word)
  | cons {gap word rest : Text} {blank : Char} {others : List Text} (hg : Gap gap)
      (hw : Word word) (hb : isBlank blank = true) (h : Spaced others rest) :
      Spaced (word :: others) (gap ++ word ++ blank :: rest)

theorem gap_nil : Gap [] := by simp [Gap]

theorem Gap.cons {c : Char} {t : Text} (hc : isBlank c = true) (h : Gap t) : Gap (c :: t) :=
  List.forall_mem_cons.2 ⟨hc, h⟩

theorem Word.spaced {word : Text} (h : Word word) : Spaced [word] word :=
  @Spaced.last [] word gap_nil h

theorem Word.spaced_cons {word rest : Text} {others : List Text} {blank : Char} (h : Word word)
    (hb : isBlank blank = true) (hs : Spaced others rest) :
    Spaced (word :: others) (word ++ blank :: rest) :=
  @Spaced.cons [] word rest blank others gap_nil h hb hs

/-- Words with a blank between each and the next are spaced. -/
theorem spaced_join {ws : List Text} (h : ∀ word ∈ ws, Word word) : Spaced ws (join ' ' ws) := by
  induction ws with
  | nil => exact .nil gap_nil
  | cons word ws ih =>
    obtain ⟨hword, hws⟩ := List.forall_mem_cons.1 h
    cases ws with
    | nil =>
      rw [join_singleton]
      exact hword.spaced
    | cons next ws =>
      rw [join_cons_cons]
      exact hword.spaced_cons (by decide) (ih hws)

theorem exists_mem_words {t : Text} {c : Char} (hc : c ∈ t) (hblank : isBlank c = false) :
    ∃ word ∈ words t, c ∈ word := by
  obtain ⟨word, hword, hmem⟩ := exists_mem_splitOnP isBlank hc hblank
  refine ⟨word, List.mem_filter.2 ⟨hword, ?_⟩, hmem⟩
  simpa using List.ne_nil_of_mem hmem

/-- A blank parts the words before it from those after it. -/
theorem words_append_blank {c : Char} (hc : isBlank c = true) (s t : Text) :
    words (s ++ c :: t) = words s ++ words t := by
  rw [words, List.splitOnP_append_cons s t hc, List.filter_append, words, words]

theorem words_cons_of_blank {c : Char} (h : isBlank c = true) (t : Text) :
    words (c :: t) = words t :=
  words_append_blank h [] t

theorem words_gap_append {gap : Text} (h : Gap gap) (t : Text) : words (gap ++ t) = words t := by
  induction gap with
  | nil => rfl
  | cons c gap ih =>
    obtain ⟨hc, hgap⟩ := List.forall_mem_cons.1 h
    rw [List.cons_append, words_cons_of_blank hc, ih hgap]

theorem words_gap {gap : Text} (h : Gap gap) : words gap = [] := by
  rw [← List.append_nil gap, words_gap_append h]
  rfl

theorem words_of_word {word : Text} (h : Word word) : words word = [word] := by
  rw [words, List.splitOnP_eq_singleton h.2]
  simp [h.1]

/-- What is trimmed off the end of a text are blanks. -/
theorem exists_trimEnd (t : Text) : ∃ gap, Gap gap ∧ t = trimEnd t ++ gap := by
  refine ⟨(t.reverse.takeWhile isBlank).reverse, fun c hc => ?_, ?_⟩
  · exact List.mem_takeWhile_imp (List.mem_reverse.1 hc)
  · rw [trimEnd, ← List.reverse_append, List.takeWhile_append_dropWhile, List.reverse_reverse]

theorem trim_trimEnd (t : Text) : trim (trimEnd t) = trim t := by
  obtain ⟨gap, hgap, ht⟩ := exists_trimEnd t
  conv => rhs; rw [ht]
  exact (trim_append_of_blank gap_nil hgap (trimEnd t)).symm

/-- Trimming at the end stops at what is no blank. -/
theorem trimEnd_append_cons {c : Char} (hc : isBlank c = false) (s t : Text) :
    trimEnd (s ++ c :: t) = s ++ c :: trimEnd t := by
  induction s with
  | nil => exact trimEnd_cons_of_not hc t
  | cons x s ih =>
    rw [List.cons_append, trimEnd_cons, ih, if_neg (by simp)]
    rfl

theorem words_trimEnd (t : Text) : words (trimEnd t) = words t := by
  obtain ⟨gap, hgap, ht⟩ := exists_trimEnd t
  conv => rhs; rw [ht]
  cases gap with
  | nil => rw [List.append_nil]
  | cons c gap =>
    obtain ⟨hc, hgap⟩ := List.forall_mem_cons.1 hgap
    rw [words_append_blank hc, words_gap hgap, List.append_nil]

theorem Spaced.words_eq {ws : List Text} {t : Text} (h : Spaced ws t) : words t = ws := by
  induction h with
  | nil hg => exact words_gap hg
  | last hg hw => rw [words_gap_append hg, words_of_word hw]
  | cons hg hw hb _ ih =>
    rw [words_append_blank hb, words_gap_append hg, words_of_word hw, ih, List.singleton_append]

theorem Spaced.cons_blank {ws : List Text} {t : Text} {c : Char} (hc : isBlank c = true)
    (h : Spaced ws t) : Spaced ws (c :: t) := by
  cases h with
  | nil hg => exact .nil (hg.cons hc)
  | last hg hw => exact .last (hg.cons hc) hw
  | cons hg hw hb h => exact .cons (hg.cons hc) hw hb h

/-- Every text has words. -/
theorem exists_spaced (t : Text) : ∃ ws, Spaced ws t := by
  induction hn : t.length using Nat.strongRecOn generalizing t with
  | ind n ih =>
    have ht : t.takeWhile (!isBlank ·) ++ t.dropWhile (!isBlank ·) = t :=
      List.takeWhile_append_dropWhile
    have hletters : ∀ c ∈ t.takeWhile (!isBlank ·), isBlank c = false := fun c hc => by
      simpa using List.mem_takeWhile_imp hc
    generalize t.takeWhile (!isBlank ·) = front at ht hletters
    cases hrest : t.dropWhile (!isBlank ·) with
    | nil =>
      rw [hrest, List.append_nil] at ht
      subst ht
      by_cases hnil : front = []
      · exact ⟨[], hnil ▸ .nil gap_nil⟩
      · exact ⟨[front], Word.spaced ⟨hnil, hletters⟩⟩
    | cons c rest =>
      have hc : isBlank c = true := by
        have := List.head?_dropWhile_not (!isBlank ·) t
        simpa [hrest] using this
      rw [hrest] at ht
      obtain ⟨ws, hws⟩ := ih rest.length (by rw [← hn, ← ht]; simp; omega) rest rfl
      by_cases hnil : front = []
      · rw [← ht, hnil]
        exact ⟨ws, hws.cons_blank hc⟩
      · exact ⟨front :: ws, ht ▸ Word.spaced_cons ⟨hnil, hletters⟩ hc hws⟩

/-- The words of a text are the words it has. -/
theorem words_eq_iff {ws : List Text} {t : Text} : words t = ws ↔ Spaced ws t := by
  constructor
  · rintro rfl
    obtain ⟨ws, h⟩ := exists_spaced t
    rwa [h.words_eq]
  · exact Spaced.words_eq

/-- What stands in a text beside blanks stands in one of its words. -/
theorem Spaced.notMem {ws : List Text} {t : Text} {c : Char} (h : Spaced ws t)
    (hws : ∀ word ∈ ws, c ∉ word) (hc : isBlank c = false) : c ∉ t := by
  intro hmem
  obtain ⟨word, hword, hmem⟩ := exists_mem_words hmem hc
  rw [h.words_eq] at hword
  exact hws word hword hmem

/-- A word is what is left of a text exactly when the text has this word alone. -/
theorem trim_eq_iff_spaced {word t : Text} (hw : Word word) : trim t = word ↔ Spaced [word] t := by
  constructor
  · intro h
    obtain ⟨before, after, ht, hb, ha⟩ := exists_trimmed isBlank t
    change t = before ++ trim t ++ after at ht
    rw [h] at ht
    rw [← words_eq_iff, ht]
    cases after with
    | nil => rw [List.append_nil, words_gap_append hb, words_of_word hw]
    | cons c after =>
      obtain ⟨hc, ha⟩ := List.forall_mem_cons.1 ha
      rw [words_append_blank hc, words_gap_append hb, words_of_word hw, words_gap ha]
      rfl
  · intro h
    cases h with
    | last hg hw =>
      have htrim := trim_append_of_blank hg gap_nil word
      rwa [List.append_nil, trim_of_notBlank hw.2] at htrim
    | cons hg hw hb h =>
      cases h with
      | nil hrest => rw [trim_append_of_blank hg (hrest.cons hb), trim_of_notBlank hw.2]

end DefinitionServer.Text
