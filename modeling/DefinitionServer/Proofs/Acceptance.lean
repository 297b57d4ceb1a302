import DefinitionServer.Proofs.CharacterRows
import DefinitionServer.Proofs.Definition

/-!
# What a definition is answered

The answer to a call for a definition follows from the array alone. It is told here from the rows
that the array has, by the form of the first and by the labels of the others: an array of another
rank, or without rows of text, is refused before anything is read; then no row at all, a first row
that writes no header, and a name or label that stands twice are told apart.

A first row may open with two dels. One is taken off the row as it is kept, and another off the
header that is read from it, so `∇∇F` defines `F` though no header is written with two dels. With
one del at most, exactly the rows of the stated form define a function.

## Main definitions

* `Definition.Unclosed`: what rows are without a closing del.
* `Definition.Labels`: rows begin with these labels.
* `Definition.Opened`: a first row writes a header, behind one more del or not.
* `Definition.Judged`: the answer to an array, by the form that a first row must have.
-/
namespace DefinitionServer
namespace Definition

open Text

/-! ## Rows without a closing del -/

/-- The rows without a last one that is a del with blanks around it. -/
inductive Unclosed : List Text → List Text → Prop
  | closed {rows : List Text} {del : Text} (h : Spaced [['∇']] del) : Unclosed (rows ++ [del]) rows
  | unclosed {rows : List Text} (h : ∀ row ∈ rows.getLast?, ¬ Spaced [['∇']] row) :
      Unclosed rows rows

theorem trim_eq_del_iff {row : Text} : trim row = ['∇'] ↔ Spaced [['∇']] row :=
  trim_eq_iff_spaced ⟨List.cons_ne_nil _ _, List.forall_mem_singleton.2 (by decide)⟩

theorem unclosed_iff {rows kept : List Text} :
    Unclosed rows kept ↔ withoutClosingDel rows = kept := by
  rw [withoutClosingDel]
  constructor
  · rintro (h | h)
    · rw [List.getLast?_concat]
      simp only [trim_eq_del_iff.2 h, if_true, List.dropLast_concat]
    · cases hlast : rows.getLast? with
      | none => rfl
      | some row => simp only [if_neg (mt trim_eq_del_iff.1 (h row hlast))]
  · rintro rfl
    rcases List.eq_nil_or_concat rows with rfl | ⟨front, row, rfl⟩
    · exact .unclosed (by simp)
    · rw [List.concat_eq_append, List.getLast?_concat]
      simp only
      split <;> rename_i hdel
      · rw [List.dropLast_concat]
        exact .closed (trim_eq_del_iff.1 hdel)
      · refine .unclosed fun row hrow => ?_
        rw [List.getLast?_concat, Option.mem_some] at hrow
        rwa [← hrow, ← trim_eq_del_iff]

/-! ## Labels -/

/-- The row begins with a label, a name before its first colon. -/
def Labelled (row label : Text) : Prop :=
  ∃ front rest, row = front ++ ':' :: rest ∧ ':' ∉ front ∧ Spaced [label] front ∧
    Name.isName label = true

/-- The labels of rows, in order. -/
inductive Labels : List Text → List Text → Prop
  | nil : Labels [] []
  | labelled {row label : Text} {rows labels : List Text} (h : Labelled row label)
      (hs : Labels rows labels) : Labels (row :: rows) (label :: labels)
  | bare {row : Text} {rows labels : List Text} (h : ∀ label, ¬ Labelled row label)
      (hs : Labels rows labels) : Labels (row :: rows) labels

theorem labelled_iff {row label : Text} : Labelled row label ↔ label? row = some label := by
  rw [label?]
  constructor
  · rintro ⟨front, rest, rfl, hcolon, hspaced, hname⟩
    have htrim := (trim_eq_iff_spaced (Header.word_of_isName hname)).2 hspaced
    simp only [cut_eq_some_iff.2 ⟨rfl, hcolon⟩, htrim, if_pos hname]
  · intro h
    cases hcut : row.cut ':' with
    | none => simp [hcut] at h
    | some parts =>
      obtain ⟨front, rest⟩ := parts
      obtain ⟨rfl, hcolon⟩ := cut_eq_some_iff.1 hcut
      simp only [hcut] at h
      split at h
      · rename_i hname
        obtain rfl := Option.some.inj h
        exact ⟨front, rest, rfl, hcolon,
          (trim_eq_iff_spaced (Header.word_of_isName hname)).1 rfl, hname⟩
      · simp at h

theorem labels_iff {rows labels : List Text} :
    Labels rows labels ↔ rows.filterMap label? = labels := by
  constructor
  · intro h
    induction h with
    | nil => rfl
    | labelled h _ ih => rw [List.filterMap_cons_some (labelled_iff.1 h), ih]
    | @bare row rows labels h _ ih =>
      have hnone : label? row = none :=
        Option.eq_none_iff_forall_ne_some.2 fun label hlabel => h label (labelled_iff.2 hlabel)
      rw [List.filterMap_cons_none hnone, ih]
  · rintro rfl
    induction rows with
    | nil => exact .nil
    | cons row rows ih =>
      cases hrow : label? row with
      | none =>
        rw [List.filterMap_cons_none hrow]
        exact .bare (fun label h => by simp [labelled_iff.1 h] at hrow) ih
      | some label =>
        rw [List.filterMap_cons_some hrow]
        exact .labelled (labelled_iff.2 hrow) ih

/-! ## Dels that open a row -/

/-- Two dels stand before everything else on the row. -/
def OpensTwice (row : Text) : Prop :=
  ∃ gap gap' rest, Gap gap ∧ Gap gap' ∧ row = gap ++ '∇' :: gap' ++ '∇' :: rest

/-- The row writes a header, or does so behind one more del. -/
inductive Opened (h : Header) : Text → Prop
  | once {row : Text} (hw : h.WrittenAs row) : Opened h row
  | twice {gap rest : Text} (hg : Gap gap) (hw : h.WrittenAs rest) : Opened h (gap ++ '∇' :: rest)

/-- What opens a row is taken off it before its header is read. -/
theorem opened_iff {h : Header} {row : Text} :
    Opened h row ↔ h.WrittenAs (withoutOpeningDel row) := by
  constructor
  · rintro (hw | ⟨hg, hw⟩)
    · obtain ⟨hs, hb⟩ := Header.writtenAs_iff.1 hw
      exact .plain hs hb
    · rwa [withoutOpeningDel_append hg]
  · intro hw
    rcases withoutOpeningDel_cases row with ⟨gap, hg, hrow⟩ | hrow
    · rw [hrow]
      exact .twice hg hw
    · rw [hrow] at hw
      exact .once hw

/-- The second del is all that sets an opened row apart from one that writes a header. -/
theorem opened_iff_writtenAs {h : Header} {row : Text} (hrow : ¬ OpensTwice row) :
    Opened h row ↔ h.WrittenAs row := by
  constructor
  · rintro (hw | ⟨hg, ⟨hs, hb⟩ | @⟨gap', rest, hs, hg', hb⟩⟩)
    · exact hw
    · exact .del hs hg hb
    · exact absurd ⟨_, gap', rest, hg, hg', by simp⟩ hrow
  · exact .once

/-- No header is written with two dels. -/
theorem OpensTwice.not_writtenAs {row : Text} (hrow : OpensTwice row) (h : Header) :
    ¬ h.WrittenAs row := by
  obtain ⟨gap, gap', rest, hg, -, rfl⟩ := hrow
  intro hw
  obtain ⟨hs, hb⟩ := Header.writtenAs_iff.1 hw
  rw [List.append_assoc, List.cons_append, withoutOpeningDel_append hg] at hb
  exact Header.del_notMem_body hs hb (by simp)

/-! ## The answer to an array -/

/-- The array is a vector with these rows, or a matrix that has them but for blanks at their
ends. -/
inductive Gives (v : Value) : List Text → Prop
  | vector {rows : List Text} (hr : v.rank = 1) (h : v.HasRows rows) : Gives v rows
  | matrix {rows : List Text} (hr : v.rank = 2) (h : v.HasRows rows) :
      Gives v (rows.map trimEnd)

/-- The answer to a call with the array, where a first row must have the form of a header. -/
inductive Judged (form : Header → Text → Prop) (v : Value) : Except Fault Token → Prop
  | rank (hr : v.rank ≠ 1 ∧ v.rank ≠ 2) : Judged form v (.ok (.diagnostic .rankError))
  | content (hr : v.rank = 1 ∨ v.rank = 2) (h : ∀ rows, ¬ v.HasRows rows) :
      Judged form v (.ok (.diagnostic .domainError))
  /-- No list is long enough for the rows, so there is no answer. -/
  | exhausted (h : v.TooLong) : Judged form v (.error .exhausted)
  | empty {rows : List Text} (hl : ¬ v.TooLong) (hg : Gives v rows) (hu : Unclosed rows []) :
      Judged form v (.ok (.diagnostic .defnError))
  | unformed {rows body : List Text} {first : Text} (hl : ¬ v.TooLong) (hg : Gives v rows)
      (hu : Unclosed rows (first :: body)) (hf : ∀ h, ¬ form h first) :
      Judged form v (.ok (.diagnostic .syntaxError))
  | repeated {rows body labels : List Text} {first : Text} {h : Header} (hl : ¬ v.TooLong)
      (hg : Gives v rows) (hu : Unclosed rows (first :: body)) (hf : form h first)
      (hb : Labels body labels) (hn : ¬ (h.names ++ labels).Nodup) :
      Judged form v (.ok (.diagnostic .defnError))
  | accepted {rows body labels : List Text} {first : Text} {h : Header} (hl : ¬ v.TooLong)
      (hg : Gives v rows) (hu : Unclosed rows (first :: body)) (hf : form h first)
      (hb : Labels body labels) (hn : (h.names ++ labels).Nodup) :
      Judged form v (.ok (.defined h.name))

theorem ofRows_of_unclosed {rows body : List Text} {first : Text}
    (hu : Unclosed rows (first :: body)) :
    ofRows rows = Header.parse (withoutOpeningDel first) >>= fun h =>
      if (bound h body).Nodup then .ok ⟨h, withoutOpeningDel first :: body⟩
      else .error .defnError := by
  rw [ofRows, unclosed_iff.1 hu]

/-- A first row that writes a header defines its function, unless a name or label stands twice. -/
theorem ofRows_of_opened {rows body labels : List Text} {first : Text} {h : Header}
    (hu : Unclosed rows (first :: body)) (hf : Opened h first) (hb : Labels body labels) :
    ofRows rows =
      if (h.names ++ labels).Nodup then .ok ⟨h, withoutOpeningDel first :: body⟩
      else .error .defnError := by
  rw [ofRows_of_unclosed hu, (opened_iff.1 hf).parse_eq]
  by_cases hnames : h.names.Nodup
  · simp only [if_pos hnames, bind, Except.bind, bound, labels_iff.1 hb]
  · rw [if_neg hnames, if_neg fun hn => hnames (List.nodup_append.1 hn).1]
    rfl

theorem ofValue_of_tooLong {v : Value} (h : v.TooLong) : ofValue v = .error .exhausted := by
  have hrank := h.rank_eq
  rw [ofValue, if_neg (by omega), Value.rows_eq_tooMany_iff.2 h]

theorem ofValue_of_gives {v : Value} {rows : List Text} (hl : ¬ v.TooLong) (hg : Gives v rows) :
    ofValue v = .ok (ofRows rows) := by
  rcases hg with ⟨hr, h⟩ | ⟨hr, h⟩
  all_goals
    rw [ofValue, Value.rows_eq_ok_iff.2 ⟨h, hl⟩, hr]
    rfl

/-- What the rows that an array gives define is the answer to it. -/
theorem define_of_gives (w : Workspace) {v : Value} {rows : List Text} (hl : ¬ v.TooLong)
    (hg : Gives v rows) :
    (w.define v).1 =
      match ofRows rows with
      | .ok d => .ok (.defined d.header.name)
      | .error e => .ok (.diagnostic e) := by
  rw [Workspace.define, ofValue_of_gives hl hg]
  rcases ofRows rows with e | d <;> rfl

/-- The answer is what an array is judged to be. -/
theorem Judged.define_eq {v : Value} {r : Except Fault Token} (h : Judged Opened v r)
    (w : Workspace) : (w.define v).1 = r := by
  cases h with
  | rank hr => rw [Workspace.define, ofValue, if_pos hr]
  | content hr h =>
    rw [Workspace.define, ofValue, if_neg (by omega), Value.rows_eq_notText_iff.2 h]
  | exhausted h => rw [Workspace.define, ofValue_of_tooLong h]
  | empty hl hg hu => rw [define_of_gives w hl hg, ofRows, unclosed_iff.1 hu]
  | @unformed rows body first hl hg hu hf =>
    have herror : Header.parse (withoutOpeningDel first) = .error .syntaxError :=
      Header.parse_eq_syntaxError_iff.2 fun h hw => hf h (opened_iff.2 hw)
    rw [define_of_gives w hl hg, ofRows_of_unclosed hu, herror]
    rfl
  | repeated hl hg hu hf hb hn =>
    rw [define_of_gives w hl hg, ofRows_of_opened hu hf hb, if_neg hn]
  | accepted hl hg hu hf hb hn =>
    rw [define_of_gives w hl hg, ofRows_of_opened hu hf hb, if_pos hn]

/-- Every array is judged in one way or another. -/
theorem exists_judged (form : Header → Text → Prop) (v : Value) : ∃ r, Judged form v r := by
  by_cases hr : v.rank ≠ 1 ∧ v.rank ≠ 2
  · exact ⟨_, .rank hr⟩
  by_cases hl : v.TooLong
  · exact ⟨_, .exhausted hl⟩
  by_cases hrows : ∃ rows, v.HasRows rows
  swap
  · exact ⟨_, .content (by omega) (not_exists.1 hrows)⟩
  obtain ⟨rows, hg⟩ : ∃ rows, Gives v rows := by
    obtain ⟨rows, hrows⟩ := hrows
    rcases (by omega : v.rank = 1 ∨ v.rank = 2) with hr | hr
    · exact ⟨_, .vector hr hrows⟩
    · exact ⟨_, .matrix hr hrows⟩
  have hu := unclosed_iff.2 (rfl : withoutClosingDel rows = _)
  cases hkept : withoutClosingDel rows with
  | nil => exact ⟨_, .empty hl hg (hkept ▸ hu)⟩
  | cons first body =>
    rw [hkept] at hu
    by_cases hf : ∃ h, form h first
    · obtain ⟨h, hf⟩ := hf
      have hb := labels_iff.2 (rfl : body.filterMap label? = _)
      by_cases hn : (h.names ++ body.filterMap label?).Nodup
      · exact ⟨_, .accepted hl hg hu hf hb hn⟩
      · exact ⟨_, .repeated hl hg hu hf hb hn⟩
    · exact ⟨_, .unformed hl hg hu (not_exists.1 hf)⟩

/-- Two forms that agree on the first row judge alike. -/
theorem Judged.congr {form form' : Header → Text → Prop} {v : Value} {r : Except Fault Token}
    (hform : ∀ rows first body, Gives v rows → Unclosed rows (first :: body) →
      ∀ h, form h first ↔ form' h first) (h : Judged form v r) : Judged form' v r := by
  cases h with
  | rank hr => exact .rank hr
  | content hr h => exact .content hr h
  | exhausted h => exact .exhausted h
  | empty hl hg hu => exact .empty hl hg hu
  | unformed hl hg hu hf => exact .unformed hl hg hu fun h => mt (hform _ _ _ hg hu h).2 (hf h)
  | repeated hl hg hu hf hb hn => exact .repeated hl hg hu ((hform _ _ _ hg hu _).1 hf) hb hn
  | accepted hl hg hu hf hb hn => exact .accepted hl hg hu ((hform _ _ _ hg hu _).1 hf) hb hn

/-- The first row that an array gives writes a header behind two dels. -/
def DoublyOpened (v : Value) : Prop :=
  ∃ rows first body h, Gives v rows ∧ Unclosed rows (first :: body) ∧ OpensTwice first ∧
    Opened h first

/-- The first row is empty of an array with too many rows. -/
theorem DoublyOpened.not_tooLong {v : Value} (h : DoublyOpened v) : ¬ v.TooLong := by
  rintro ⟨n, -, ha⟩
  obtain ⟨rows, first, body, -, hg, hu, ⟨gap, gap', rest, -, -, hfirst⟩, -⟩ := h
  have hmem : first ∈ rows :=
    (withoutClosingDel_isPrefix rows).subset (by rw [unclosed_iff.1 hu]; simp)
  have hnil : first = [] := by
    rcases hg with ⟨hr, -⟩ | ⟨-, hrows⟩
    · rw [Value.rank, Shape.rank, ha] at hr
      simp at hr
    · rw [(Value.hasRows_of_noColumns ha).1 hrows, List.map_replicate, List.mem_replicate] at hmem
      exact hmem.2
  simp [hnil] at hfirst

/-- **The answer to a call for a definition is told by the form of its rows.** The header of the
first row may stand behind one del more than its form has. But for this, a first row must have the
form of a header: the answers are those to this form exactly when the first row does not write a
header behind two dels. -/
theorem define_eq_iff_judged (w : Workspace) (v : Value) :
    (∀ r, (w.define v).1 = r ↔ Judged Opened v r) ∧
    ((∀ r, (w.define v).1 = r ↔ Judged Header.WrittenAs v r) ↔ ¬ DoublyOpened v) := by
  have hjudged (r : Except Fault Token) : (w.define v).1 = r ↔ Judged Opened v r := by
    obtain ⟨r', hr'⟩ := exists_judged Opened v
    constructor
    · rintro rfl
      rwa [hr'.define_eq w]
    · exact fun h => h.define_eq w
  refine ⟨hjudged, fun hform hdouble => ?_, fun hdouble r => ?_⟩
  · have hl := hdouble.not_tooLong
    obtain ⟨rows, first, body, h, hg, hu, htwice, hf⟩ := hdouble
    have herror := (hform _).2 (.unformed hl hg hu htwice.not_writtenAs)
    have hb := labels_iff.2 (rfl : body.filterMap label? = _)
    by_cases hn : (h.names ++ body.filterMap label?).Nodup
    · have hok := (hjudged _).2 (.accepted hl hg hu hf hb hn)
      simp [herror] at hok
    · have hok := (hjudged _).2 (.repeated hl hg hu hf hb hn)
      simp [herror] at hok
  · have hform : ∀ rows first body, Gives v rows → Unclosed rows (first :: body) →
        ∀ h, Opened h first ↔ h.WrittenAs first := by
      intro rows first body hg hu h
      by_cases htwice : OpensTwice first
      · refine ⟨fun hf => absurd ⟨rows, first, body, h, hg, hu, htwice, hf⟩ hdouble, .once⟩
      · exact opened_iff_writtenAs htwice
    rw [hjudged]
    exact ⟨Judged.congr hform, Judged.congr fun rows first body hg hu h =>
      (hform rows first body hg hu h).symm⟩

/-- A row that no header is written on defines a function. -/
theorem define_two_dels :
    let v : Value := .ofRows ["∇∇F".toList]
    (Workspace.empty.define v).1 = .ok (.defined "F".toList) ∧
      Judged Header.WrittenAs v (.ok (.diagnostic .syntaxError)) ∧
      ¬ ∀ r, (Workspace.empty.define v).1 = r ↔ Judged Header.WrittenAs v r := by
  intro v
  have hdefine : (Workspace.empty.define v).1 = .ok (.defined "F".toList) := by decide +kernel
  obtain ⟨hrows, hlong⟩ := Value.rows_eq_ok_iff.1 (Value.rows_ofRows ["∇∇F".toList])
  have hkept : Unclosed ["∇∇F".toList] ["∇∇F".toList] := unclosed_iff.2 (by decide)
  have htwice : OpensTwice "∇∇F".toList :=
    ⟨[], [], "F".toList, gap_nil, gap_nil, rfl⟩
  have hjudged : Judged Header.WrittenAs v (.ok (.diagnostic .syntaxError)) :=
    .unformed hlong (.vector rfl hrows) hkept htwice.not_writtenAs
  refine ⟨hdefine, hjudged, fun hall => ?_⟩
  have herror := (hall _).2 hjudged
  simp [hdefine] at herror

end Definition
end DefinitionServer
