import DefinitionServer.Proofs.Words
import DefinitionServer.Workspace.Basic
import Mathlib.Data.List.Forall2

/-!
# The form of a header

A header line has the form `[Z←] [A] NAME [B] [;L1;L2…]`, with blanks between names that nothing
else parts, more of them wherever a part begins or ends, and maybe one del before the whole. A line
of this form is read as the header that it writes, or is a definition error when a name is bound
twice. Any other line is a syntax error. That no name is taken for another part rests on names
having no blank, no arrow, no semicolon and no del.

## Main definitions

* `Header.Sayable`: a header that some line says.
* `Header.WrittenAs`: a line writes the header.
* `Header.text`: the plainest line that writes a header.
* `Header.read`: what is read of a line without its opening del.
-/
namespace DefinitionServer

/-! ## Names -/

namespace Name

theorem continues_of_mem {t : Text} (h : isName t = true) {c : Char} (hc : c ∈ t) :
    continues c = true := by
  cases t with
  | nil => simp at hc
  | cons a t =>
    rw [isName, Bool.and_eq_true] at h
    rcases List.mem_cons.1 hc with rfl | hc
    · rw [continues, h.1]
      rfl
    · exact List.all_eq_true.1 h.2 c hc

theorem notMem_of_stops {t : Text} (h : isName t = true) {c : Char} (hc : continues c = false) :
    c ∉ t := by
  intro hmem
  rw [continues_of_mem h hmem] at hc
  exact Bool.noConfusion hc

theorem lf_notMem {t : Text} (h : isName t = true) : '\n' ∉ t :=
  notMem_of_stops h (by decide +kernel)

theorem cr_notMem {t : Text} (h : isName t = true) : '\r' ∉ t :=
  notMem_of_stops h (by decide +kernel)

/-- What may stand in a name is no blank. -/
theorem isBlank_of_continues {c : Char} (h : continues c = true) : Text.isBlank c = false := by
  have hblanks : ∀ r ∈ Text.blanks, ∀ i ≤ r.2 - r.1, continues (Char.ofNat (r.1 + i)) = false := by
    decide +kernel
  by_contra hblank
  obtain ⟨r, hr, hlo, hhi⟩ := Text.Ranges.exists_of_holds (Bool.not_eq_false _ ▸ hblank)
  have hc := hblanks r hr (c.toNat - r.1) (by omega)
  rw [Nat.add_sub_cancel' hlo, Char.ofNat_toNat, h] at hc
  exact Bool.noConfusion hc

theorem ne_nil {t : Text} (h : isName t = true) : t ≠ [] := by
  rintro rfl
  simp [isName] at h

end Name

/-! ## The del that opens a row -/

namespace Definition

open Text

theorem withoutOpeningDel_eq (row : Text) :
    withoutOpeningDel row =
      if (trimStart row).head? = some '∇' then (trimStart row).tail else row := by
  rw [withoutOpeningDel, after?_singleton]
  split <;> rfl

/-- What stands before an opening del goes, and the del. -/
theorem withoutOpeningDel_append {gap : Text} (hg : Gap gap) (rest : Text) :
    withoutOpeningDel (gap ++ '∇' :: rest) = rest := by
  rw [withoutOpeningDel_eq, trimStart_append_of_blank hg, trimStart_cons_of_not (by decide),
    List.head?_cons, if_pos rfl, List.tail_cons]

theorem withoutOpeningDel_of_notMem {row : Text} (h : '∇' ∉ row) : withoutOpeningDel row = row := by
  have hhead : (trimStart row).head? ≠ some '∇' := fun hhead =>
    h ((List.dropWhile_suffix isBlank).subset (List.mem_of_head? hhead))
  rw [withoutOpeningDel_eq, if_neg hhead]

/-- A row is left as it is unless a del opens it. -/
theorem withoutOpeningDel_cases (row : Text) :
    (∃ gap, Gap gap ∧ row = gap ++ '∇' :: withoutOpeningDel row) ∨ withoutOpeningDel row = row := by
  rw [withoutOpeningDel_eq]
  split
  · rename_i hdel
    obtain ⟨rest, hrest⟩ := List.head?_eq_some_iff.1 hdel
    have hrow : row.takeWhile isBlank ++ trimStart row = row := List.takeWhile_append_dropWhile
    rw [hrest] at hrow ⊢
    exact .inl ⟨row.takeWhile isBlank, fun c hc => List.mem_takeWhile_imp hc, hrow.symm⟩
  · exact .inr rfl

end Definition

namespace Header

open Text

/-! ## The form of a line -/

/-- The names that stand behind the arrow, in their order. -/
def callNames (h : Header) : List Text := h.left.toList ++ h.name :: h.right.toList

/-- A header that some line says: its names are names, and a left argument only goes with a right
one. -/
structure Sayable (h : Header) : Prop where
  isName : ∀ name ∈ h.names, Name.isName name = true
  isSome_right : h.left.isSome → h.right.isSome

/-- The text is a signature of the header: the result before an arrow, if there is one, and the
names of the call. -/
inductive Signature (h : Header) : Text → Prop
  | bare {call : Text} (hr : h.result = none) (hc : Spaced h.callNames call) : Signature h call
  | arrow {result front call : Text} (hr : h.result = some result) (hf : Spaced [result] front)
      (hc : Spaced h.callNames call) : Signature h (front ++ '←' :: call)

/-- The parts are the local names, with blanks around each. -/
def Locals (h : Header) (parts : List Text) : Prop :=
  List.Forall₂ (fun name part => Spaced [name] part) h.locals parts

/-- The text is a signature of the header, and its local names behind a semicolon each. -/
def Body (h : Header) (t : Text) : Prop :=
  ∃ signature parts, t = signature ++ parts.flatMap (';' :: ·) ∧ h.Signature signature ∧
    h.Locals parts

/-- The line writes the header, with a del before it or without one. -/
inductive WrittenAs (h : Header) : Text → Prop
  | plain {line : Text} (hs : h.Sayable) (hb : h.Body line) : WrittenAs h line
  | del {gap rest : Text} (hs : h.Sayable) (hg : Gap gap) (hb : h.Body rest) :
      WrittenAs h (gap ++ '∇' :: rest)

/-- The header on a line, with no blank but between the names of the call. -/
def text (h : Header) : Text :=
  (h.result.map (· ++ ['←'])).getD [] ++ join ' ' h.callNames ++ h.locals.flatMap (';' :: ·)

/-! ## Names stand alone -/

theorem word_of_isName {name : Text} (h : Name.isName name = true) : Word name :=
  ⟨Name.ne_nil h, fun _ hc => Name.isBlank_of_continues (Name.continues_of_mem h hc)⟩

/-- What is neither blank nor part of a name is not among spaced names. -/
theorem notMem_of_spaced {names : List Text} {t : Text} {c : Char} (h : Spaced names t)
    (hnames : ∀ name ∈ names, Name.isName name = true) (hcont : Name.continues c = false)
    (hblank : isBlank c = false) : c ∉ t :=
  h.notMem (fun name hname => Name.notMem_of_stops (hnames name hname) hcont) hblank

section Sayable

variable {h : Header} {c : Char}

theorem Sayable.isName_call (hs : h.Sayable) : ∀ name ∈ h.callNames, Name.isName name = true := by
  intro name hname
  apply hs.isName
  simp only [callNames, names, List.mem_append, List.mem_cons] at hname ⊢
  tauto

theorem Sayable.isName_result (hs : h.Sayable) {result : Text} (hr : h.result = some result) :
    Name.isName result = true :=
  hs.isName result (by simp [names, hr])

theorem Sayable.isName_local (hs : h.Sayable) : ∀ name ∈ h.locals, Name.isName name = true :=
  fun name hname => hs.isName name (by simp [names, hname])

theorem notMem_signature (hs : h.Sayable) (hcont : Name.continues c = false)
    (hblank : isBlank c = false) (harrow : c ≠ '←') {t : Text} (ht : h.Signature t) : c ∉ t := by
  cases ht with
  | bare hr hc => exact notMem_of_spaced hc hs.isName_call hcont hblank
  | @arrow result front call hr hf hc =>
    have hfront : c ∉ front :=
      notMem_of_spaced hf (by simpa using hs.isName_result hr) hcont hblank
    have hcall : c ∉ call := notMem_of_spaced hc hs.isName_call hcont hblank
    simp [hfront, hcall, harrow]

theorem notMem_local (hs : h.Sayable) (hcont : Name.continues c = false)
    (hblank : isBlank c = false) {parts : List Text} (hp : h.Locals parts) :
    ∀ part ∈ parts, c ∉ part := by
  intro part hpart
  obtain ⟨i, hi, rfl⟩ := List.getElem_of_mem hpart
  have hi' : i < h.locals.length := by rwa [hp.length_eq]
  have hspaced := hp.get hi' hi
  refine notMem_of_spaced hspaced (fun name hname => ?_) hcont hblank
  rw [List.mem_singleton.1 hname]
  exact hs.isName_local _ (List.getElem_mem hi')

end Sayable

/-! ## The plainest line -/

/-- A header that can be said is said by its plainest line. -/
theorem Sayable.writtenAs_text {h : Header} (hs : h.Sayable) : h.WrittenAs h.text := by
  refine .plain hs ⟨_, h.locals, rfl, ?_, ?_⟩
  · have hcall := spaced_join fun name hname => word_of_isName (hs.isName_call name hname)
    cases hr : h.result with
    | none => exact .bare hr hcall
    | some result =>
      rw [Option.map_some, Option.getD_some, List.append_assoc, List.singleton_append]
      exact .arrow hr (word_of_isName (hs.isName_result hr)).spaced hcall
  · exact List.forall₂_same.2 fun name hname =>
      (word_of_isName (hs.isName_local name hname)).spaced

/-! ## Reading the parts of a line -/

theorem mapM_named (ts : List Text) :
    ts.mapM named =
      if ∀ t ∈ ts, Name.isName t = true then .ok ts else .error .syntaxError := by
  induction ts with
  | nil => rfl
  | cons t ts ih =>
    rw [List.mapM_cons, ih, named]
    simp only [List.forall_mem_cons]
    by_cases ht : Name.isName t = true
    · simp only [ht, true_and, if_true]
      split <;> rfl
    · simp only [ht]
      rfl

theorem mapM_named_of_isName {ts : List Text} (h : ∀ t ∈ ts, Name.isName t = true) :
    ts.mapM named = .ok ts := by
  rw [mapM_named, if_pos h]

/-- What is read of a line that has lost its opening del. -/
def read (t : Text) : Except Diagnostic Header := do
  let locals ← ((t.splitOn ';').tail.map trim).mapM named
  let (result, call) ← resultOf ((t.splitOn ';').headD [])
  let words ← (Text.words call).mapM named
  let (left, name, right) ← callOf words
  let header : Header := ⟨name, result, left, right, locals⟩
  if header.names.Nodup then .ok header else .error .defnError

theorem parse_eq_read (line : Text) : parse line = read (undelled line) := by
  rw [parse, read, List.mapM_map]
  rfl

theorem callOf_callNames {h : Header} (hs : h.Sayable) :
    callOf h.callNames = .ok (h.left, h.name, h.right) := by
  have hleft := hs.isSome_right
  rw [callNames]
  cases hl : h.left with
  | none => cases h.right <;> rfl
  | some left =>
    cases hr : h.right with
    | none => simp [hl, hr] at hleft
    | some right => rfl

/-- One to three words name the parts of a call, and no other number of words does. -/
theorem callOf_cases (words : List Text) :
    (∃ left name right, callOf words = .ok (left, name, right) ∧
      words = left.toList ++ name :: right.toList ∧ (left.isSome → right.isSome)) ∨
    callOf words = .error .syntaxError := by
  unfold callOf
  split
  · exact .inl ⟨none, _, none, rfl, rfl, id⟩
  · exact .inl ⟨none, _, some _, rfl, rfl, fun _ => rfl⟩
  · exact .inl ⟨some _, _, some _, rfl, rfl, fun _ => rfl⟩
  · exact .inr rfl

/-- The result is read that a signature states. -/
theorem Signature.exists_resultOf {h : Header} (hs : h.Sayable) {t : Text} (ht : h.Signature t) :
    ∃ call, resultOf t = .ok (h.result, call) ∧ Text.words call = h.callNames := by
  have harrow : Name.continues '←' = false := by decide +kernel
  cases ht with
  | bare hr hc =>
    have hcut : t.cut '←' = none :=
      cut_eq_none_iff.2 (notMem_of_spaced hc hs.isName_call harrow (by decide))
    exact ⟨t, by rw [resultOf, hcut, hr], hc.words_eq⟩
  | @arrow result front call hr hf hc =>
    have hname := hs.isName_result hr
    have hcut : (front ++ '←' :: call).cut '←' = some (front, call) :=
      cut_eq_some_iff.2 ⟨rfl, notMem_of_spaced hf (by simpa using hname) harrow (by decide)⟩
    have htrim : front.trim = result := (trim_eq_iff_spaced (word_of_isName hname)).2 hf
    refine ⟨call, ?_, hc.words_eq⟩
    rw [resultOf, hcut, hr]
    simp only [htrim, named, if_pos hname]
    rfl

/-- A signature has a result that is a name, or it has none. -/
theorem resultOf_cases (t : Text) :
    (∃ result call, resultOf t = .ok (result, call) ∧
      (∀ name ∈ result, Name.isName name = true) ∧
      ∀ h : Header, h.result = result → Spaced h.callNames call → h.Signature t) ∨
    resultOf t = .error .syntaxError := by
  rw [resultOf]
  cases hcut : t.cut '←' with
  | none => exact .inl ⟨none, t, rfl, by simp, fun h hr hc => .bare hr hc⟩
  | some parts =>
    obtain ⟨front, call⟩ := parts
    obtain ⟨rfl, -⟩ := cut_eq_some_iff.1 hcut
    simp only [named]
    split
    · rename_i hname
      refine .inl ⟨some front.trim, call, rfl, by simpa using hname, fun h hr hc => ?_⟩
      exact .arrow hr ((trim_eq_iff_spaced (word_of_isName hname)).1 rfl) hc
    · exact .inr rfl

/-- Local names are what is left of their parts. -/
theorem locals_iff {h : Header} (hnames : ∀ name ∈ h.locals, Name.isName name = true)
    {parts : List Text} : h.Locals parts ↔ parts.map trim = h.locals := by
  rw [Locals]
  generalize h.locals = names at hnames
  induction parts generalizing names with
  | nil => cases names <;> simp
  | cons part parts ih =>
    cases names with
    | nil => simp
    | cons name names =>
      obtain ⟨hname, hnames⟩ := List.forall_mem_cons.1 hnames
      rw [List.forall₂_cons, ih names hnames, ← trim_eq_iff_spaced (word_of_isName hname),
        List.map_cons, List.cons.injEq]

/-- A line that writes a header is read as this header. -/
theorem read_of_body {h : Header} (hs : h.Sayable) {t : Text} (ht : h.Body t) :
    read t = if h.names.Nodup then .ok h else .error .defnError := by
  obtain ⟨signature, parts, rfl, hsignature, hparts⟩ := ht
  have hsemi : Name.continues ';' = false := by decide +kernel
  have hsplit : (signature ++ parts.flatMap (';' :: ·)).splitOn ';' = signature :: parts := by
    refine splitOn_eq_cons_iff.2 ⟨rfl, List.forall_mem_cons.2 ⟨?_, ?_⟩⟩
    · exact notMem_signature hs hsemi (by decide) (by decide) hsignature
    · exact notMem_local hs hsemi (by decide) hparts
  obtain ⟨call, hresult, hwords⟩ := hsignature.exists_resultOf hs
  have hlocals := (locals_iff hs.isName_local).1 hparts
  rw [read, hsplit, List.tail_cons, List.headD_cons, hlocals,
    mapM_named_of_isName hs.isName_local, hresult]
  simp only [bind, Except.bind, hwords, mapM_named_of_isName hs.isName_call, callOf_callNames hs]

/-- A line writes a header, or is a syntax error. -/
theorem exists_body (t : Text) :
    (∃ h : Header, h.Sayable ∧ h.Body t) ∨ read t = .error .syntaxError := by
  cases hsplit : t.splitOn ';' with
  | nil => exact absurd hsplit (List.splitOn_ne_nil _ _)
  | cons signature parts =>
  obtain ⟨rfl, -⟩ := splitOn_eq_cons_iff.1 hsplit
  rw [read, hsplit, List.tail_cons, List.headD_cons, mapM_named]
  by_cases hlocals : ∀ name ∈ parts.map trim, Name.isName name = true
  swap
  · exact .inr (by rw [if_neg hlocals]; rfl)
  -- each part is as the form has it, or stops the reading with the one error there is
  rcases resultOf_cases signature with ⟨result, call, hresult, hname, hsignature⟩ | herror
  swap
  · exact .inr (by rw [if_pos hlocals, herror]; rfl)
  by_cases hwords : ∀ name ∈ Text.words call, Name.isName name = true
  swap
  · refine .inr ?_
    simp only [if_pos hlocals, hresult, bind, Except.bind, mapM_named, if_neg hwords]
  rcases callOf_cases (Text.words call) with ⟨left, name, right, hcall, hnames, hleft⟩ | herror
  swap
  · refine .inr ?_
    simp only [if_pos hlocals, hresult, bind, Except.bind, mapM_named, if_pos hwords, herror]
  let h : Header := ⟨name, result, left, right, parts.map trim⟩
  have hsayable : h.Sayable := by
    refine ⟨fun n hn => ?_, hleft⟩
    rw [hnames] at hwords
    simp only [h, names, List.mem_cons, List.mem_append, Option.mem_toList] at hn hwords
    rcases hn with hn | ((hn | hn) | hn) | hn
    · exact hwords n (.inr (.inl hn))
    · exact hname n hn
    · exact hwords n (.inl hn)
    · exact hwords n (.inr (.inr hn))
    · exact hlocals n hn
  refine .inl ⟨h, hsayable, signature, parts, rfl, ?_, (locals_iff hlocals).2 rfl⟩
  exact hsignature h rfl (words_eq_iff.1 hnames)

/-! ## Blanks at the end and a del at the beginning -/

theorem resultOf_trimEnd (t : Text) :
    resultOf (trimEnd t) = (resultOf t).map fun parts =>
      (parts.1, trimEnd parts.2) := by
  rw [resultOf, resultOf]
  cases hcut : t.cut '←' with
  | none =>
    have hcut' : (trimEnd t).cut '←' = none := by
      obtain ⟨gap, -, ht⟩ := exists_trimEnd t
      refine cut_eq_none_iff.2 fun hmem => cut_eq_none_iff.1 hcut ?_
      rw [ht]
      exact List.mem_append_left _ hmem
    rw [hcut']
    rfl
  | some parts =>
    obtain ⟨front, call⟩ := parts
    obtain ⟨rfl, hfront⟩ := cut_eq_some_iff.1 hcut
    rw [trimEnd_append_cons (by decide), cut_eq_some_iff.2 ⟨rfl, hfront⟩]
    simp only [named]
    split <;> rfl

/-- Blanks at the end of a line make no difference. -/
theorem read_trimEnd (t : Text) : read (trimEnd t) = read t := by
  cases hsplit : t.splitOn ';' with
  | nil => exact absurd hsplit (List.splitOn_ne_nil _ _)
  | cons signature parts =>
  obtain ⟨rfl, hsep⟩ := splitOn_eq_cons_iff.1 hsplit
  have hmem {u : Text} (h : ';' ∉ u) : ';' ∉ trimEnd u := by
    obtain ⟨gap, -, hu⟩ := exists_trimEnd u
    rw [hu] at h
    exact mt (List.mem_append_left _) h
  rcases List.eq_nil_or_concat parts with rfl | ⟨front, last, rfl⟩
  · rw [List.flatMap_nil, List.append_nil] at hsplit ⊢
    have hsplit' := List.splitOn_eq_singleton (hmem (hsep signature List.mem_cons_self))
    rw [read, read, hsplit, hsplit', List.headD_cons, List.headD_cons, resultOf_trimEnd]
    rcases resultOf signature with e | ⟨result, call⟩
    · rfl
    · simp only [Except.map, bind, Except.bind, words_trimEnd, List.tail_cons]
  · have hsplit' : (trimEnd (signature ++ (front.concat last).flatMap (';' :: ·))).splitOn ';' =
        signature :: front.concat (trimEnd last) := by
      rw [splitOn_eq_cons_iff]
      simp only [List.concat_eq_append, List.flatMap_append, List.flatMap_singleton] at hsep ⊢
      rw [← List.append_assoc, trimEnd_append_cons (by decide), List.append_assoc]
      refine ⟨rfl, fun piece hpiece => ?_⟩
      simp only [List.mem_cons, List.mem_append, List.not_mem_nil, or_false] at hpiece hsep
      rcases hpiece with h | h | rfl
      · exact hsep piece (.inl h)
      · exact hsep piece (.inr (.inl h))
      · exact hmem (hsep last (.inr (.inr rfl)))
    rw [read, read, hsplit, hsplit']
    simp only [List.tail_cons, List.headD_cons, List.concat_eq_append, List.map_append,
      List.map_singleton, trim_trimEnd]

/-- A blank at the beginning goes from the result or from the first word. -/
theorem read_cons_blank {c : Char} (h : isBlank c = true) (t : Text) : read (c :: t) = read t := by
  have hne : ∀ {x}, isBlank x = false → c ≠ x := by
    rintro x hx rfl
    simp [h] at hx
  have hsplit : (c :: t).splitOn ';' = (t.splitOn ';').modifyHead (c :: ·) := by
    rw [List.splitOn_cons_eq_if_modifyHead, if_neg (by simpa using hne (by decide))]
  rw [read, read, hsplit]
  cases t.splitOn ';' with
  | nil => rfl
  | cons signature parts =>
    have hcut := cut_cons '←' c signature
    rw [if_neg (hne (by decide))] at hcut
    rw [List.modifyHead_cons, List.headD_cons, List.headD_cons, List.tail_cons, List.tail_cons,
      resultOf, resultOf, hcut]
    cases cut '←' signature with
    | none => simp only [Option.map_none, bind, Except.bind, words_cons_of_blank h]
    | some parts => simp only [Option.map_some, trim, trimStart_cons_of_blank h]

theorem read_trimStart (t : Text) : read (trimStart t) = read t := by
  induction t with
  | nil => rfl
  | cons c t ih =>
    cases hc : isBlank c with
    | true => rw [trimStart_cons_of_blank hc, ih, read_cons_blank hc]
    | false => rw [trimStart_cons_of_not hc]

/-- A line is read without the blanks before an opening del and the del. -/
theorem parse_eq_read_withoutOpeningDel (line : Text) :
    parse line = read (Definition.withoutOpeningDel line) := by
  rw [parse_eq_read, undelled, trim, after?_singleton, Definition.withoutOpeningDel_eq]
  by_cases hdel : (trimStart line).head? = some '∇'
  · obtain ⟨rest, hrest⟩ := List.head?_eq_some_iff.1 hdel
    rw [if_pos hdel, hrest, trimEnd_cons_of_not (by decide), List.head?_cons, if_pos rfl]
    exact read_trimEnd rest
  · have hend : (trimEnd (trimStart line)).head? ≠ some '∇' := by
      obtain ⟨gap, -, ht⟩ := exists_trimEnd (trimStart line)
      intro hhead
      obtain ⟨rest, hrest⟩ := List.head?_eq_some_iff.1 hhead
      rw [ht, hrest] at hdel
      exact hdel rfl
    rw [if_neg hend, if_neg hdel, Option.getD_none, read_trimEnd, read_trimStart]

/-- What is no part of a name, nor a sign of the form, is not in a line of the form. -/
theorem notMem_body {h : Header} (hs : h.Sayable) {c : Char} (hcont : Name.continues c = false)
    (hblank : isBlank c = false) (harrow : c ≠ '←') (hsep : c ≠ ';') {t : Text} (ht : h.Body t) :
    c ∉ t := by
  obtain ⟨signature, parts, rfl, hsignature, hparts⟩ := ht
  have hsignature := notMem_signature hs hcont hblank harrow hsignature
  have hparts := notMem_local hs hcont hblank hparts
  simp only [List.mem_append, List.mem_flatMap, List.mem_cons]
  rintro (hmem | ⟨part, hpart, hmem | hmem⟩)
  · exact hsignature hmem
  · exact hsep hmem
  · exact hparts part hpart hmem

/-- Only a del that opens a line is part of its form. -/
theorem del_notMem_body {h : Header} (hs : h.Sayable) {t : Text} (ht : h.Body t) : '∇' ∉ t :=
  notMem_body hs (by decide +kernel) (by decide) (by decide) (by decide) ht

theorem WrittenAs.sayable {h : Header} {line : Text} (hw : h.WrittenAs line) : h.Sayable := by
  cases hw <;> assumption

theorem WrittenAs.notMem {h : Header} {line : Text} (hw : h.WrittenAs line) {c : Char}
    (hcont : Name.continues c = false) (hblank : isBlank c = false) (harrow : c ≠ '←')
    (hsep : c ≠ ';') (hdel : c ≠ '∇') : c ∉ line := by
  cases hw with
  | plain hs hb => exact notMem_body hs hcont hblank harrow hsep hb
  | @del gap rest hs hg hb =>
    have hgap : c ∉ gap := fun hmem => by simp [hg c hmem] at hblank
    simp [hgap, hdel, notMem_body hs hcont hblank harrow hsep hb]

/-- A line that writes a header does so behind its opening del, if it has one. -/
theorem writtenAs_iff {h : Header} {line : Text} :
    h.WrittenAs line ↔ h.Sayable ∧ h.Body (Definition.withoutOpeningDel line) := by
  constructor
  · rintro (⟨hs, hb⟩ | ⟨hs, hg, hb⟩)
    · rw [Definition.withoutOpeningDel_of_notMem (del_notMem_body hs hb)]
      exact ⟨hs, hb⟩
    · rw [Definition.withoutOpeningDel_append hg]
      exact ⟨hs, hb⟩
  · rintro ⟨hs, hb⟩
    rcases Definition.withoutOpeningDel_cases line with ⟨gap, hg, hline⟩ | hline
    · rw [hline]
      exact .del hs hg hb
    · rw [hline] at hb
      exact .plain hs hb

theorem WrittenAs.parse_eq {h : Header} {line : Text} (hw : h.WrittenAs line) :
    parse line = if h.names.Nodup then .ok h else .error .defnError := by
  obtain ⟨hs, hb⟩ := writtenAs_iff.1 hw
  rw [parse_eq_read_withoutOpeningDel, read_of_body hs hb]

/-- A line writes a header, or is a syntax error. -/
theorem exists_writtenAs (line : Text) :
    (∃ h : Header, h.WrittenAs line) ∨ parse line = .error .syntaxError := by
  rw [parse_eq_read_withoutOpeningDel]
  rcases exists_body (Definition.withoutOpeningDel line) with ⟨h, hs, hb⟩ | herror
  · exact .inl ⟨h, writtenAs_iff.2 ⟨hs, hb⟩⟩
  · exact .inr herror

theorem parse_eq_ok_iff {line : Text} {h : Header} :
    parse line = .ok h ↔ h.WrittenAs line ∧ h.names.Nodup := by
  constructor
  · intro hparse
    rcases exists_writtenAs line with ⟨h', hw⟩ | herror
    · have heq := hw.parse_eq
      rw [hparse] at heq
      split at heq
      · rename_i hnodup
        obtain rfl := Except.ok.inj heq
        exact ⟨hw, hnodup⟩
      · simp at heq
    · simp [hparse] at herror
  · rintro ⟨hw, hnodup⟩
    rw [hw.parse_eq, if_pos hnodup]

theorem parse_eq_defnError_iff {line : Text} :
    parse line = .error .defnError ↔ ∃ h : Header, h.WrittenAs line ∧ ¬ h.names.Nodup := by
  constructor
  · intro hparse
    rcases exists_writtenAs line with ⟨h, hw⟩ | herror
    · have heq := hw.parse_eq
      rw [hparse] at heq
      split at heq
      · simp at heq
      · exact ⟨h, hw, ‹_›⟩
    · simp [hparse] at herror
  · rintro ⟨h, hw, hnodup⟩
    rw [hw.parse_eq, if_neg hnodup]

theorem parse_eq_syntaxError_iff {line : Text} :
    parse line = .error .syntaxError ↔ ∀ h : Header, ¬ h.WrittenAs line := by
  constructor
  · intro hparse h hw
    rw [hw.parse_eq] at hparse
    split at hparse <;> simp at hparse
  · intro hnone
    exact (exists_writtenAs line).resolve_left fun ⟨h, hw⟩ => hnone h hw

/-- **A line is read as the header that it writes.** It is read so exactly when it writes a header
and no name stands in this twice. A header with a name twice is a definition error, and a line that
writes none is a syntax error. Some line writes a header exactly when its names are names and a left
argument comes with a right one, and then its plainest line does. -/
theorem parse_iff_writtenAs :
    (∀ line h, parse line = .ok h ↔ h.WrittenAs line ∧ h.names.Nodup) ∧
    (∀ line, parse line = .error .defnError ↔
      ∃ h : Header, h.WrittenAs line ∧ ¬ h.names.Nodup) ∧
    (∀ line, parse line = .error .syntaxError ↔ ∀ h : Header, ¬ h.WrittenAs line) ∧
    ∀ h : Header, (h.Sayable ↔ ∃ line, h.WrittenAs line) ∧ (h.Sayable ↔ h.WrittenAs h.text) := by
  exact ⟨fun _ _ => parse_eq_ok_iff, fun _ => parse_eq_defnError_iff,
    fun _ => parse_eq_syntaxError_iff, fun h =>
      ⟨⟨fun hs => ⟨h.text, hs.writtenAs_text⟩, fun ⟨_, hw⟩ => hw.sayable⟩,
        ⟨Sayable.writtenAs_text, WrittenAs.sayable⟩⟩⟩

example : parse " ∇ Z ← A F B ; L ".toList =
    .ok ⟨"F".toList, some "Z".toList, some "A".toList, some "B".toList, ["L".toList]⟩ := by
  decide +kernel

end Header
end DefinitionServer
