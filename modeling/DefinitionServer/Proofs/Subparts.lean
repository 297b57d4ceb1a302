import DefinitionServer.Proofs.Utf8

/-!
# Maximal ill-formed subparts

What a reader shows of bytes that are no text, said without a reader. Where a character stands it is
shown. Elsewhere the longest beginning of a character, or one byte if none begins there, is shown as
one replacement character, and reading goes on after it. Every string of bytes is shown as one text
by this rule, and `decodeLossy` gives that text.

## Main definitions

* `Opens`: bytes that some character begins with.
* `Subpart`: the maximal ill-formed subpart at the head of bytes.
* `Shows`: bytes, and the text that they are shown as.
-/
namespace DefinitionServer.Text.Utf8

/-- Some character begins with the bytes. -/
def Opens (bs : Bytes) : Prop := ∃ c, bs <+: String.utf8EncodeChar c

/-- No character stands at the head of `part ++ others`, and `part` is all that reading skips
there. -/
structure Subpart (part others : Bytes) : Prop where
  ne_nil : part ≠ []
  noChar : ∀ c, ¬ String.utf8EncodeChar c <+: part ++ others
  opens : Opens part ∨ part.length = 1
  longest : ∀ longer, Opens longer → longer <+: part ++ others → longer.length ≤ part.length

/-- The bytes are shown as the text. -/
inductive Shows : Bytes → Text → Prop
  | nil : Shows [] []
  | char (c : Char) {bs : Bytes} {t : Text} :
      Shows bs t → Shows (String.utf8EncodeChar c ++ bs) (c :: t)
  | illFormed {part bs : Bytes} {t : Text} :
      Subpart part bs → Shows bs t → Shows (part ++ bs) (replacement :: t)

/-! ## There is one text -/

theorem char_of_isPrefix {c : Char} {bs : Bytes} (h : String.utf8EncodeChar c <+: bs) :
    ∃ ps, pieces bs = .char c :: ps := by
  obtain ⟨others, rfl⟩ := h
  exact ⟨_, piecesFrom_encodeChar c others⟩

/-- Two characters do not stand at one place. -/
theorem eq_of_encodeChar_append {c d : Char} {bs cs : Bytes}
    (h : String.utf8EncodeChar c ++ bs = String.utf8EncodeChar d ++ cs) : c = d ∧ bs = cs := by
  have hc := piecesFrom_encodeChar c bs
  rw [h, piecesFrom_encodeChar, List.cons.injEq] at hc
  have hcd : c = d := by simpa using hc.1.symm
  subst hcd
  exact ⟨rfl, List.append_cancel_left h⟩

/-- Of two beginnings of the same bytes one is not longer than the other's limit. -/
theorem Subpart.length_le {part bs read cs : Bytes} (h : Subpart part bs) (h' : Subpart read cs)
    (heq : part ++ bs = read ++ cs) : read.length ≤ part.length := by
  rcases h'.opens with hopens | hone
  · apply h.longest read hopens
    rw [heq]
    exact List.prefix_append read cs
  · have := List.length_pos_iff.2 h.ne_nil
    omega

theorem Subpart.unique {part bs read cs : Bytes} (h : Subpart part bs) (h' : Subpart read cs)
    (heq : part ++ bs = read ++ cs) : part = read ∧ bs = cs := by
  apply List.append_inj heq
  have := h.length_le h' heq
  have := h'.length_le h heq.symm
  omega

/-- Bytes are shown as one text only. -/
theorem Shows.unique {bs : Bytes} {t u : Text} (h : Shows bs t) (h' : Shows bs u) : t = u := by
  induction h generalizing u with
  | nil =>
    generalize hbs : [] = cs at h'
    cases h' with
    | nil => rfl
    | char c _ => simp [String.utf8EncodeChar_ne_nil] at hbs
    | illFormed hpart _ => simp [hpart.ne_nil] at hbs
  | @char c bs t _ ih =>
    generalize hbs : String.utf8EncodeChar c ++ bs = cs at h'
    cases h' with
    | nil => simp [String.utf8EncodeChar_ne_nil] at hbs
    | char d h' =>
      obtain ⟨rfl, rfl⟩ := eq_of_encodeChar_append hbs
      rw [ih h']
    | illFormed hpart _ => exact absurd ⟨bs, hbs⟩ (hpart.noChar c)
  | @illFormed part bs t hpart _ ih =>
    generalize hbs : part ++ bs = cs at h'
    cases h' with
    | nil => simp [hpart.ne_nil] at hbs
    | char d _ => exact absurd ⟨_, hbs.symm⟩ (hpart.noChar d)
    | illFormed hpart' h' =>
      obtain ⟨rfl, rfl⟩ := hpart.unique hpart' hbs
      rw [ih h']

/-! ## What reading skips -/

/-- The bounds of the next byte are in order. -/
def Progress.Ordered : Progress → Prop
  | .between => True
  | .within _ _ lo hi _ => lo ≤ hi

theorem ordered_begin (b : UInt8) : (begin b).2.Ordered := by
  simp only [begin]
  repeat' split
  all_goals simp only [Progress.Ordered]
  all_goals decide

/-- Bytes that can still be completed begin a character. -/
theorem Completes.opens {read : Bytes} {left : Nat} {lo hi : UInt8} {code : Nat}
    (h : Completes read left lo hi code) (hle : lo ≤ hi) : Opens read := by
  induction left generalizing read lo hi code with
  | zero => exact absurd h id
  | succ left ih =>
    cases left with
    | zero => exact ⟨_, (h lo (UInt8.le_refl lo) hle) ▸ List.prefix_append read [lo]⟩
    | succ left =>
      obtain ⟨c, hc⟩ := ih (h lo (UInt8.le_refl lo) hle) (by decide)
      exact ⟨c, (List.prefix_append read [lo]).trans hc⟩

/-- `read` are the bytes since the last whole piece, and reading them leads from between two pieces
to `s`. -/
structure Reads (read : Bytes) (s : Progress) : Prop where
  begun : Begun read s
  ordered : s.Ordered
  pieces : ∀ bs, pieces (read ++ bs) = piecesFrom s bs

theorem reads_between : Reads [] .between := ⟨rfl, trivial, fun _ => rfl⟩

/-- What stands at the head of a list ends before an element of it, or reaches over it. -/
theorem isPrefix_or_concat_isPrefix {α : Type} {read xs ys : List α} {x : α}
    (h : read <+: xs ++ x :: ys) : read <+: xs ∨ xs ++ [x] <+: read := by
  rcases Nat.lt_or_ge xs.length read.length with hlt | hle
  · have hnext : xs ++ [x] <+: xs ++ x :: ys := ⟨ys, by simp⟩
    right
    apply List.prefix_of_prefix_length_le hnext h
    rw [List.length_append, List.length_singleton]
    omega
  · left
    exact List.prefix_of_prefix_length_le h (List.prefix_append _ _) hle

/-- A part ends where the next byte makes it a beginning of no character. -/
theorem subpart_of_stops {part others : Bytes} {b : UInt8} (hne : part ≠ [])
    (hopens : Opens part ∨ part.length = 1)
    (hstops : ∀ bs c ps, pieces (part ++ b :: bs) ≠ .char c :: ps) :
    Subpart part (b :: others) where
  ne_nil := hne
  opens := hopens
  noChar c hc := by
    obtain ⟨ps, hps⟩ := char_of_isPrefix hc
    exact hstops others c ps hps
  longest longer hlonger hstart := by
    rcases isPrefix_or_concat_isPrefix hstart with hshort | hpart
    · exact hshort.length_le
    · obtain ⟨c, hc⟩ := hlonger
      obtain ⟨bs, hbs⟩ := hpart.trans hc
      obtain ⟨ps, hps⟩ := char_of_isPrefix (List.prefix_refl (String.utf8EncodeChar c))
      rw [← hbs, List.append_assoc] at hps
      exact absurd hps (hstops bs c ps)

/-- A part that the bytes end in is as long as they are. -/
theorem subpart_of_ends {part : Bytes} (hne : part ≠ []) (hopens : Opens part ∨ part.length = 1)
    (hends : ∀ c ps, pieces part ≠ .char c :: ps) : Subpart part [] where
  ne_nil := hne
  opens := hopens
  noChar c hc := by
    rw [List.append_nil] at hc
    obtain ⟨ps, hps⟩ := char_of_isPrefix hc
    exact hends c ps hps
  longest longer _ hstart := by
    rw [List.append_nil] at hstart
    exact hstart.length_le

/-- A byte that begins no character is skipped alone. -/
theorem subpart_of_illFormed {b : UInt8} (h : begin b = ([.illFormed 1], .between)) (bs : Bytes) :
    Subpart [b] bs := by
  have hpieces : ∀ bs c ps, pieces (b :: bs) ≠ .char c :: ps := by
    intro bs c ps
    simp [pieces, piecesFrom, step, h]
  cases bs with
  | nil => exact subpart_of_ends (by simp) (.inr rfl) (hpieces [])
  | cons x bs => exact subpart_of_stops (by simp) (.inr rfl) fun bs => hpieces (x :: bs)

/-- A beginning of a character that the next byte does not continue is skipped. -/
theorem Reads.subpart {read : Bytes} {seen left : Nat} {lo hi : UInt8} {code : Nat}
    (h : Reads read (.within seen left lo hi code)) {b : UInt8} (hb : ¬ (lo ≤ b ∧ b ≤ hi))
    (bs : Bytes) : Subpart read (b :: bs) := by
  obtain ⟨hne, -, hcompletes⟩ := h.begun
  apply subpart_of_stops hne (.inl (hcompletes.opens h.ordered))
  intro bs c ps
  rw [h.pieces, piecesFrom, step, if_neg hb]
  simp

/-- A beginning of a character at the end of the bytes is skipped. -/
theorem Reads.subpart_nil {read : Bytes} {seen left : Nat} {lo hi : UInt8} {code : Nat}
    (h : Reads read (.within seen left lo hi code)) : Subpart read [] := by
  obtain ⟨hne, -, hcompletes⟩ := h.begun
  apply subpart_of_ends hne (.inl (hcompletes.opens h.ordered))
  intro c ps
  have hpieces := h.pieces []
  rw [List.append_nil] at hpieces
  simp [hpieces, piecesFrom, finish]

/-- What follows between two pieces is shown right when what follows its first byte is. -/
theorem shows_begin {b : UInt8} {bs : Bytes}
    (ih : ∀ read s, Reads read s → Shows (read ++ bs) ((piecesFrom s bs).map Piece.shown)) :
    Shows (b :: bs) (((begin b).1 ++ piecesFrom (begin b).2 bs).map Piece.shown) := by
  rcases begin_cases b with ⟨c, h, hc⟩ | h | ⟨s, h, hs⟩
  · rw [h]
    simpa [hc, Piece.shown] using Shows.char c (ih [] .between reads_between)
  · rw [h]
    exact (Shows.illFormed (subpart_of_illFormed h bs) (ih [] .between reads_between) :
      Shows ([b] ++ bs) _)
  · have hordered := ordered_begin b
    rw [h] at hordered ⊢
    apply ih [b] s
    refine ⟨hs, hordered, ?_⟩
    intro bs
    simp [pieces, piecesFrom, step, h]

/-- From wherever reading stands, the bytes since the last piece and those to come are shown as the
pieces that come. -/
theorem shows_piecesFrom (bs : Bytes) :
    ∀ read s, Reads read s → Shows (read ++ bs) ((piecesFrom s bs).map Piece.shown) := by
  induction bs with
  | nil =>
    intro read s h
    cases s with
    | between =>
      rw [show read = [] from h.begun]
      exact .nil
    | within seen left lo hi code => exact .illFormed h.subpart_nil .nil
  | cons b bs ih =>
    intro read s h
    cases s with
    | between =>
      rw [show read = [] from h.begun]
      exact shows_begin ih
    | within seen left lo hi code =>
      by_cases hb : lo ≤ b ∧ b ≤ hi
      · obtain ⟨-, -, hc⟩ := h.begun
        match left, hc with
        | 1, hc =>
          rw [piecesFrom_last _ _ _ hb, List.append_cons, ← hc b hb.1 hb.2]
          exact .char _ (ih [] .between reads_between)
        | left + 2, hc =>
          rw [piecesFrom_next _ _ _ _ hb, List.append_cons]
          apply ih
          refine ⟨⟨by simp, ?_, hc b hb.1 hb.2⟩, (by decide : (0x80 : UInt8) ≤ 0xBF), ?_⟩
          · simp [h.begun.2.1]
          · intro bs
            rw [List.append_assoc, h.pieces]
            exact piecesFrom_next _ _ _ _ hb
      · rw [piecesFrom, step, if_neg hb]
        exact .illFormed (h.subpart hb bs) (shows_begin ih)

/-- **`decodeLossy` shows each character as itself and each maximal ill-formed subpart as one
replacement character.** -/
theorem shows_iff {bs : Bytes} {t : Text} : Shows bs t ↔ decodeLossy bs = t := by
  have h : Shows bs (decodeLossy bs) := shows_piecesFrom bs [] .between reads_between
  constructor
  · exact h.unique
  · rintro rfl
    exact h

/-- The first two bytes of a character of three that a letter cuts off, a byte that begins nothing,
and a surrogate, of which no two bytes belong together. -/
example : Shows [0xE2, 0x82, 0x41, 0xFF, 0xED, 0xA0] "\uFFFDA\uFFFD\uFFFD\uFFFD".toList :=
  shows_iff.2 (by decide)

/-! ## ASCII characters

No subpart reaches over an ASCII character, so what stands on either side of one is shown as if it
stood alone. -/

section Ascii

variable {c : Char} {part bs cs : Bytes}

/-- No character has an ASCII byte behind its first. -/
theorem not_opens_of_ascii (hc : c.toNat < 0x80) (hne : bs ≠ []) :
    ¬ Opens (bs ++ [UInt8.ofNat c.toNat]) := by
  rintro ⟨d, hd⟩
  have hmem : UInt8.ofNat c.toNat ∈ String.utf8EncodeChar d := hd.subset (by simp)
  rw [← (mem_encodeChar_ascii hc).1 hmem, encodeChar_ascii hc] at hd
  have hlen := hd.length_le
  have hpos := List.length_pos_iff.2 hne
  simp only [List.length_append, List.length_cons, List.length_nil] at hlen
  omega

/-- A beginning of a character does not reach behind bytes that an ASCII byte follows. -/
theorem Opens.isPrefix_of_ascii (hc : c.toNat < 0x80) (hne : bs ≠ []) {read : Bytes}
    (h : Opens read) (hstart : read <+: bs ++ UInt8.ofNat c.toNat :: cs) : read <+: bs := by
  rcases isPrefix_or_concat_isPrefix hstart with hshort | hread
  · exact hshort
  · obtain ⟨d, hd⟩ := h
    exact absurd ⟨d, hread.trans hd⟩ (not_opens_of_ascii hc hne)

/-- What is skipped before more bytes is skipped before fewer. -/
theorem Subpart.of_append (h : Subpart part (bs ++ cs)) : Subpart part bs where
  ne_nil := h.ne_nil
  opens := h.opens
  noChar d hd := h.noChar d (hd.trans ⟨cs, by simp⟩)
  longest longer hlonger hstart := h.longest longer hlonger (hstart.trans ⟨cs, by simp⟩)

/-- An ASCII character does not change what is skipped before it. -/
theorem Subpart.append_ascii (hc : c.toNat < 0x80) (h : Subpart part bs) (cs : Bytes) :
    Subpart part (bs ++ UInt8.ofNat c.toNat :: cs) where
  ne_nil := h.ne_nil
  opens := h.opens
  noChar d hd := by
    rw [← List.append_assoc] at hd
    have hopens : Opens (String.utf8EncodeChar d) := ⟨d, List.prefix_refl _⟩
    exact h.noChar d (hopens.isPrefix_of_ascii hc (by simp [h.ne_nil]) hd)
  longest longer hlonger hstart := by
    rw [← List.append_assoc] at hstart
    exact h.longest longer hlonger (hlonger.isPrefix_of_ascii hc (by simp [h.ne_nil]) hstart)

theorem Shows.append_ascii (hc : c.toNat < 0x80) {t u : Text} (h : Shows bs t) (h' : Shows cs u) :
    Shows (bs ++ UInt8.ofNat c.toNat :: cs) (t ++ c :: u) := by
  induction h with
  | nil =>
    have hchar := Shows.char c h'
    rwa [encodeChar_ascii hc] at hchar
  | char d _ ih =>
    rw [List.append_assoc]
    exact .char d ih
  | illFormed hpart _ ih =>
    rw [List.append_assoc]
    exact .illFormed (hpart.append_ascii hc cs) ih

theorem Shows.eq_nil (h : Shows bs []) : bs = [] := by
  cases h
  rfl

/-- Where an ASCII character is shown, its byte stands between what is shown on either side. -/
theorem Shows.exists_of_ascii (hc : c.toNat < 0x80) {t u : Text} (h : Shows bs (t ++ c :: u)) :
    ∃ xs ys, bs = xs ++ UInt8.ofNat c.toNat :: ys ∧ Shows xs t ∧ Shows ys u := by
  generalize hs : t ++ c :: u = s at h
  induction h generalizing t with
  | nil => simp at hs
  | @char d bs s h ih =>
    cases t with
    | nil =>
      obtain ⟨rfl, rfl⟩ := List.cons_eq_cons.1 hs
      exact ⟨[], bs, by simp [encodeChar_ascii hc], .nil, h⟩
    | cons e t =>
      obtain ⟨rfl, hrest⟩ := List.cons_eq_cons.1 hs
      obtain ⟨xs, ys, rfl, hxs, hys⟩ := ih hrest
      exact ⟨_, ys, (List.append_assoc ..).symm, .char e hxs, hys⟩
  | @illFormed part bs s hpart h ih =>
    cases t with
    | nil =>
      obtain ⟨rfl, -⟩ := List.cons_eq_cons.1 hs
      simp [replacement] at hc
    | cons e t =>
      obtain ⟨rfl, hrest⟩ := List.cons_eq_cons.1 hs
      obtain ⟨xs, ys, rfl, hxs, hys⟩ := ih hrest
      exact ⟨_, ys, (List.append_assoc ..).symm, .illFormed hpart.of_append hxs, hys⟩

theorem decodeLossy_append_ascii (hc : c.toNat < 0x80) (bs cs : Bytes) :
    decodeLossy (bs ++ UInt8.ofNat c.toNat :: cs) = decodeLossy bs ++ c :: decodeLossy cs :=
  shows_iff.1 ((shows_iff.2 rfl).append_ascii hc (shows_iff.2 rfl))

/-- A text that is shown ends in an ASCII character exactly when the bytes end in its byte. -/
theorem getLast?_decodeLossy_ascii (hc : c.toNat < 0x80) {bs : Bytes} :
    (decodeLossy bs).getLast? = some c ↔ bs.getLast? = some (UInt8.ofNat c.toNat) := by
  constructor
  · intro h
    obtain ⟨t, ht⟩ := List.getLast?_eq_some_iff.1 h
    obtain ⟨xs, ys, rfl, -, hys⟩ := (shows_iff.2 ht).exists_of_ascii hc
    simp [hys.eq_nil]
  · intro h
    obtain ⟨xs, rfl⟩ := List.getLast?_eq_some_iff.1 h
    rw [decodeLossy_append_ascii hc]
    simp [decodeLossy, pieces, piecesFrom, finish]

end Ascii

end DefinitionServer.Text.Utf8
