import DefinitionServer.Proofs.Round

/-!
# Streams that break down

A stream may fail at some point while it is read. The lines that are seen to be complete before
that point are heard, and the line that it falls into is lost. What can be read off such a stream is
what the heard lines ask, as if nothing else had been sent. This goes by comparing the stream with
its echo, a stream of the heard lines that does not break down: each reading gives the same of both,
or gives nothing of either.

## Main definitions

* `Source.heard`: the lines that are read before a stream breaks down.
* `Source.Echoes`: a stream of these lines.
* `Source.Agree`: two readings give the same, or both give nothing.
-/
namespace DefinitionServer

/-- The first lines of a list are the lines of its beginning. -/
theorem Lines.raw_flatten_of_prefix {α : Type} [DecidableEq α] {lf : α} {l : List α}
    {ms : List (List α)} (h : ms <+: raw lf l) : raw lf ms.flatten = ms := by
  induction ms generalizing l with
  | nil => rfl
  | cons m ms ih =>
    obtain ⟨rest, hrest⟩ := h
    rw [List.cons_append] at hrest
    have hl : l ≠ [] := by
      rintro rfl
      simp at hrest
    have hnext := hrest.trans (raw_eq_next hl)
    rcases raw_cons hrest.symm with ⟨x, rfl, hx⟩ | ⟨hm, hne, hnil⟩
    · rw [List.flatten_cons, List.append_assoc, List.singleton_append, raw_append_lf hx,
        ih ⟨rest, (List.cons.inj hnext).2⟩]
    · obtain ⟨rfl, -⟩ := List.append_eq_nil_iff.1 hnil
      rw [List.flatten_singleton, raw_of_notMem hm hne]

namespace Source

/-! ## Heard lines -/

/-- How many bytes, with the end of the stream counted as one, show that the line is complete. -/
def lineEnd (l : Bytes) : Nat := if l.getLast? = some Bytes.lf then l.length else l.length + 1

theorem length_le_lineEnd (l : Bytes) : l.length ≤ lineEnd l := by
  rw [lineEnd]
  split <;> omega

theorem lineEnd_le (l : Bytes) : lineEnd l ≤ l.length + 1 := by
  rw [lineEnd]
  split <;> omega

/-- The first of the lines, as far as so many bytes show them complete. -/
def heardWithin : Nat → List Bytes → List Bytes
  | _, [] => []
  | n, l :: ls => if lineEnd l ≤ n then l :: heardWithin (n - l.length) ls else []

/-- The lines that are read before the stream breaks down. -/
def heard (s : Source) : List Bytes :=
  match s.breakdown with
  | none => s.lines
  | some b => heardWithin b.after s.lines

theorem heardWithin_isPrefix (n : Nat) (ls : List Bytes) : heardWithin n ls <+: ls := by
  induction ls generalizing n with
  | nil => exact List.prefix_rfl
  | cons l ls ih =>
    rw [heardWithin]
    split
    · exact List.cons_prefix_cons.2 ⟨rfl, ih _⟩
    · exact List.nil_prefix

/-- The heard lines are the first lines. -/
theorem heard_isPrefix (s : Source) : s.heard <+: s.lines := by
  rw [heard]
  split
  · exact List.prefix_rfl
  · exact heardWithin_isPrefix _ _

theorem length_flatten_heardWithin_le (n : Nat) (ls : List Bytes) :
    (heardWithin n ls).flatten.length ≤ n := by
  induction ls generalizing n with
  | nil => exact Nat.zero_le n
  | cons l ls ih =>
    rw [heardWithin]
    split
    · rename_i hend
      have hl := length_le_lineEnd l
      have hrest := ih (n - l.length)
      rw [List.flatten_cons, List.length_append]
      omega
    · exact Nat.zero_le n

/-- The heard lines lie before the point where the stream breaks down. -/
theorem flatten_heard_isPrefix {s : Source} {b : Breakdown} (hb : s.breakdown = some b) :
    s.heard.flatten <+: s.unread.take b.after := by
  have hlength : s.heard.flatten.length ≤ b.after := by
    rw [heard, hb]
    exact length_flatten_heardWithin_le b.after s.lines
  obtain ⟨rest, hrest⟩ := s.heard_isPrefix
  have hbegins : s.heard.flatten <+: s.unread := by
    rw [← flatten_lines s, ← hrest, List.flatten_append]
    exact List.prefix_append _ _
  exact List.prefix_take_iff.2 ⟨hbegins, hlength⟩

variable {s t : Source} {l : Bytes} {ls : List Bytes} {max consumed : Nat}

theorem heard_cons (h : s.heard = l :: ls) :
    (∃ ms, s.lines = l :: ms) ∧ (s.advance l.length).heard = ls ∧
      ∀ b, s.breakdown = some b → lineEnd l ≤ b.after := by
  obtain ⟨ms, hms⟩ := s.heard_isPrefix
  rw [h, List.cons_append] at hms
  have hadvance := lines_advance hms.symm
  refine ⟨⟨_, hms.symm⟩, ?_⟩
  rw [heard] at h
  cases hb : s.breakdown with
  | none =>
    rw [hb] at h
    have hbreak : (s.advance l.length).breakdown = none := breakdown_advance hb l.length
    rw [heard, hbreak]
    exact ⟨(List.cons.inj (hms.trans h)).2 ▸ hadvance, by simp⟩
  | some b =>
    simp only [hb, ← hms, heardWithin] at h
    have hbreak : (s.advance l.length).breakdown = some { b with after := b.after - l.length } := by
      rw [advance, hb]
      rfl
    split at h
    · rename_i hend
      rw [heard, hbreak]
      refine ⟨hadvance ▸ (List.cons.inj h).2, ?_⟩
      rintro _ ⟨⟩
      exact hend
    · simp at h

theorem lineReach_eq (s : Source) (budget : Nat) :
    s.lineReach budget = min (lineEnd s.rawLine) (budget + 1) := rfl

/-- A heard line is read, unless it is over the limit. -/
theorem readLine_of_heard (h : s.heard = l :: ls) :
    s.readLine max consumed =
      if max - consumed < l.length then
        (.error (.tooLarge (consumed + (max - consumed) + 1) max), s.advance (max - consumed + 1))
      else (.ok (some (Bytes.content l)), s.advance l.length) := by
  obtain ⟨⟨ms, hms⟩, -, hend⟩ := heard_cons h
  have hne : l ≠ [] := List.length_pos_iff.1 (Lines.length_pos_of_raw_cons hms)
  have hreach : ∀ b, s.breakdown = some b → ¬ b.after < s.lineReach (max - consumed) := by
    intro b hb
    have := hend b hb
    rw [lineReach_eq, rawLine_of_cons hms]
    omega
  simp only [readLine, rawLine_of_cons hms, if_neg hne]
  cases hb : s.breakdown with
  | none => rfl
  | some b => exact if_neg (hreach b hb)

/-- Past the heard lines no line is read. -/
theorem readLine_of_not_heard (h : s.heard = []) (line : Bytes) :
    (s.readLine max consumed).1 ≠ .ok (some line) := by
  rw [heard] at h
  rcases hlines : s.lines with _ | ⟨l, ls⟩
  · simp only [readLine, rawLine_of_nil hlines, if_true]
    repeat' split
    all_goals simp
  · have hne : l ≠ [] := List.length_pos_iff.1 (Lines.length_pos_of_raw_cons hlines)
    cases hb : s.breakdown with
    | none => simp [hb, hlines] at h
    | some b =>
      simp only [hb, hlines, heardWithin] at h
      have hend : ¬ lineEnd l ≤ b.after := by
        intro hend
        simp [hend] at h
      have hle := lineEnd_le l
      simp only [readLine, hb, rawLine_of_cons hlines, if_neg hne, lineReach_eq]
      -- what is read of the line either falls short of its end or is over the limit
      repeat' split
      all_goals simp only [ne_eq, reduceCtorEq, not_false_eq_true]
      omega

/-! ## Echoes -/

/-- The second stream is made of the lines that are heard of the first, and does not break down. -/
structure Echoes (s t : Source) : Prop where
  breakdown : t.breakdown = none
  lines : t.lines = s.heard

/-- The stream of the heard lines. -/
theorem exists_echo (s : Source) : ∃ t, Echoes s t :=
  ⟨{ unread := s.heard.flatten }, rfl, Lines.raw_flatten_of_prefix s.heard_isPrefix⟩

theorem Echoes.heard (h : Echoes s t) : t.heard = s.heard := by
  rw [Source.heard, h.breakdown]
  exact h.lines

/-- Two readings agree: they give the same and leave a stream and its echo, or both fail. -/
def Agree {α : Type} (fails : α → Prop) (x y : α × Source) : Prop :=
  (x.1 = y.1 ∧ Echoes x.2 y.2) ∨ (fails x.1 ∧ fails y.1)

section Agree

variable {α : Type} {fails : α → Prop} {x y : α × Source}

theorem Agree.of_fails (h : Agree fails x y) (hx : fails x.1) : fails y.1 := by
  rcases h with ⟨hsame, -⟩ | ⟨-, hy⟩
  · exact hsame ▸ hx
  · exact hy

theorem Agree.of_not (h : Agree fails x y) (hx : ¬ fails x.1) :
    ∃ v, y = (x.1, v) ∧ Echoes x.2 v := by
  rcases h with ⟨hsame, hechoes⟩ | ⟨hx', -⟩
  · exact ⟨y.2, Prod.ext hsame.symm rfl, hechoes⟩
  · exact absurd hx' hx

end Agree

/-- Nothing is read: the stream is at its end, or an error closes the connection. -/
def Ends {α : Type} (r : Except RequestError (Option α)) : Prop :=
  r = .ok none ∨ ∃ e, r = .error e ∧ e.isFatal = true

theorem ends_of_readLine (h : ∀ line, (s.readLine max consumed).1 ≠ .ok (some line)) :
    Ends (s.readLine max consumed).1 := by
  rcases hread : s.readLine max consumed with ⟨e | _ | line, t⟩
  · exact .inr ⟨e, rfl, isFatal_of_readLine hread⟩
  · exact .inl rfl
  · exact absurd (congrArg Prod.fst hread) (h line)

theorem Echoes.readLine (h : Echoes s t) (max consumed : Nat) :
    Agree Ends (s.readLine max consumed) (t.readLine max consumed) := by
  rcases hs : s.heard with _ | ⟨l, ls⟩
  · have ht : t.heard = [] := h.heard.trans hs
    exact .inr ⟨ends_of_readLine (readLine_of_not_heard hs),
      ends_of_readLine (readLine_of_not_heard ht)⟩
  · have ht : t.heard = l :: ls := h.heard.trans hs
    obtain ⟨-, hrest, -⟩ := heard_cons hs
    rw [readLine_of_heard hs, readLine_of_heard ht]
    split
    · exact .inr ⟨.inr ⟨_, rfl, rfl⟩, .inr ⟨_, rfl, rfl⟩⟩
    · refine .inl ⟨rfl, breakdown_advance h.breakdown l.length, ?_⟩
      rw [hrest]
      exact lines_advance (h.lines.trans hs)

variable {p : Protocol}

theorem ends_of_error {e : RequestError} (h : s.readLine max consumed = (.error e, t)) :
    Ends (s.readLine max consumed).1 := by
  rw [h]
  exact .inr ⟨e, rfl, isFatal_of_readLine h⟩

theorem ends_of_none (h : s.readLine max consumed = (.ok none, t)) :
    Ends (s.readLine max consumed).1 := by
  rw [h]
  exact .inl rfl

theorem not_ends_of_line {line : Bytes} (h : s.readLine max consumed = (.ok (some line), t)) :
    ¬ Ends (s.readLine max consumed).1 := by
  rw [h]
  simp [Ends]

/-- A line that is read of a stream is read of its echo. -/
theorem Echoes.readLine_of_line {line : Bytes} {u : Source} (h : Echoes s t)
    (hread : s.readLine max consumed = (.ok (some line), u)) :
    ∃ v, t.readLine max consumed = (.ok (some line), v) ∧ Echoes u v := by
  have hagree := (h.readLine max consumed).of_not (not_ends_of_line hread)
  rwa [hread] at hagree

theorem nextCommand_ends (h : Ends (s.readLine p.maxBlockBytes 0).1) :
    Ends (s.nextCommand p).1 := by
  rw [nextCommand_eq]
  rcases hread : s.readLine p.maxBlockBytes 0 with ⟨e | _ | line, u⟩
  · exact .inr ⟨e, rfl, isFatal_of_readLine hread⟩
  · exact .inl rfl
  · exact absurd h (not_ends_of_line hread)

theorem Echoes.nextCommand (h : Echoes s t) :
    Agree Ends (s.nextCommand p) (t.nextCommand p) := by
  fun_induction Source.nextCommand p s generalizing t with
  | case1 s e u hread =>
    have hends := (h.readLine p.maxBlockBytes 0).of_fails (ends_of_error hread)
    exact .inr ⟨.inr ⟨e, rfl, isFatal_of_readLine hread⟩, nextCommand_ends hends⟩
  | case2 s u hread =>
    have hends := (h.readLine p.maxBlockBytes 0).of_fails (ends_of_none hread)
    exact .inr ⟨.inl rfl, nextCommand_ends hends⟩
  | case3 s line u hread hblank ih =>
    obtain ⟨v, hread', hechoes⟩ := h.readLine_of_line hread
    rw [nextCommand_eq p t, hread']
    simp only [if_pos hblank]
    exact ih hechoes
  | case4 s line u hread hblank =>
    obtain ⟨v, hread', hechoes⟩ := h.readLine_of_line hread
    rw [nextCommand_eq p t, hread']
    simp only [if_neg hblank]
    exact .inl ⟨rfl, hechoes⟩

/-- An error closes the connection. -/
def Fails {α : Type} (r : Except RequestError α) : Prop := ∃ e, r = .error e ∧ e.isFatal = true

theorem isFatal_of_loadBlockFrom {count : Nat} {e : RequestError}
    (h : s.loadBlockFrom p consumed count = (.error e, t)) : e.isFatal = true := by
  fun_induction Source.loadBlockFrom p consumed count s generalizing t with
  | case1 consumed count s e' u hread =>
    obtain rfl := Except.error.inj (Prod.mk.inj h).1
    exact isFatal_of_readLine hread
  | case2 =>
    rw [← Except.error.inj (Prod.mk.inj h).1]
    rfl
  | case3 => simp at h
  | case4 consumed count s line u hread htag r rest hb ih =>
    cases r with
    | error e' =>
      obtain rfl := Except.error.inj (Prod.mk.inj h).1
      exact ih hb
    | ok => simp [Except.map] at h

theorem loadBlockFrom_fails {count : Nat} (h : Ends (s.readLine p.maxBlockBytes consumed).1) :
    Fails (s.loadBlockFrom p consumed count).1 := by
  rw [loadBlockFrom_eq]
  rcases hread : s.readLine p.maxBlockBytes consumed with ⟨e | _ | line, u⟩
  · exact ⟨e, rfl, isFatal_of_readLine hread⟩
  · exact ⟨_, rfl, rfl⟩
  · exact absurd h (not_ends_of_line hread)

theorem Echoes.loadBlockFrom {count : Nat} (h : Echoes s t) :
    Agree Fails (s.loadBlockFrom p consumed count) (t.loadBlockFrom p consumed count) := by
  fun_induction Source.loadBlockFrom p consumed count s generalizing t with
  | case1 consumed count s e u hread =>
    have hends := (h.readLine p.maxBlockBytes consumed).of_fails (ends_of_error hread)
    exact .inr ⟨⟨e, rfl, isFatal_of_readLine hread⟩, loadBlockFrom_fails hends⟩
  | case2 consumed count s u hread =>
    have hends := (h.readLine p.maxBlockBytes consumed).of_fails (ends_of_none hread)
    exact .inr ⟨⟨_, rfl, rfl⟩, loadBlockFrom_fails hends⟩
  | case3 consumed count s u hread =>
    obtain ⟨v, hread', hechoes⟩ := h.readLine_of_line hread
    rw [loadBlockFrom_eq p t, hread']
    simp only [if_true]
    exact .inl ⟨rfl, hechoes⟩
  | case4 consumed count s line u hread htag r rest hb ih =>
    obtain ⟨v, hread', hechoes⟩ := h.readLine_of_line hread
    rw [loadBlockFrom_eq p t, hread']
    simp only [if_neg htag]
    have hrest := ih hechoes
    rw [hb] at hrest
    rcases hrest with ⟨hsame, hechoes'⟩ | ⟨⟨e, rfl, he⟩, ⟨e', he', hfatal⟩⟩
    · refine .inl ⟨?_, hechoes'⟩
      rw [← hsame]
    · exact .inr ⟨⟨e, rfl, he⟩, ⟨e', by rw [he']; rfl, hfatal⟩⟩

/-- A block is read of a stream and of its echo, or of neither. -/
theorem Echoes.loadBlock (h : Echoes s t) (p : Protocol) :
    (∃ block u v, s.loadBlock p = (.ok block, u) ∧ t.loadBlock p = (.ok block, v) ∧ Echoes u v) ∨
      ∃ e u e' v, s.loadBlock p = (.error e, u) ∧ t.loadBlock p = (.error e', v) ∧
        e.isFatal = true ∧ e'.isFatal = true := by
  have hagree : Agree Fails (s.loadBlock p) (t.loadBlock p) := h.loadBlockFrom
  rcases hs : s.loadBlock p with ⟨e | block, u⟩
  · have hfails : Fails (s.loadBlock p).1 := by
      rw [hs]
      exact ⟨e, rfl, isFatal_of_loadBlockFrom hs⟩
    obtain ⟨e', he', hfatal⟩ := hagree.of_fails hfails
    exact .inr ⟨e, u, e', _, rfl, Prod.ext he' rfl, isFatal_of_loadBlockFrom hs, hfatal⟩
  · have hreads : ¬ Fails (s.loadBlock p).1 := by simp [hs, Fails]
    obtain ⟨v, ht, hechoes⟩ := hagree.of_not hreads
    rw [hs] at ht hechoes
    exact .inl ⟨block, u, v, rfl, ht, hechoes⟩

/-- Whatever a block is read for, it is read of a stream and of its echo, or of neither. -/
theorem Echoes.afterBlock {α : Type} (h : Echoes s t) (p : Protocol)
    (f : List Bytes → Except RequestError α) :
    Agree Fails
      (match s.loadBlock p with
        | (.ok block, u) => (f block, u)
        | (.error e, u) => (.error e, u))
      (match t.loadBlock p with
        | (.ok block, u) => (f block, u)
        | (.error e, u) => (.error e, u)) := by
  rcases h.loadBlock p with ⟨block, u, v, hs, ht, hechoes⟩ | ⟨e, u, e', v, hs, ht, he, he'⟩
  · rw [hs, ht]
    exact .inl ⟨rfl, hechoes⟩
  · rw [hs, ht]
    exact .inr ⟨⟨e, rfl, he⟩, ⟨e', rfl, he'⟩⟩

theorem Echoes.ofLine (h : Echoes s t) (line : CommandLine) :
    Agree Fails (Query.ofLine p line s) (Query.ofLine p line t) := by
  unfold Query.ofLine
  cases Command.parse line with
  | ok c =>
    cases c with
    | define => exact h.afterBlock p fun block => .ok (some (Query.define block))
    | function name => exact .inl ⟨rfl, h⟩
    | functionList => exact .inl ⟨rfl, h⟩
    | quit => exact .inl ⟨rfl, h⟩
  | error e =>
    by_cases hname : line.name = Command.defineName
    · simp only [if_pos hname]
      exact h.afterBlock p fun _ => .error e
    · simp only [if_neg hname]
      exact .inl ⟨rfl, h⟩

/-- There is no further demand. -/
def Closed (r : Except Ending Demand) : Prop := ∃ e, r = .error e

theorem closed_of_ends (h : Ends (s.nextCommand p).1) : Closed (s.nextDemand p).1 := by
  rw [Source.nextDemand]
  rcases hs : s.nextCommand p with ⟨e | _ | line, u⟩ <;> rw [hs] at h
  · obtain ⟨e', he, hfatal⟩ : ∃ e', e = e' ∧ e'.isFatal = true := by simpa [Ends] using h
    exact ⟨_, he ▸ RequestError.verdict_of_fatal hfatal⟩
  · exact ⟨_, rfl⟩
  · simp [Ends] at h

theorem closed_of_fails {r : Except RequestError (Option Query)} (h : Fails r) :
    Closed (Demand.settle r) := by
  obtain ⟨e, rfl, he⟩ := h
  exact ⟨_, RequestError.verdict_of_fatal he⟩

/-- A demand is read of a stream and of its echo, or of neither. -/
theorem Echoes.nextDemand (h : Echoes s t) : Agree Closed (s.nextDemand p) (t.nextDemand p) := by
  have hagree : Agree Ends (s.nextCommand p) (t.nextCommand p) := h.nextCommand
  by_cases hends : Ends (s.nextCommand p).1
  · exact .inr ⟨closed_of_ends hends, closed_of_ends (hagree.of_fails hends)⟩
  obtain ⟨v, ht, hechoes⟩ := hagree.of_not hends
  rw [Source.nextDemand, Source.nextDemand, ht]
  generalize s.nextCommand p = read at hechoes
  rcases read with ⟨e | _ | line, u⟩
  · exact .inl ⟨rfl, hechoes⟩
  · exact .inl ⟨rfl, hechoes⟩
  rcases hechoes.ofLine (p := p) line with ⟨hsame, hechoes'⟩ | ⟨hfails, hfails'⟩
  · exact .inl ⟨congrArg Demand.settle hsame, hechoes'⟩
  · exact .inr ⟨closed_of_fails hfails, closed_of_fails hfails'⟩

/-- **What is heard is all that counts.** The demands that can be read off a stream are those that
the heard lines make. -/
theorem demands_conversation (p : Protocol) (s : Source) :
    (s.conversation p).demands = (Conversation.ofLines p s.heard).demands := by
  obtain ⟨t, ht⟩ := s.exists_echo
  rw [← ht.lines, ← conversation_of_sound ht.breakdown]
  fun_induction Source.conversation p s generalizing t with
  | case1 s d u hnext ih =>
    have hopen : ¬ Closed (s.nextDemand p).1 := by simp [hnext, Closed]
    obtain ⟨v, ht', hechoes⟩ := ht.nextDemand.of_not hopen
    rw [hnext] at ht' hechoes
    rw [conversation_of_demand ht', ih v hechoes]
  | case2 s e u hnext =>
    have hclosed : Closed (s.nextDemand p).1 := ⟨e, congrArg Prod.fst hnext⟩
    obtain ⟨e', he'⟩ := ht.nextDemand.of_fails hclosed
    rw [conversation_of_ending he']

end Source
end DefinitionServer
