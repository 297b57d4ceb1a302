import DefinitionServer.Proofs.Conversation

/-!
# Rounds

A round takes the next demand off the incoming stream, meets it, and sends the response. Whatever
the two streams do, that is all: `Session.round_eq` says it in one equation, with one place each for
the incoming stream, the interpreter and the outgoing stream. Serving a connection is therefore
known from three things: the demands that can be read, what the interpreter makes of them, and how
much of the responses can be written.

## Main definitions

* `Source.nextDemand`, `Source.conversation`: the demands that can be read off a stream.
* `Interpreter.reply`: what a demand is answered with.
* `Interpreter.converse`: meets demands and sends the responses, until one cannot be sent.
-/
namespace DefinitionServer

/-! ## Errors that close a connection -/

namespace RequestError

/-- What is wrong with a command line alone does not close the connection. -/
theorem isFatal_of_parse {line : Bytes} {e : RequestError} (h : CommandLine.parse line = .error e) :
    e.isFatal = false := by
  rw [CommandLine.parse] at h
  repeat' split at h
  · rw [← Except.error.inj h]; rfl
  · simp only at h
    split at h
    · rw [← Except.error.inj h]; rfl
    · simp at h

theorem isFatal_of_command {line : CommandLine} {e : RequestError}
    (h : Command.parse line = .error e) : e.isFatal = false := by
  unfold Command.parse Command.bare Command.functionOf at h
  repeat' split at h
  all_goals simp only [Except.error.injEq, reduceCtorEq] at h
  all_goals
    rw [← h]
    rfl

/-- What an error found while reading is: the end of the conversation, or a demand in error. -/
def verdict (e : RequestError) : Except Ending Demand :=
  if e.isFatal then .error (.fails e) else .ok (.error e)

theorem verdict_of_fatal {e : RequestError} (h : e.isFatal = true) :
    e.verdict = .error (.fails e) :=
  if_pos h

theorem verdict_of_not_fatal {e : RequestError} (h : e.isFatal = false) :
    e.verdict = .ok (.error e) :=
  if_neg (Bool.eq_false_iff.1 h)

theorem verdict_cases (e : RequestError) :
    e.verdict = .error (.fails e) ∨ e.verdict = .ok (.error e) := by
  cases h : e.isFatal with
  | true => exact .inl (verdict_of_fatal h)
  | false => exact .inr (verdict_of_not_fatal h)

end RequestError

/-! ## Demands on a stream -/

/-- What a query that was read is: a demand, or the end of the conversation. -/
def Demand.settle : Except RequestError (Option Query) → Except Ending Demand
  | .ok (some q) => .ok (.ok q)
  | .ok none => .error .quit
  | .error e => e.verdict

namespace Source

/-- Takes the next demand off a stream, or finds what ends the conversation. -/
def nextDemand (p : Protocol) (s : Source) : Except Ending Demand × Source :=
  match s.nextCommand p with
  | (.ok (some line), t) => (Demand.settle (Query.ofLine p line t).1, (Query.ofLine p line t).2)
  | (.ok none, t) => (.error .inputEnds, t)
  | (.error e, t) => (e.verdict, t)

/-- A demand is gone from the stream once it is read. -/
theorem nextDemand_shortens {p : Protocol} {s t : Source} {d : Demand}
    (h : s.nextDemand p = (.ok d, t)) : t.unread.length < s.unread.length := by
  rw [nextDemand] at h
  rcases hc : s.nextCommand p with ⟨e | _ | line, u⟩ <;> simp only [hc] at h
  · obtain ⟨hverdict, rfl⟩ := Prod.mk.inj h
    cases hfatal : e.isFatal with
    | true => simp [RequestError.verdict_of_fatal hfatal] at hverdict
    | false => exact nextCommand_shortens hc (by simp) (by simpa using hfatal)
  · simp at h
  · have hlt := nextCommand_shortens hc (by simp) (by simp)
    have hle := Query.ofLine_length_le p line u
    rw [(Prod.mk.inj h).2] at hle
    exact Nat.lt_of_le_of_lt hle hlt

/-- What can be read off a stream. -/
def conversation (p : Protocol) (s : Source) : Conversation :=
  match _h : s.nextDemand p with
  | (.ok d, t) => ⟨d :: (conversation p t).demands, (conversation p t).ending⟩
  | (.error e, _) => ⟨[], e⟩
termination_by s.unread.length
decreasing_by all_goals exact nextDemand_shortens _h

variable {p : Protocol} {s t : Source} {d : Demand}

theorem conversation_of_demand (h : s.nextDemand p = (.ok d, t)) :
    s.conversation p = ⟨d :: (t.conversation p).demands, (t.conversation p).ending⟩ := by
  rw [conversation]
  split <;> rename_i h' <;> rw [h] at h'
  · obtain ⟨hd, rfl⟩ := Prod.mk.inj h'
    rw [Except.ok.inj hd]
  · simp at h'

theorem conversation_of_ending {e : Ending} (h : (s.nextDemand p).1 = .error e) :
    s.conversation p = ⟨[], e⟩ := by
  rw [conversation]
  split <;> rename_i h' <;> rw [h'] at h
  · simp at h
  · rw [Except.error.inj h]

end Source

/-! ### Streams that do not break down -/

variable {p : Protocol} {s t : Source} {d : Demand} {l : Bytes} {ls after : List Bytes}

/-- A query that was read off a stream that does not break down is the demand that its lines make,
and leaves the lines after it. -/
structure Query.Asks (r : Except RequestError (Option Query) × Source)
    (x : Except Ending (Demand × List Bytes)) : Prop where
  demand : Demand.settle r.1 = x.map (·.1)
  after : ∀ d after, x = .ok (d, after) → r.2.lines = after ∧ r.2.breakdown = none

namespace Query

theorem asks_of_settle {r : Except RequestError (Option Query)} (hs : s.breakdown = none)
    (h : Demand.settle r = .ok d) : Asks (r, s) (.ok (d, s.lines)) where
  demand := h
  after _ _ hafter := ⟨(Prod.mk.inj (Except.ok.inj hafter)).2, hs⟩

/-- What is read after a block is known when it is known what the block is read for. -/
theorem asks_afterBlock (hs : s.breakdown = none)
    {f : List Bytes → Except RequestError (Option Query)} {g : List Bytes → Demand}
    (h : ∀ block, Demand.settle (f block) = .ok (g block)) :
    Asks
      (match s.loadBlock p with
        | (.ok block, t) => (f block, t)
        | (.error e, t) => (.error e, t))
      (match Block.read p s.lines with
        | .ok (block, after) => .ok (g block, after)
        | .error e => .error (.fails e)) := by
  cases hb : Block.read p s.lines with
  | ok r =>
    obtain ⟨block, after⟩ := r
    obtain ⟨t, ht, rfl, hbreak⟩ := Source.loadBlock_of_read hs hb
    rw [ht]
    exact asks_of_settle hbreak (h block)
  | error e =>
    obtain ⟨t, ht⟩ := Source.loadBlock_of_read_error hs hb
    rw [ht]
    exact ⟨RequestError.verdict_of_fatal (Block.isFatal_of_read hb), by simp⟩

/-- What is read off a stream for a command line is what the lines after it ask. -/
theorem asks_ofLine (hs : s.breakdown = none) (line : CommandLine) :
    Asks (ofLine p line s) (line.demand p s.lines) := by
  rw [CommandLine.demand, ofLine]
  cases hc : Command.parse line with
  | ok c =>
    cases c with
    | define => exact asks_afterBlock hs fun _ => rfl
    | function name => exact asks_of_settle hs rfl
    | functionList => exact asks_of_settle hs rfl
    | quit => exact ⟨rfl, by simp⟩
  | error e =>
    have hverdict := RequestError.verdict_of_not_fatal (RequestError.isFatal_of_command hc)
    by_cases hname : line.name = Command.defineName
    · simp only [if_pos hname]
      exact asks_afterBlock hs fun _ => hverdict
    · simp only [if_neg hname]
      exact asks_of_settle hs hverdict

end Query

namespace Source

section Sound

variable (hs : s.breakdown = none)

include hs

theorem nextDemand_of_nil (h : s.lines = []) : s.nextDemand p = (.error .inputEnds, s) := by
  rw [nextDemand, nextCommand_of_nil hs h]

theorem nextDemand_of_exceeds (h : s.lines = l :: ls) (hexceeds : p.maxBlockBytes < l.length) :
    (s.nextDemand p).1 = .error (.fails (.tooLarge (p.maxBlockBytes + 1) p.maxBlockBytes)) := by
  have hc := nextCommand_of_exceeds hs h hexceeds
  rw [nextDemand, ← Prod.eta (s.nextCommand p), hc]
  rfl

theorem nextDemand_of_blank (h : s.lines = l :: ls) (hl : p.PassesOver l) :
    s.nextDemand p = (s.advance l.length).nextDemand p := by
  rw [nextDemand, nextDemand, nextCommand_of_blank hs h hl.1 hl.2]

/-- The next demand is the one behind the blank lines. -/
theorem nextDemand_of_blanks {blanks : List Bytes} (hblanks : ∀ b ∈ blanks, p.PassesOver b)
    (h : s.lines = blanks ++ ls) :
    ∃ u : Source, s.nextDemand p = u.nextDemand p ∧ u.lines = ls ∧ u.breakdown = none := by
  induction blanks generalizing s with
  | nil => exact ⟨s, rfl, h, hs⟩
  | cons b blanks ih =>
    obtain ⟨hb, hblanks⟩ := List.forall_mem_cons.1 hblanks
    rw [nextDemand_of_blank hs h hb]
    exact ih (breakdown_advance hs b.length) hblanks (lines_advance h)

/-- What is read off a stream for a line that is not blank is what the lines ask. -/
theorem nextDemand_of_line (h : s.lines = l :: ls) (hfit : l.length ≤ p.maxBlockBytes)
    (hl : (Bytes.content l).all isSpace = false) :
    (s.nextDemand p).1 = (Demand.ofLine p (Bytes.content l) ls).map (·.1) ∧
      ∀ d after, Demand.ofLine p (Bytes.content l) ls = .ok (d, after) →
        (s.nextDemand p).2.lines = after ∧ (s.nextDemand p).2.breakdown = none := by
  have hadv := lines_advance h
  have hsadv := breakdown_advance hs l.length
  rw [nextDemand, nextCommand_of_line hs h hfit hl, Demand.ofLine]
  cases hc : CommandLine.parse (Bytes.content l) with
  | error e =>
    refine ⟨RequestError.verdict_of_not_fatal (RequestError.isFatal_of_parse hc), ?_⟩
    intro d after h
    rw [← (Prod.mk.inj (Except.ok.inj h)).2]
    exact ⟨hadv, hsadv⟩
  | ok line =>
    have hline := Query.asks_ofLine (p := p) hsadv line
    rw [hadv] at hline
    exact ⟨hline.demand, hline.after⟩

/-- What can be read off a stream that does not break down is what its lines ask. -/
theorem conversation_of_sound : s.conversation p = Conversation.ofLines p s.lines := by
  generalize hls : s.lines = ls
  fun_induction Conversation.ofLines p ls generalizing s with
  | case1 => exact conversation_of_ending (congrArg Prod.fst (nextDemand_of_nil hs hls))
  | case2 l ls hexceeds => exact conversation_of_ending (nextDemand_of_exceeds hs hls hexceeds)
  | case3 l ls hfit hblank ih =>
    have hnext := nextDemand_of_blank hs hls ⟨Nat.le_of_not_lt hfit, hblank⟩
    rw [conversation, hnext, ← ih (breakdown_advance hs l.length) (lines_advance hls),
      conversation]
  | case4 l ls hfit hblank d after hd ih =>
    obtain ⟨hdemand, hafter⟩ := nextDemand_of_line (p := p) hs hls (Nat.le_of_not_lt hfit)
      (Bool.eq_false_iff.2 hblank)
    obtain ⟨hlines, hbreak⟩ := hafter d after hd
    rw [hd] at hdemand
    rw [conversation_of_demand (Prod.ext hdemand rfl), ih hbreak hlines]
  | case5 l ls hfit hblank e he =>
    obtain ⟨hending, -⟩ := nextDemand_of_line (p := p) hs hls (Nat.le_of_not_lt hfit)
      (Bool.eq_false_iff.2 hblank)
    rw [he] at hending
    exact conversation_of_ending hending

/-- A stream that does not break down still does not when a demand is read off it. -/
theorem breakdown_of_nextDemand (h : s.nextDemand p = (.ok d, t)) : t.breakdown = none := by
  generalize hls : s.lines = ls
  fun_induction Conversation.ofLines p ls generalizing s with
  | case1 => simp [nextDemand_of_nil hs hls] at h
  | case2 l ls hexceeds => simpa [h] using nextDemand_of_exceeds hs hls hexceeds
  | case3 l ls hfit hblank ih =>
    rw [nextDemand_of_blank hs hls ⟨Nat.le_of_not_lt hfit, hblank⟩] at h
    exact ih (breakdown_advance hs l.length) h (lines_advance hls)
  | case4 l ls hfit hblank d' after hd' =>
    obtain ⟨-, hafter⟩ := nextDemand_of_line (p := p) hs hls (Nat.le_of_not_lt hfit)
      (Bool.eq_false_iff.2 hblank)
    simpa [h] using (hafter d' after hd').2
  | case5 l ls hfit hblank e he =>
    obtain ⟨hending, -⟩ := nextDemand_of_line (p := p) hs hls (Nat.le_of_not_lt hfit)
      (Bool.eq_false_iff.2 hblank)
    simp [h, he, Except.map] at hending

end Sound

/-! ### What fits a machine word -/

/-- A line that is read is the content of a line within the limit. -/
theorem readLine_eq_some {max consumed : Nat} {line : Bytes} {t : Source}
    (h : s.readLine max consumed = (.ok (some line), t)) :
    line = Bytes.content s.rawLine ∧ consumed + s.rawLine.length ≤ max ∧ consumed < max := by
  have hpos := List.length_pos_iff.2 (readLine_unread h).1
  unfold readLine at h
  simp only at h
  repeat' split at h
  all_goals simp only [Prod.mk.injEq, Except.ok.injEq, reduceCtorEq, false_and] at h
  all_goals
    obtain ⟨hline, -⟩ := h
    obtain rfl := Option.some.inj hline
    exact ⟨rfl, by omega, by omega⟩

/-- A block that is read and each of its lines are no longer than the limit. -/
theorem length_le_of_loadBlockFrom {consumed count : Nat} {block : List Bytes} {t : Source}
    (h : s.loadBlockFrom p consumed count = (.ok block, t)) :
    consumed + block.length < p.maxBlockBytes ∧
      ∀ line ∈ block, line.length ≤ p.maxBlockBytes := by
  fun_induction loadBlockFrom p consumed count s generalizing block t with
  | case1 => simp at h
  | case2 => simp at h
  | case3 consumed count s t hread =>
    obtain rfl := Except.ok.inj (Prod.mk.inj h).1
    exact ⟨(readLine_eq_some hread).2.2, by simp⟩
  | case4 consumed count s line t hread _ r rest hb ih =>
    obtain ⟨hr, -⟩ := Prod.mk.inj h
    cases r with
    | error e => simp [Except.map] at hr
    | ok others =>
      obtain rfl := Except.ok.inj hr
      obtain ⟨hcount, hlength⟩ := ih hb
      obtain ⟨hline, hfit, -⟩ := readLine_eq_some hread
      have hcontent : line.length ≤ s.rawLine.length := hline ▸ Lines.length_content_le s.rawLine
      rw [List.length_cons, List.forall_mem_cons]
      exact ⟨by omega, by omega, hlength⟩

end Source

namespace Interpreter

variable {σ : Type} (I : Interpreter σ)

/-- The lines of a query are few and short enough for a machine word to count. -/
def Fits : Query → Prop
  | .define lines => lines.length ≤ Shape.maxVolume ∧ ∀ line ∈ lines, line.length ≤ Shape.maxVolume
  | _ => True

/-- What is read of a query fits a machine word when the limit does. -/
theorem fits_of_ofLine {line : CommandLine} {q : Query} {t : Source}
    (hp : p.maxBlockBytes ≤ Shape.maxVolume) (h : Query.ofLine p line s = (.ok (some q), t)) :
    Fits q := by
  unfold Query.ofLine at h
  repeat' split at h
  all_goals
    simp only [Prod.mk.injEq, Except.ok.injEq, Option.some.injEq, reduceCtorEq, false_and] at h
  · rename_i hread
    obtain ⟨hcount, hlength⟩ := Source.length_le_of_loadBlockFrom hread
    rw [← h.1]
    exact ⟨by omega, fun line hline => Nat.le_trans (hlength line hline) hp⟩
  all_goals
    rw [← h.1]
    trivial

theorem fits_of_nextDemand {q : Query} {t : Source} (hp : p.maxBlockBytes ≤ Shape.maxVolume)
    (h : s.nextDemand p = (.ok (.ok q), t)) : Fits q := by
  have hverdict : ∀ e : RequestError, e.verdict ≠ .ok (.ok q) := by
    intro e
    rcases e.verdict_cases with h | h <;> simp [h]
  rw [Source.nextDemand] at h
  rcases hc : s.nextCommand p with ⟨e | _ | line, u⟩ <;> simp only [hc] at h
  · exact absurd (Prod.mk.inj h).1 (hverdict e)
  · simp at h
  · rcases hq : Query.ofLine p line u with ⟨e | _ | q', v⟩ <;> simp only [hq] at h
    · exact absurd (Prod.mk.inj h).1 (hverdict e)
    · simp [Demand.settle] at h
    · obtain rfl : q' = q := by simpa [Demand.settle] using (Prod.mk.inj h).1
      exact fits_of_ofLine hp hq

theorem fits_of_mem_conversation {q : Query} (hp : p.maxBlockBytes ≤ Shape.maxVolume)
    (h : .ok q ∈ (s.conversation p).demands) : Fits q := by
  fun_induction Source.conversation p s with
  | case1 s d t hnext ih =>
    rcases List.mem_cons.1 h with rfl | h
    · exact fits_of_nextDemand hp hnext
    · exact ih h
  | case2 => simp at h

/-! ## Replies -/

theorem sourceBody_eq (source : Option Value) :
    sourceBody source = (sourceText source).mapError .interpreter := by
  cases source with
  | none => rfl
  | some v =>
    simp only [sourceBody, sourceText, Option.map_some]
    rcases v.rows with (_ | _) | rows <;> rfl

/-- An answer is what the interpreter makes of the call of the query. -/
theorem answer_eq_perform {q : Query} (h : Fits q) (s : σ) :
    (I.answer q s).body = (I.perform q.call s).1.mapError .interpreter ∧
      (I.answer q s).state = (I.perform q.call s).2 := by
  cases q with
  | define lines =>
    simp only [answer, Value.ofLines_eq_ok h.1 h.2, invoke, ask, perform, Query.call]
    rcases I.define _ s with ⟨_ | token, t⟩ <;> exact ⟨rfl, rfl⟩
  | function name =>
    simp only [answer, ask, perform, Query.call]
    rcases I.source name s with ⟨_ | source, t⟩
    · exact ⟨rfl, rfl⟩
    · exact ⟨sourceBody_eq source, rfl⟩
  | functionList =>
    simp only [answer, ask, perform, Query.call]
    rcases I.names s with ⟨_ | names, t⟩ <;> exact ⟨rfl, rfl⟩

/-- What a demand is answered with, and the state after it. -/
def reply : Demand → σ → Except RequestError Text × σ
  | .ok q, s => ((I.answer q s).body, (I.answer q s).state)
  | .error e, s => (.ok (Sink.errorBody e), s)

theorem reply_eq_meet {d : Demand} (h : ∀ q, d = .ok q → Fits q) (s : σ) :
    I.reply d s = ((I.meet d s).1.mapError .interpreter, (I.meet d s).2) := by
  cases d with
  | error e => rfl
  | ok q =>
    obtain ⟨hbody, hstate⟩ := I.answer_eq_perform (h q rfl) s
    exact Prod.ext hbody hstate

/-- A demand that was read is answered as the interpreter meets it. -/
theorem reply_of_nextDemand {d : Demand} {t : Source} (hp : p.maxBlockBytes ≤ Shape.maxVolume)
    (h : s.nextDemand p = (.ok d, t)) (u : σ) :
    I.reply d u = ((I.meet d u).1.mapError .interpreter, (I.meet d u).2) :=
  I.reply_eq_meet (fun _ hq => fits_of_nextDemand hp (hq ▸ h)) u

theorem meet_of_reply {d : Demand} {t : Source} (hp : p.maxBlockBytes ≤ Shape.maxVolume)
    (h : s.nextDemand p = (.ok d, t)) {u v : σ} {body : Text}
    (hreply : I.reply d u = (.ok body, v)) : I.meet d u = (.ok body, v) := by
  rw [I.reply_of_nextDemand hp h] at hreply
  rcases hm : I.meet d u with ⟨f | body', v'⟩ <;> simp only [hm] at hreply
  · simp [Except.mapError] at hreply
  · simpa [Except.mapError] using hreply

/-- A question that is not answered closes the connection. -/
theorem isFatal_of_ask {α : Type} {f : σ → Except Fault α × σ} {s : σ} {e : RequestError}
    (h : (ask f s).1 = .error e) : e.isFatal = true := by
  rw [ask] at h
  split at h
  · simp at h
  · rw [← Except.error.inj h]
    rfl

theorem isFatal_of_sourceBody {source : Option Value} {e : RequestError}
    (h : sourceBody source = .error e) : e.isFatal = true := by
  rw [sourceBody] at h
  split at h
  · simp at h
  · rw [← Except.error.inj h]
    rfl
  all_goals simp at h

theorem isFatal_of_invoke {v : Value} {s : σ} {e : RequestError}
    (h : (I.invoke v s).body = .error e) : e.isFatal = true := by
  rw [invoke] at h
  split at h <;> rename_i hask
  · simp at h
  · obtain rfl := Except.error.inj h
    exact isFatal_of_ask (congrArg Prod.fst hask)

/-- A query that is not answered closes the connection. -/
theorem isFatal_of_answer {q : Query} {s : σ} {e : RequestError}
    (h : (I.answer q s).body = .error e) : e.isFatal = true := by
  cases q with
  | define lines =>
    rw [answer] at h
    split at h
    · exact isFatal_of_invoke I h
    · rw [← Except.error.inj h]
      rfl
  | function name =>
    simp only [answer] at h
    rcases hask : (ask (I.source name) s).1 with f | source <;> rw [hask] at h
    · obtain rfl := Except.error.inj h
      exact isFatal_of_ask hask
    · exact isFatal_of_sourceBody h
  | functionList =>
    simp only [answer] at h
    rcases hask : (ask I.names s).1 with f | names <;> rw [hask] at h
    · obtain rfl := Except.error.inj h
      exact isFatal_of_ask hask
    · simp [Except.map] at h

end Interpreter

namespace Sink

variable {k k' : Sink} {e : RequestError}

theorem isFatal_of_write {data : Bytes} (h : k.write data = (.error e, k')) :
    e.isFatal = true := by
  unfold write at h
  split at h
  · simp at h
  · obtain ⟨herror, -⟩ := Prod.mk.inj h
    split at herror
    · rw [← Except.error.inj herror]
      rfl
    · simp at herror

theorem isFatal_of_flush (h : k.flush = (.error e, k')) : e.isFatal = true := by
  unfold flush at h
  split at h
  · rw [← Except.error.inj (Prod.mk.inj h).1]
    rfl
  all_goals simp at h

theorem isFatal_of_send {data : Bytes} (h : k.send data = (.error e, k')) : e.isFatal = true := by
  rw [send] at h
  split at h <;> rename_i hwrite
  · exact isFatal_of_flush h
  · obtain rfl := Except.error.inj (Prod.mk.inj h).1
    exact isFatal_of_write hwrite

/-- A response that cannot be sent closes the connection. -/
theorem isFatal_of_respond {body : Text} (h : k.respond p body = (.error e, k')) :
    e.isFatal = true := by
  rw [respond] at h
  split at h
  · exact isFatal_of_send h
  · obtain rfl := Except.error.inj (Prod.mk.inj h).1
    exact isFatal_of_send (by assumption)

end Sink

/-! ## Rounds -/

variable {σ : Type} {I : Interpreter σ}

namespace Serving

/-- A query is answered and the answer is sent. -/
theorem perform_eq (q : Query) (s : Session σ) : ∃ log,
    perform I p q s =
      match I.reply (.ok q) s.state with
      | (.error e, u) => (.error e, ⟨s.source, s.sink, u, log⟩)
      | (.ok body, u) =>
        ((s.sink.respond p body).1, ⟨s.source, (s.sink.respond p body).2, u, log⟩) := by
  refine ⟨s.log ++ (I.answer q s.state).log, ?_⟩
  rw [perform, bind_apply, Interpreter.reply]
  rcases hbody : (I.answer q s.state).body with e | body <;>
    simp only [answering, writing, hbody]

/-- A command line is read and answered where the log has said what it asks for. -/
theorem route_eq (line : CommandLine) (s : Session σ) : ∃ log,
    route I p line s =
      match Query.ofLine p line s.source with
      | (.ok (some q), src) => (do perform I p q; return Flow.continues) ⟨src, s.sink, s.state, log⟩
      | (.ok none, src) => (.ok .closes, ⟨src, s.sink, s.state, log⟩)
      | (.error e, src) => (.error e, ⟨src, s.sink, s.state, log⟩) := by
  obtain ⟨log, hlog⟩ : ∃ log, announce line s = (.ok (), ⟨s.source, s.sink, s.state, log⟩) := by
    rw [announce]
    split
    · exact ⟨_, rfl⟩
    · exact ⟨s.log, rfl⟩
  refine ⟨log, ?_⟩
  rw [route, bind_apply, hlog]
  simp only
  rw [bind_apply]
  simp only [reading]
  rcases Query.ofLine p line s.source with ⟨_ | _ | q, src⟩ <;> rfl

theorem step_eq (s : Session σ) :
    step I p s =
      match s.source.nextCommand p with
      | (.ok (some line), src) => route I p line { s with source := src }
      | (.ok none, src) => (.ok .closes, { s with source := src })
      | (.error e, src) => (.error e, { s with source := src }) := by
  rw [step, bind_apply]
  simp only [reading]
  rcases s.source.nextCommand p with ⟨_ | _ | line, src⟩ <;> rfl

end Serving

namespace Session

/-- What a round comes to once the incoming stream has been read. -/
def conclude (I : Interpreter σ) (p : Protocol) (log : List Log.Record) :
    Except Ending Demand × Source → Sink → σ → Flow × Session σ
  | (.error _, src), k, u => (.closes, ⟨src, k, u, log⟩)
  | (.ok d, src), k, u =>
    match I.reply d u with
    | (.error _, u) => (.closes, ⟨src, k, u, log⟩)
    | (.ok body, u) =>
      match k.respond p body with
      | (.ok (), k) => (.continues, ⟨src, k, u, log⟩)
      | (.error _, k) => (.closes, ⟨src, k, u, log⟩)

variable {s t : Session σ}

theorem round_of_closes (h : Serving.step I p s = (.ok .closes, t)) :
    s.round I p = (.closes, t.note Remark.closed) := by
  rw [round, h]

theorem round_of_continues (h : Serving.step I p s = (.ok .continues, t)) :
    s.round I p = (.continues, t) := by
  rw [round, h]

/-- An error of a step is either what ends the conversation or a demand. -/
theorem round_of_error {e : RequestError} (h : Serving.step I p s = (.error e, t)) :
    ∃ log, s.round I p = conclude I p log (e.verdict, t.source) t.sink t.state := by
  rw [round, h]
  cases he : e.isFatal with
  | true =>
    rw [RequestError.verdict_of_fatal he]
    exact ⟨_, if_pos he⟩
  | false =>
    rw [RequestError.verdict_of_not_fatal he]
    simp only [he, conclude, Interpreter.reply, Bool.false_eq_true, if_false]
    rcases t.sink.respond p (Sink.errorBody e) with ⟨_ | _, k⟩ <;> exact ⟨_, rfl⟩

/-- A query is answered, unless the interpreter fails or the answer cannot be sent. -/
theorem round_of_query {q : Query} {src : Source} {k : Sink} {u : σ} {log : List Log.Record}
    (h : Serving.step I p s = (do Serving.perform I p q; return Flow.continues) ⟨src, k, u, log⟩) :
    ∃ log, s.round I p = conclude I p log (.ok (.ok q), src) k u := by
  obtain ⟨log', hperform⟩ := Serving.perform_eq (I := I) (p := p) q ⟨src, k, u, log⟩
  rw [Serving.bind_apply, hperform] at h
  rcases hreply : I.reply (.ok q) u with ⟨e | body, v⟩ <;>
    simp only [hreply, conclude, Serving.pure_apply] at h ⊢
  · obtain ⟨log, hround⟩ := round_of_error h
    rw [RequestError.verdict_of_fatal (I.isFatal_of_answer (congrArg Prod.fst hreply))] at hround
    exact ⟨log, hround⟩
  rcases hrespond : k.respond p body with ⟨e | _, k'⟩ <;> simp only [hrespond] at h ⊢
  · obtain ⟨log, hround⟩ := round_of_error h
    rw [RequestError.verdict_of_fatal (Sink.isFatal_of_respond hrespond)] at hround
    exact ⟨log, hround⟩
  · exact ⟨_, round_of_continues h⟩

/-- **One round.** The incoming stream gives the next demand, the interpreter answers it, and the
outgoing stream takes the response. -/
theorem round_eq (I : Interpreter σ) (p : Protocol) (s : Session σ) :
    ∃ log, s.round I p = conclude I p log (s.source.nextDemand p) s.sink s.state := by
  have hstep := Serving.step_eq (I := I) (p := p) s
  rw [Source.nextDemand]
  rcases hc : s.source.nextCommand p with ⟨e | _ | line, src⟩ <;> simp only [hc] at hstep ⊢
  · exact round_of_error hstep
  · exact ⟨_, round_of_closes hstep⟩
  obtain ⟨log, hroute⟩ := Serving.route_eq (I := I) (p := p) line { s with source := src }
  rw [hroute] at hstep
  rcases hq : Query.ofLine p line src with ⟨e | _ | q, src'⟩ <;> simp only [hq] at hstep ⊢
  · exact round_of_error hstep
  · exact ⟨_, round_of_closes hstep⟩
  · exact round_of_query hstep

/-- After a round that was not the last, its demand is answered and the response is sent. -/
theorem exists_of_continues (h : s.round I p = (.continues, t)) :
    ∃ d body, s.source.nextDemand p = (.ok d, t.source) ∧ I.reply d s.state = (.ok body, t.state) ∧
      s.sink.respond p body = (.ok (), t.sink) := by
  obtain ⟨log, hround⟩ := round_eq I p s
  rw [h] at hround
  rcases hnext : s.source.nextDemand p with ⟨e | d, src⟩ <;> rw [hnext, conclude] at hround
  · simp at hround
  rcases hreply : I.reply d s.state with ⟨e | body, u⟩ <;> simp only [hreply] at hround
  · simp at hround
  rcases hrespond : s.sink.respond p body with ⟨e | _, k⟩ <;> simp only [hrespond] at hround
  · simp at hround
  obtain rfl := (Prod.mk.inj hround).2
  exact ⟨d, body, rfl, hreply, hrespond⟩

/-! ## Serving -/

theorem serve_of_closes (h : s.round I p = (.closes, t)) : s.serve I p = t := by
  rw [serve]
  split <;> rename_i hr <;> rw [h] at hr
  · simp at hr
  · exact (Prod.mk.inj hr).2.symm

theorem serve_of_continues (h : s.round I p = (.continues, t)) : s.serve I p = t.serve I p := by
  rw [serve]
  split <;> rename_i hr <;> rw [h] at hr
  · rw [(Prod.mk.inj hr).2]
  · simp at hr

end Session

/-- Answers demands and sends the responses, until the interpreter fails or a response cannot be
sent. -/
def Interpreter.converse (I : Interpreter σ) (p : Protocol) : List Demand → Sink → σ → Sink × σ
  | [], k, u => (k, u)
  | d :: ds, k, u =>
    match I.reply d u with
    | (.error _, u) => (k, u)
    | (.ok body, u) =>
      match k.respond p body with
      | (.ok (), k) => converse I p ds k u
      | (.error _, k) => (k, u)

/-- **Serving is answering what can be read.** Whatever the streams do, what serving writes and what
it leaves are those of the demands that can be read, answered one after the other. -/
theorem Session.serve_eq_converse (I : Interpreter σ) (p : Protocol) (s : Session σ) :
    ((s.serve I p).sink, (s.serve I p).state) =
      I.converse p (s.source.conversation p).demands s.sink s.state := by
  generalize hsrc : s.source = src
  fun_induction Source.conversation p src generalizing s with
  | case1 src d src' hnext ih =>
    obtain ⟨log, hround⟩ := round_eq I p s
    rw [hsrc, hnext] at hround
    rw [Interpreter.converse]
    rcases hreply : I.reply d s.state with ⟨e | body, u⟩ <;>
      simp only [conclude, hreply] at hround ⊢
    · rw [serve_of_closes hround]
    rcases hrespond : s.sink.respond p body with ⟨e | _, k⟩ <;>
      simp only [hrespond] at hround ⊢
    · rw [serve_of_closes hround]
    · rw [serve_of_continues hround]
      exact ih _ rfl
  | case2 src e src' hnext =>
    obtain ⟨log, hround⟩ := round_eq I p s
    rw [hsrc, hnext] at hround
    rw [serve_of_closes hround]
    rfl

end DefinitionServer
