import DefinitionServer.Proofs.Round

/-!
# Serving a connection

On a connection that does not break down, serving is meeting the demands of the conversation that
the client's lines make. Every demand met adds one frame to what is written, and nothing else does.

## Main definitions

* `Sink.frame`: the bytes of one response.
* `Session.Sound`: neither direction of the connection breaks down.
* `Session.Closes`, `Session.Continues`: what a round comes to.
* `Session.fresh`: the session of a new connection.
-/
namespace DefinitionServer

namespace Sink

/-- The bytes of a response: its body, and the end tag on a line of its own. -/
def frame (p : Protocol) (body : Text) : Bytes :=
  Text.Utf8.encode body ++ Bytes.lf :: (Text.Utf8.encode p.endTag ++ [Bytes.lf])

theorem frame_eq (p : Protocol) (body : Text) :
    frame p body = Text.Utf8.encode body ++ Text.Utf8.encode (marker p) := by
  rw [frame, marker, Text.Utf8.encode_cons, Text.Utf8.encode_append]
  rfl

/-- The stream never breaks down. -/
structure Sound (k : Sink) : Prop where
  write : k.writeBreakdown = none
  flush : k.flushBreakdown = none

theorem send_of_sound {k : Sink} (h : k.Sound) (data : Bytes) :
    ∃ k', k.send data = (.ok (), k') ∧ k'.Sound ∧ k'.accepted = k.accepted ++ data := by
  refine ⟨{ k with sent := k.sent ++ [k.unflushed ++ data], unflushed := [],
                   attempts := k.attempts ++ [data] }, ?_, ⟨h.write, h.flush⟩, ?_⟩
  · simp only [send, Sink.write, h.write, Sink.flush, h.flush]
  · simp [accepted]

/-- A response that is written without a breakdown is one frame. -/
theorem respond_of_sound {k : Sink} (h : k.Sound) (p : Protocol) (body : Text) :
    ∃ k', k.respond p body = (.ok (), k') ∧ k'.Sound ∧
      k'.accepted = k.accepted ++ frame p body := by
  obtain ⟨k₁, h₁, hs₁, ha₁⟩ := send_of_sound h (Text.Utf8.encode body)
  obtain ⟨k₂, h₂, hs₂, ha₂⟩ := send_of_sound hs₁ (Text.Utf8.encode (marker p))
  refine ⟨k₂, by rw [respond, h₁]; exact h₂, hs₂, ?_⟩
  rw [ha₂, ha₁, frame_eq, List.append_assoc]

end Sink

variable {σ : Type} {I : Interpreter σ} {p : Protocol}

/-- Where nothing breaks down, every demand that the interpreter meets is answered with one
frame. -/
theorem Interpreter.converse_of_sound {ds : List Demand} {k : Sink} {u : σ} (hk : k.Sound)
    (hds : ∀ q, .ok q ∈ ds → Fits q) :
    (I.converse p ds k u).1.accepted =
        k.accepted ++ (I.run ds u).bodies.flatMap (Sink.frame p) ∧
      (I.converse p ds k u).2 = (I.run ds u).state := by
  induction ds generalizing k u with
  | nil => simp [converse, run]
  | cons d ds ih =>
    have hreply := I.reply_eq_meet (d := d) (fun q hq => hds q (hq ▸ List.mem_cons_self)) u
    rw [converse, run, hreply]
    rcases I.meet d u with ⟨f | body, v⟩ <;> simp only [Except.mapError]
    · simp
    obtain ⟨k', hk', hsound, haccepted⟩ := Sink.respond_of_sound hk p body
    obtain ⟨hrest, hstate⟩ := ih (u := v) hsound fun q hq => hds q (List.mem_cons_of_mem d hq)
    simp only [hk']
    refine ⟨?_, hstate⟩
    rw [hrest, haccepted, List.flatMap_cons, List.append_assoc]

namespace Session

variable {s : Session σ} {l : Bytes} {ls after : List Bytes} {d : Demand}

/-- Neither direction of the connection breaks down. -/
structure Sound (s : Session σ) : Prop where
  source : s.source.breakdown = none
  sink : s.sink.Sound

/-- The round was the last, left the interpreter in the given state and wrote nothing. -/
def Closes (I : Interpreter σ) (p : Protocol) (s : Session σ) (u : σ) : Prop :=
  ∃ t, s.round I p = (.closes, t) ∧ t.sink = s.sink ∧ t.state = u

/-- The round wrote one frame with the given body, left the interpreter in the given state, and the
given lines are next. -/
def Continues (I : Interpreter σ) (p : Protocol) (s : Session σ) (after : List Bytes) (body : Text)
    (u : σ) : Prop :=
  ∃ t, s.round I p = (.continues, t) ∧ t.Sound ∧ t.source.lines = after ∧
    t.sink.accepted = s.sink.accepted ++ Sink.frame p body ∧ t.state = u

/-- A round in which nothing is left to answer is the last. -/
theorem closes_of_nextDemand {e : Ending} (h : (s.source.nextDemand p).1 = .error e) :
    Closes I p s s.state := by
  obtain ⟨log, hround⟩ := round_eq I p s
  rw [← Prod.eta (s.source.nextDemand p), h] at hround
  exact ⟨_, hround, rfl, rfl⟩

/-- A round whose demand is met writes one frame. -/
theorem continues_of_nextDemand {src : Source} (hp : p.maxBlockBytes ≤ Shape.maxVolume)
    (hs : s.Sound) (h : s.source.nextDemand p = (.ok d, src)) {body : Text} {u : σ}
    (hm : I.meet d s.state = (.ok body, u)) :
    ∃ t, s.round I p = (.continues, t) ∧ t.Sound ∧ t.source = src ∧
      t.sink.accepted = s.sink.accepted ++ Sink.frame p body ∧ t.state = u := by
  obtain ⟨log, hround⟩ := round_eq I p s
  obtain ⟨k, hk, hsound, haccepted⟩ := Sink.respond_of_sound hs.sink p body
  have hreply := I.reply_of_nextDemand hp h s.state
  rw [hm] at hreply
  simp only [h, conclude, hreply, Except.mapError, hk] at hround
  exact ⟨_, hround, ⟨Source.breakdown_of_nextDemand hs.source h, hsound⟩, rfl, haccepted, rfl⟩

/-! ### The first line that is not blank -/

section CommandLine

variable {blanks : List Bytes} (hp : p.maxBlockBytes ≤ Shape.maxVolume) (hs : s.Sound)
  (hblanks : ∀ b ∈ blanks, p.PassesOver b) (h : s.source.lines = blanks ++ l :: ls)

include hs hblanks h

theorem closes_of_exceeds (hexceeds : p.maxBlockBytes < l.length) : Closes I p s s.state := by
  obtain ⟨src, hnext, hlines, hsrc⟩ := Source.nextDemand_of_blanks hs.source hblanks h
  have hending := Source.nextDemand_of_exceeds hsrc hlines hexceeds
  rw [← hnext] at hending
  exact closes_of_nextDemand hending

variable (hfit : l.length ≤ p.maxBlockBytes) (hl : (Bytes.content l).all Source.isSpace = false)

include hfit hl

theorem closes_of_ending {e : Ending} (he : Demand.ofLine p (Bytes.content l) ls = .error e) :
    Closes I p s s.state := by
  obtain ⟨src, hnext, hlines, hsrc⟩ := Source.nextDemand_of_blanks hs.source hblanks h
  have hending := (Source.nextDemand_of_line hsrc hlines hfit hl).1
  rw [he, ← hnext] at hending
  exact closes_of_nextDemand hending

/-- The demand of a line that is not blank is the next. -/
theorem nextDemand_of_demand (hd : Demand.ofLine p (Bytes.content l) ls = .ok (d, after)) :
    ∃ src, s.source.nextDemand p = (.ok d, src) ∧ src.lines = after := by
  obtain ⟨src, hnext, hlines, hsrc⟩ := Source.nextDemand_of_blanks hs.source hblanks h
  obtain ⟨hdemand, hafter⟩ := Source.nextDemand_of_line (p := p) hsrc hlines hfit hl
  rw [hd] at hdemand
  exact ⟨_, hnext.trans (Prod.ext hdemand rfl), (hafter d after hd).1⟩

include hp

theorem closes_of_fault
    (hd : Demand.ofLine p (Bytes.content l) ls = .ok (d, after)) {f : Fault} {u : σ}
    (hm : I.meet d s.state = (.error f, u)) : Closes I p s u := by
  obtain ⟨src, hnext, -⟩ := nextDemand_of_demand hs hblanks h hfit hl hd
  obtain ⟨log, hround⟩ := round_eq I p s
  have hreply := I.reply_of_nextDemand hp hnext s.state
  rw [hm] at hreply
  simp only [hnext, conclude, hreply, Except.mapError] at hround
  exact ⟨_, hround, rfl, rfl⟩

theorem continues_of_met
    (hd : Demand.ofLine p (Bytes.content l) ls = .ok (d, after)) {body : Text} {u : σ}
    (hm : I.meet d s.state = (.ok body, u)) : Continues I p s after body u := by
  obtain ⟨src, hnext, hlines⟩ := nextDemand_of_demand hs hblanks h hfit hl hd
  obtain ⟨t, ht, hsound, rfl, hwritten⟩ := continues_of_nextDemand hp hs hnext hm
  exact ⟨t, ht, hsound, hlines, hwritten⟩

end CommandLine

/-! ## Serving -/

/-- **Serving is meeting demands.** On a sound connection, what is served is the run of the demands
that the unread lines make, one frame for each body. -/
theorem serve_of_sound (hp : p.maxBlockBytes ≤ Shape.maxVolume) (hs : s.Sound) :
    (s.serve I p).sink.accepted = s.sink.accepted ++
        (I.run (Conversation.ofLines p s.source.lines).demands s.state).bodies.flatMap
          (Sink.frame p) ∧
      (s.serve I p).state =
        (I.run (Conversation.ofLines p s.source.lines).demands s.state).state := by
  have hfits : ∀ q, .ok q ∈ (s.source.conversation p).demands → Interpreter.Fits q :=
    fun q hq => Interpreter.fits_of_mem_conversation hp hq
  have hconverse := Interpreter.converse_of_sound (I := I) (p := p) (u := s.state) hs.sink hfits
  rw [← serve_eq_converse, Source.conversation_of_sound hs.source] at hconverse
  exact hconverse

/-! ## The points of a connection -/

/-- From the first session, rounds lead to the second, where serving goes on. -/
inductive Reaches (I : Interpreter σ) (p : Protocol) (s : Session σ) : Session σ → Prop
  | start : Reaches I p s s
  | round {t u : Session σ} (h : Reaches I p s t) (ht : t.round I p = (.continues, u)) :
    Reaches I p s u

theorem serve_of_reaches {t : Session σ} (h : Reaches I p s t) : s.serve I p = t.serve I p := by
  induction h with
  | start => rfl
  | round _ ht ih => rw [ih, serve_of_continues ht]

theorem not_closes_of_round {t : Session σ} (h : s.round I p = (.continues, t)) {u : σ} :
    ¬ Closes I p s u := by
  rintro ⟨t', ht', -⟩
  simp [h] at ht'

theorem sound_of_round {t : Session σ} (hs : s.Sound) (h : s.round I p = (.continues, t)) :
    t.Sound := by
  obtain ⟨d, body, hnext, -, hrespond⟩ := exists_of_continues h
  obtain ⟨k, hk, hsound, -⟩ := Sink.respond_of_sound hs.sink p body
  rw [hrespond] at hk
  exact ⟨Source.breakdown_of_nextDemand hs.source hnext, (Prod.mk.inj hk).2 ▸ hsound⟩

theorem sound_of_reaches {t : Session σ} (hs : s.Sound) (h : Reaches I p s t) : t.Sound := by
  induction h with
  | start => exact hs
  | round _ ht ih => exact sound_of_round ih ht

/-- The session of a connection on which a client sends the given bytes and which does not break
down. -/
def fresh (input : Bytes) (s : σ) : Session σ where
  source := { unread := input }
  state := s

theorem sound_fresh (input : Bytes) (s : σ) : (fresh input s).Sound := ⟨rfl, rfl, rfl⟩

/-- The demands that a client makes with the bytes it sends. -/
def asked (p : Protocol) (input : Bytes) : List Demand :=
  (Conversation.ofLines p (Lines.raw Bytes.lf input)).demands

/-- They are what can be read off the stream of these bytes. -/
theorem asked_eq (p : Protocol) (input : Bytes) :
    asked p input = (Source.conversation p { unread := input }).demands := by
  rw [Source.conversation_of_sound rfl]
  rfl

theorem fits_of_mem_asked (hp : p.maxBlockBytes ≤ Shape.maxVolume) {input : Bytes} {q : Query}
    (h : .ok q ∈ asked p input) : Interpreter.Fits q := by
  rw [asked_eq] at h
  exact Interpreter.fits_of_mem_conversation hp h

theorem accepted_serve_fresh (hp : p.maxBlockBytes ≤ Shape.maxVolume) (input : Bytes) (s : σ) :
    ((fresh input s).serve I p).sink.accepted =
      (I.run (asked p input) s).bodies.flatMap (Sink.frame p) :=
  (serve_of_sound hp (sound_fresh input s)).1

theorem state_serve_fresh (hp : p.maxBlockBytes ≤ Shape.maxVolume) (input : Bytes) (s : σ) :
    ((fresh input s).serve I p).state = (I.run (asked p input) s).state :=
  (serve_of_sound hp (sound_fresh input s)).2

/-- **A connection is served as its lines ask.** The bytes written are the frames of the bodies that
meet the demands of the lines, in order, and no others. The interpreter is left where these demands
lead it, and the calls it has heard are theirs. -/
theorem serve_fresh (I : Interpreter σ) (hp : p.maxBlockBytes ≤ Shape.maxVolume) (input : Bytes)
    (s : σ) :
    let asked := Conversation.ofLines p (Lines.raw Bytes.lf input)
    let run := I.run asked.demands s
    ((fresh input s).serve I p).sink.accepted = run.bodies.flatMap (Sink.frame p) ∧
      ((fresh input s).serve I p).state = run.state ∧
      ((fresh input (s, [])).serve I.recorded p).state = (run.state, run.calls) := by
  intro asked run
  obtain ⟨hwritten, hstate⟩ := serve_of_sound (I := I) hp (sound_fresh input s)
  obtain ⟨-, hrecorded⟩ := serve_of_sound (I := I.recorded) hp (sound_fresh input (s, []))
  refine ⟨hwritten, hstate, ?_⟩
  rw [hrecorded]
  exact congrArg Interpreter.Run.state (I.run_recorded asked.demands s [])

/-- A definition, a request that makes no sense and one for the source are answered. What comes
after the request to close is not. -/
theorem serve_fresh_workspace :
    let p : Protocol := ⟨"END".toList, 64⟩
    let input := Text.Utf8.encode "def\nZ←F X\nEND\n\nbogus\nFN:F\nquit\nfnlist\n".toList
    p.maxBlockBytes ≤ Shape.maxVolume ∧
      ((fresh input Workspace.empty).serve Workspace.interpreter p).sink.accepted =
        Text.Utf8.encode "F\nEND\nerror: unknown command 'bogus'\nEND\nZ←F X\nEND\n".toList ∧
      ((fresh input (Workspace.empty, [])).serve Workspace.interpreter.recorded p).state.2 =
        [.define (.ofRows ["Z←F X".toList]), .source "F".toList] := by
  intro p input
  have hp : p.maxBlockBytes ≤ Shape.maxVolume := by decide
  obtain ⟨hwritten, -, hcalls⟩ := serve_fresh Workspace.interpreter hp input Workspace.empty
  refine ⟨hp, hwritten.trans ?_, (congrArg Prod.snd hcalls).trans ?_⟩
  · decide +kernel
  · decide +kernel

end Session
end DefinitionServer
