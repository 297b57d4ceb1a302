import DefinitionServer.Proofs.Heard
import DefinitionServer.Proofs.Pipelining

/-!
# Connections that break down

Reading may fail at some point of the incoming stream, and writing or flushing at some point of the
outgoing one. Either only cuts short what happens without it. What is written is the beginning of
what is written otherwise, nothing is tried after a write that failed, and the interpreter is left
where the requests up to the last one answered in part lead it.

## Main definitions

* `Sink.sendAll`: a list of writes, up to the first that fails.
* `Session.Faults`, `Session.failing`: where a connection breaks down, and its session.
-/
namespace DefinitionServer

namespace Sink

/-- Sends pieces one after the other. The first failure is the end of it. -/
def sendAll : List Bytes → Sink → Except RequestError Unit × Sink
  | [], k => (.ok (), k)
  | data :: rest, k =>
    match k.send data with
    | (.ok (), k) => sendAll rest k
    | (.error e, k) => (.error e, k)

/-- The pieces in which a response is sent. -/
def pieces (p : Protocol) (body : Text) : List Bytes :=
  [Text.Utf8.encode body, Text.Utf8.encode (marker p)]

theorem flatten_pieces (p : Protocol) (body : Text) : (pieces p body).flatten = frame p body := by
  rw [frame_eq, pieces]
  simp

theorem flatten_flatMap_pieces (p : Protocol) (bodies : List Text) :
    (bodies.flatMap (pieces p)).flatten = bodies.flatMap (frame p) := by
  induction bodies with
  | nil => rfl
  | cons body bodies ih =>
    rw [List.flatMap_cons, List.flatMap_cons, List.flatten_append, flatten_pieces, ih]

variable {k k' : Sink} {data : Bytes} {e : RequestError}

theorem sendAll_of_ok (h : k.send data = (.ok (), k')) (rest : List Bytes) :
    k.sendAll (data :: rest) = k'.sendAll rest := by
  rw [sendAll, h]

theorem sendAll_of_error (h : k.send data = (.error e, k')) (rest : List Bytes) :
    k.sendAll (data :: rest) = (.error e, k') := by
  rw [sendAll, h]

theorem sendAll_append (k : Sink) (ds es : List Bytes) :
    k.sendAll (ds ++ es) =
      match k.sendAll ds with
      | (.ok (), k) => k.sendAll es
      | (.error e, k) => (.error e, k) := by
  induction ds generalizing k with
  | nil => rfl
  | cons data ds ih =>
    rw [List.cons_append]
    rcases h : k.send data with ⟨e | _, k'⟩
    · rw [sendAll_of_error h, sendAll_of_error h]
    · rw [sendAll_of_ok h, sendAll_of_ok h, ih]

/-- A response is its two pieces. -/
theorem respond_eq_sendAll (p : Protocol) (body : Text) (k : Sink) :
    k.respond p body = k.sendAll (pieces p body) := by
  rw [respond, pieces, sendAll]
  rcases k.send (Text.Utf8.encode body) with ⟨e | _, k'⟩
  · rfl
  · simp only [sendAll]
    rcases k'.send (Text.Utf8.encode (marker p)) with ⟨e | _, k''⟩ <;> rfl

/-! ## One write -/

theorem write_of_ok (h : k.write data = (.ok (), k')) :
    k'.sent = k.sent ∧ k'.attempts = k.attempts ++ [data] ∧
      k'.unflushed = k.unflushed ++ data := by
  unfold write at h
  split at h
  · rw [← (Prod.mk.inj h).2]
    exact ⟨rfl, rfl, rfl⟩
  · obtain ⟨hok, rfl⟩ := Prod.mk.inj h
    split at hok
    · simp at hok
    · exact ⟨rfl, rfl, by rw [List.take_of_length_le (by omega)]⟩

theorem write_of_error (h : k.write data = (.error e, k')) :
    k'.sent = k.sent ∧ k'.attempts = k.attempts ++ [data] ∧
      ∃ n, k'.unflushed = k.unflushed ++ data.take n := by
  unfold write at h
  split at h
  · simp at h
  · rw [← (Prod.mk.inj h).2]
    exact ⟨rfl, rfl, _, rfl⟩

theorem flush_of_ok (h : k.flush = (.ok (), k')) :
    k'.sent = k.sent ++ [k.unflushed] ∧ k'.attempts = k.attempts ∧ k'.unflushed = [] := by
  unfold flush at h
  split at h
  · simp at h
  all_goals
    rw [← (Prod.mk.inj h).2]
    exact ⟨rfl, rfl, rfl⟩

theorem flush_of_error (h : k.flush = (.error e, k')) : k' = k := by
  unfold flush at h
  split at h
  · exact (Prod.mk.inj h).2.symm
  all_goals simp at h

theorem send_of_ok (h : k.send data = (.ok (), k')) :
    k'.sent = k.sent ++ [k.unflushed ++ data] ∧ k'.attempts = k.attempts ++ [data] ∧
      k'.unflushed = [] := by
  rw [send] at h
  split at h <;> rename_i hwrite
  · obtain ⟨hsent, hattempts, hunflushed⟩ := write_of_ok hwrite
    obtain ⟨hsent', hattempts', hempty⟩ := flush_of_ok h
    rw [hsent', hattempts', hsent, hattempts, hunflushed]
    exact ⟨rfl, rfl, hempty⟩
  · simp at h

/-- A piece that cannot be sent may have been handed over in part, or whole but not flushed. -/
theorem send_of_error (hk : k.unflushed = []) (h : k.send data = (.error e, k')) :
    k'.sent = k.sent ∧ k'.attempts = k.attempts ++ [data] ∧ k'.unflushed <+: data := by
  rw [send] at h
  split at h <;> rename_i hwrite
  · obtain rfl := flush_of_error h
    obtain ⟨hsent, hattempts, hunflushed⟩ := write_of_ok hwrite
    rw [hunflushed, hk]
    exact ⟨hsent, hattempts, List.prefix_rfl⟩
  · obtain ⟨-, rfl⟩ := Prod.mk.inj h
    obtain ⟨hsent, hattempts, n, hunflushed⟩ := write_of_error hwrite
    rw [hunflushed, hk]
    exact ⟨hsent, hattempts, List.take_prefix n data⟩

/-! ## Many writes -/

/-- What a run of writes leaves: the first `n` pieces are sent, and at most the one after them was
also tried, and is handed over in part. -/
structure Cut (k k' : Sink) (ds : List Bytes) (n : Nat) : Prop where
  sent : k'.sent = k.sent ++ ds.take n
  attempts : k'.attempts = k.attempts ++ ds.take (n + 1)
  unflushed : k'.unflushed <+: (ds.drop n).flatten

theorem sendAll_cut (hk : k.unflushed = []) (ds : List Bytes) :
    ∃ n, Cut k (k.sendAll ds).2 ds n ∧ ((k.sendAll ds).1 = .ok () → n = ds.length) := by
  induction ds generalizing k with
  | nil => exact ⟨0, ⟨by simp [sendAll], by simp [sendAll], by simp [sendAll, hk]⟩, fun _ => rfl⟩
  | cons data ds ih =>
    rcases h : k.send data with ⟨e | _, k'⟩
    · obtain ⟨hsent, hattempts, hunflushed⟩ := send_of_error hk h
      rw [sendAll_of_error h]
      refine ⟨0, ⟨by simpa using hsent, by simpa using hattempts, ?_⟩, by simp⟩
      exact hunflushed.trans (List.prefix_append _ _)
    · obtain ⟨hsent, hattempts, hunflushed⟩ := send_of_ok h
      rw [hk, List.nil_append] at hsent
      obtain ⟨n, hcut, hall⟩ := ih hunflushed
      rw [sendAll_of_ok h]
      refine ⟨n + 1, ⟨?_, ?_, hcut.unflushed⟩, fun hok => congrArg (· + 1) (hall hok)⟩
      · rw [hcut.sent, hsent, List.append_assoc]
        rfl
      · rw [hcut.attempts, hattempts, List.append_assoc]
        rfl

theorem Cut.accepted {ds : List Bytes} {n : Nat} (h : Cut k k' ds n) (hk : k.unflushed = []) :
    k'.accepted <+: k.accepted ++ ds.flatten ∧
      k.accepted ++ (ds.take n).flatten <+: k'.accepted := by
  have hds : ds.flatten = (ds.take n).flatten ++ (ds.drop n).flatten := by
    rw [← List.flatten_append, List.take_append_drop]
  have hk' : k'.accepted = k.accepted ++ (ds.take n).flatten ++ k'.unflushed := by
    rw [Sink.accepted, Sink.accepted, h.sent, hk, List.flatten_append, List.append_nil]
  rw [hk', hds, ← List.append_assoc]
  exact ⟨(List.prefix_append_right_inj _).2 h.unflushed, List.prefix_append _ _⟩

/-- What was sent without a failure stays, whatever is sent after it. -/
theorem accepted_sendAll_append {ds : List Bytes} (hk : k.unflushed = [])
    (h : (k.sendAll ds).1 = .ok ()) (es : List Bytes) :
    k.accepted ++ ds.flatten <+: (k.sendAll (ds ++ es)).2.accepted := by
  obtain ⟨n, hcut, hall⟩ := sendAll_cut hk ds
  have hn := hall h
  have hempty : (k.sendAll ds).2.unflushed = [] := by
    have hunflushed := hcut.unflushed
    rw [hn, List.drop_length] at hunflushed
    exact List.prefix_nil.1 hunflushed
  obtain ⟨m, hcut', -⟩ := sendAll_cut hempty es
  have hsent : k.accepted ++ ds.flatten <+: (k.sendAll ds).2.accepted := by
    have htaken := (hcut.accepted hk).2
    rwa [hn, List.take_length] at htaken
  rw [sendAll_append, ← Prod.eta (k.sendAll ds), h]
  exact hsent.trans ((List.prefix_append _ _).trans (hcut'.accepted hempty).2)

/-- Where nothing breaks down, all is sent. -/
theorem sendAll_of_sound (hk : k.Sound) (ds : List Bytes) : (k.sendAll ds).1 = .ok () := by
  induction ds generalizing k with
  | nil => rfl
  | cons data ds ih =>
    obtain ⟨k', hsend, hsound, -⟩ := send_of_sound hk data
    rw [sendAll_of_ok hsend]
    exact ih hsound

/-- Where only writing breaks down, the bytes up to that point are accepted. -/
theorem accepted_sendAll_of_write {b : Breakdown} (hk : k.unflushed = [])
    (hflush : k.flushBreakdown = none) (hwrite : k.writeBreakdown = some b) (ds : List Bytes) :
    (k.sendAll ds).2.accepted = k.accepted ++ ds.flatten.take b.after := by
  induction ds generalizing k b with
  | nil => simp [sendAll]
  | cons data ds ih =>
    rw [List.flatten_cons, List.take_append]
    by_cases hshort : b.after < data.length
    · have hsend : k.send data = (.error (.transport b.reason),
          { k with attempts := k.attempts ++ [data], unflushed := k.unflushed ++ data.take b.after,
                   writeBreakdown := some { b with after := b.after - data.length } }) := by
        simp only [send, write, hwrite, if_pos hshort]
      have hnone : b.after - data.length = 0 := by omega
      rw [sendAll_of_error hsend, hnone, List.take_zero, List.append_nil]
      simp [Sink.accepted]
    · obtain ⟨k₁, hsend, hk₁, hflush₁, hwrite₁, haccepted⟩ : ∃ k₁, k.send data = (.ok (), k₁) ∧
          k₁.unflushed = [] ∧ k₁.flushBreakdown = none ∧
          k₁.writeBreakdown = some { b with after := b.after - data.length } ∧
          k₁.accepted = k.accepted ++ data.take b.after := by
        simp only [send, write, hwrite, if_neg hshort, flush, hflush]
        exact ⟨_, rfl, rfl, rfl, rfl, by simp [Sink.accepted]⟩
      rw [sendAll_of_ok hsend, ih hk₁ hflush₁ hwrite₁, haccepted, List.append_assoc]

end Sink

/-! ## Answering on a stream that breaks down -/

namespace Interpreter

variable {σ : Type} {I : Interpreter σ} {p : Protocol}

/-- The demands met at the beginning of a run are answered as in the whole run, and make the same
calls. -/
theorem run_isPrefix {ds es : List Demand} (h : ds <+: es) (s : σ) :
    (I.run ds s).bodies <+: (I.run es s).bodies ∧ (I.run ds s).calls <+: (I.run es s).calls := by
  induction ds generalizing es s with
  | nil => exact ⟨List.nil_prefix, List.nil_prefix⟩
  | cons d ds ih =>
    obtain ⟨rest, rfl⟩ := h
    rw [List.cons_append]
    rcases hm : I.meet d s with ⟨f | body, t⟩
    · rw [run_of_fault hm, run_of_fault hm]
      exact ⟨List.prefix_rfl, List.prefix_rfl⟩
    · obtain ⟨hbodies, hcalls⟩ := ih (List.prefix_append ds rest) t
      rw [run_of_met hm, run_of_met hm]
      exact ⟨List.cons_prefix_cons.2 ⟨rfl, hbodies⟩, (List.prefix_append_right_inj _).2 hcalls⟩

/-- The writes of the responses to a list of demands. -/
def writes (I : Interpreter σ) (p : Protocol) (ds : List Demand) (s : σ) : List Bytes :=
  (I.run ds s).bodies.flatMap (Sink.pieces p)

theorem flatten_writes (ds : List Demand) (s : σ) :
    (I.writes p ds s).flatten = (I.run ds s).bodies.flatMap (Sink.frame p) :=
  Sink.flatten_flatMap_pieces p _

theorem writes_of_fault {d : Demand} {s t : σ} {f : Fault} (h : I.meet d s = (.error f, t))
    (ds : List Demand) : I.writes p (d :: ds) s = [] := by
  rw [writes, run_of_fault h]
  rfl

/-- A demand that is met adds its response to the writes. -/
theorem sendAll_writes {d : Demand} {s t : σ} {body : Text} (h : I.meet d s = (.ok body, t))
    (k : Sink) (ds : List Demand) :
    k.sendAll (I.writes p (d :: ds) s) =
      match k.respond p body with
      | (.ok (), k) => k.sendAll (I.writes p ds t)
      | (.error e, k) => (.error e, k) := by
  rw [writes, run_of_met h, List.flatMap_cons, Sink.sendAll_append, Sink.respond_eq_sendAll]
  rfl

/-- Answering writes the responses up to the first write that fails, and has the interpreter meet
the demands up to the one that this write belongs to. -/
theorem converse_spec {ds : List Demand} (hds : ∀ q, .ok q ∈ ds → Fits q) (k : Sink) (s : σ) :
    (I.converse p ds k s).1 = (k.sendAll (I.writes p ds s)).2 ∧
      ∃ m, (I.converse p ds k s).2 = (I.run (ds.take m) s).state ∧
        (I.converse p ds k s).1 = (k.sendAll (I.writes p (ds.take m) s)).2 ∧
        ∀ n < m, (k.sendAll (I.writes p (ds.take n) s)).1 = .ok () := by
  induction ds generalizing k s with
  | nil => exact ⟨rfl, 0, rfl, rfl, by simp⟩
  | cons d ds ih =>
    have hreply := I.reply_eq_meet (d := d) (fun q hq => hds q (hq ▸ List.mem_cons_self)) s
    have hrest : ∀ q, .ok q ∈ ds → Fits q := fun q hq => hds q (List.mem_cons_of_mem d hq)
    have hnone : ∀ n < 1, (k.sendAll (I.writes p ((d :: ds).take n) s)).1 = .ok () := by
      intro n hn
      obtain rfl : n = 0 := by omega
      rfl
    rw [converse, hreply]
    rcases hm : I.meet d s with ⟨f | body, t⟩ <;> simp only [Except.mapError]
    · refine ⟨by rw [writes_of_fault hm]; rfl, 1, ?_, ?_, hnone⟩
      · rw [List.take_succ_cons, run_of_fault hm]
      · rw [List.take_succ_cons, writes_of_fault hm]
        rfl
    rcases hrespond : k.respond p body with ⟨e | _, k'⟩ <;> simp only
    · refine ⟨by rw [sendAll_writes hm, hrespond], 1, ?_, ?_, hnone⟩
      · rw [List.take_succ_cons, run_of_met hm]
        rfl
      · rw [List.take_succ_cons, sendAll_writes hm, hrespond]
    · obtain ⟨hsink, m, hstate, hcut, hbefore⟩ := ih hrest k' t
      refine ⟨by rw [sendAll_writes hm, hrespond, hsink], m + 1, ?_, ?_, fun n hn => ?_⟩
      · rw [List.take_succ_cons, run_of_met hm, hstate]
      · rw [List.take_succ_cons, sendAll_writes hm, hrespond, hcut]
      · cases n with
        | zero => rfl
        | succ n =>
          rw [List.take_succ_cons, sendAll_writes hm, hrespond]
          exact hbefore n (by omega)

theorem writes_recorded (ds : List Demand) (s : σ) (calls : List Call) :
    I.recorded.writes p ds (s, calls) = I.writes p ds s := by
  rw [writes, run_recorded]
  rfl

theorem writes_isPrefix {ds es : List Demand} (h : ds <+: es) (s : σ) :
    I.writes p ds s <+: I.writes p es s := by
  obtain ⟨rest, hrest⟩ := (run_isPrefix (I := I) h s).1
  rw [writes, writes, ← hrest, List.flatMap_append]
  exact List.prefix_append _ _

end Interpreter

namespace Session

/-- Where the streams of a connection break down. -/
structure Faults where
  read : Option Breakdown := none
  write : Option Breakdown := none
  flush : Option Breakdown := none

namespace Faults

/-- The stream of a client that sends the given bytes. -/
def source (f : Faults) (input : Bytes) : Source where
  unread := input
  breakdown := f.read

/-- The stream to a client that nothing is sent on yet. -/
def sink (f : Faults) : Sink where
  writeBreakdown := f.write
  flushBreakdown := f.flush

end Faults

variable {σ : Type} {I : Interpreter σ} {p : Protocol}

/-- The session of a connection on which a client sends the given bytes and which breaks down. -/
def failing (f : Faults) (input : Bytes) (s : σ) : Session σ where
  source := f.source input
  sink := f.sink
  state := s

/-- The demands that a client makes with the bytes it sends before reading breaks down. -/
def heard (f : Faults) (p : Protocol) (input : Bytes) : List Demand :=
  (Conversation.ofLines p (f.source input).heard).demands

theorem heard_isPrefix (f : Faults) (p : Protocol) (input : Bytes) :
    heard f p input <+: asked p input := by
  obtain ⟨rest, hrest⟩ := (f.source input).heard_isPrefix
  have hlines : (f.source input).lines = Lines.raw Bytes.lf input := rfl
  rw [heard, asked, ← hlines, ← hrest]
  exact Conversation.demands_isPrefix p _ rest

/-- They are what can be read off the stream that breaks down. -/
theorem heard_eq (f : Faults) (p : Protocol) (input : Bytes) :
    heard f p input = ((f.source input).conversation p).demands :=
  (Source.demands_conversation p _).symm

theorem fits_of_mem_heard (hp : p.maxBlockBytes ≤ Shape.maxVolume) (f : Faults) (input : Bytes)
    {q : Query} (h : .ok q ∈ heard f p input) : Interpreter.Fits q := by
  rw [heard_eq] at h
  exact Interpreter.fits_of_mem_conversation hp h

/-- Serving a connection that breaks down is answering what is heard. -/
theorem converse_heard (I : Interpreter σ) (p : Protocol) (f : Faults) (input : Bytes) (s : σ) :
    (((failing f input s).serve I p).sink, ((failing f input s).serve I p).state) =
      I.converse p (heard f p input) f.sink s := by
  rw [heard_eq]
  exact serve_eq_converse I p (failing f input s)

/-- What is written over a connection that breaks down, and where the interpreter is left. -/
theorem serve_failing_spec (hp : p.maxBlockBytes ≤ Shape.maxVolume) (f : Faults) (input : Bytes)
    (s : σ) :
    let cut := (failing f input s).serve I p
    cut.sink = (f.sink.sendAll (I.writes p (heard f p input) s)).2 ∧
      ∃ m, cut.state = (I.run ((heard f p input).take m) s).state ∧
        cut.sink = (f.sink.sendAll (I.writes p ((heard f p input).take m) s)).2 ∧
        ∀ n < m, (f.sink.sendAll (I.writes p ((heard f p input).take n) s)).1 = .ok () := by
  intro cut
  have hspec := Interpreter.converse_spec (I := I) (p := p)
    (fun q => fits_of_mem_heard hp f input) f.sink s
  rw [← converse_heard I p f input s] at hspec
  exact hspec

/-- Where only reading breaks down, what was heard is answered. -/
theorem serve_failing_of_read (hp : p.maxBlockBytes ≤ Shape.maxVolume) {f : Faults}
    (hwrite : f.write = none) (hflush : f.flush = none) (input : Bytes) (s : σ) :
    let cut := (failing f input s).serve I p
    cut.sink.accepted = (I.run (heard f p input) s).bodies.flatMap (Sink.frame p) ∧
      cut.state = (I.run (heard f p input) s).state := by
  intro cut
  have hspec := Interpreter.converse_of_sound (I := I) (p := p) (k := f.sink) (u := s)
    ⟨hwrite, hflush⟩ fun q => fits_of_mem_heard hp f input
  rw [← converse_heard I p f input s] at hspec
  exact hspec

/-- What is written over a connection that does not break down. -/
theorem serve_fresh_spec (hp : p.maxBlockBytes ≤ Shape.maxVolume) (input : Bytes) (s : σ) :
    let whole := (fresh input s).serve I p
    whole.sink.attempts = I.writes p (asked p input) s ∧
      whole.sink.accepted = (I.writes p (asked p input) s).flatten ∧
      whole.state = (I.run (asked p input) s).state := by
  intro whole
  obtain ⟨hsink, -⟩ := serve_failing_spec (I := I) hp {} input s
  obtain ⟨n, hcut, hall⟩ := Sink.sendAll_cut (k := {}) rfl (I.writes p (asked p input) s)
  have hn := hall (Sink.sendAll_of_sound ⟨rfl, rfl⟩ _)
  refine ⟨?_, ?_, state_serve_fresh hp input s⟩
  · calc whole.sink.attempts = [] ++ (I.writes p (asked p input) s).take (n + 1) :=
          (congrArg Sink.attempts hsink).trans hcut.attempts
      _ = I.writes p (asked p input) s := by
          rw [List.nil_append, List.take_of_length_le (by omega)]
  · rw [Interpreter.flatten_writes]
    exact accepted_serve_fresh hp input s

/-- What is left of a session that is cut short, beside the whole one. -/
structure CutShort (cut whole : Session (σ × List Interpreter.Call)) : Prop where
  /-- The bytes written are the first. -/
  accepted : cut.sink.accepted <+: whole.sink.accepted
  /-- So are the writes tried, and all but perhaps the last of them went through. -/
  attempts : cut.sink.attempts <+: whole.sink.attempts
  sent : cut.sink.sent <+: cut.sink.attempts
  length_attempts : cut.sink.attempts.length ≤ cut.sink.sent.length + 1
  /-- The calls that the interpreter has heard are the first. -/
  calls : cut.state.2 <+: whole.state.2

/-- A breakdown cuts a session short. -/
theorem cutShort_failing (I : Interpreter σ) (hp : p.maxBlockBytes ≤ Shape.maxVolume) (f : Faults)
    (input : Bytes) (s : σ) :
    CutShort ((failing f input (s, [])).serve I.recorded p)
      ((fresh input (s, [])).serve I.recorded p) := by
  obtain ⟨hsink, m, hstate, -⟩ := serve_failing_spec (I := I.recorded) hp f input (s, [])
  obtain ⟨hattempts, haccepted, hcalls⟩ := serve_fresh_spec (I := I.recorded) hp input (s, [])
  simp only [Interpreter.writes_recorded] at hsink hattempts haccepted
  rw [Interpreter.run_recorded] at hstate hcalls
  have hwrites : I.writes p (heard f p input) s <+: I.writes p (asked p input) s :=
    Interpreter.writes_isPrefix (heard_isPrefix f p input) s
  have hbytes : (I.writes p (heard f p input) s).flatten <+:
      (I.writes p (asked p input) s).flatten := by
    obtain ⟨rest, hrest⟩ := hwrites
    rw [← hrest, List.flatten_append]
    exact List.prefix_append _ _
  have hmet : (heard f p input).take m <+: asked p input :=
    (List.take_prefix m _).trans (heard_isPrefix f p input)
  obtain ⟨n, hcut, -⟩ := Sink.sendAll_cut (k := f.sink) rfl (I.writes p (heard f p input) s)
  rw [← hsink] at hcut
  have hsent := hcut.sent
  have htried := hcut.attempts
  change _ = [] ++ _ at hsent htried
  rw [List.nil_append] at hsent htried
  constructor
  · rw [haccepted]
    exact (hcut.accepted rfl).1.trans hbytes
  · rw [htried, hattempts]
    exact (List.take_prefix _ _).trans hwrites
  · rw [htried, hsent]
    exact List.take_prefix_take_left (Nat.le_succ n)
  · rw [htried, hsent, List.length_take, List.length_take]
    omega
  · rw [hstate, hcalls]
    exact (Interpreter.run_isPrefix hmet s).2

/-- **Breakdowns only cut a run short.** Where reading, writing or flushing fails at any point, what
is left is the beginning of what is left otherwise. If only writing fails, it is exactly the bytes
up to that point, and if only reading fails, exactly the responses to the demands that were heard
whole. In any case the interpreter has met the first of these demands. Their responses are written,
the last of them perhaps in part or not at all, and nothing else is. -/
theorem serve_failing (I : Interpreter σ) (hp : p.maxBlockBytes ≤ Shape.maxVolume) (f : Faults)
    (input : Bytes) (s : σ) :
    let whole := (fresh input (s, [])).serve I.recorded p
    let cut := (failing f input (s, [])).serve I.recorded p
    let run := fun ds => I.run ds s
    CutShort cut whole ∧
      (∀ b, f = { write := some b } → cut.sink.accepted = whole.sink.accepted.take b.after) ∧
      (f.write = none → f.flush = none →
        cut.sink.accepted = (run (heard f p input)).bodies.flatMap (Sink.frame p) ∧
        cut.state = ((run (heard f p input)).state, (run (heard f p input)).calls)) ∧
      (∀ b, f.read = some b → (f.source input).heard.flatten <+: input.take b.after) ∧
      ∃ m, let met := fun n => run ((heard f p input).take n)
        cut.state = ((met m).state, (met m).calls) ∧
        cut.sink.accepted <+: (met m).bodies.flatMap (Sink.frame p) ∧
        ∀ n < m, (met n).bodies.flatMap (Sink.frame p) <+: cut.sink.accepted := by
  intro whole cut run
  obtain ⟨hsink, m, hstate, hcut, hbefore⟩ :=
    serve_failing_spec (I := I.recorded) hp f input (s, [])
  simp only [Interpreter.writes_recorded] at hsink hcut hbefore
  rw [Interpreter.run_recorded] at hstate
  refine ⟨cutShort_failing I hp f input s, ?_, fun hwrite hflush => ?_,
    fun b hb => Source.flatten_heard_isPrefix hb, m, hstate, ?_, ?_⟩
  · rintro b rfl
    obtain ⟨-, haccepted, -⟩ := serve_fresh_spec (I := I.recorded) hp input (s, [])
    rw [hsink, haccepted, Interpreter.writes_recorded]
    exact Sink.accepted_sendAll_of_write rfl rfl rfl _
  · have hread := serve_failing_of_read (I := I.recorded) hp hwrite hflush input (s, [])
    rw [Interpreter.run_recorded] at hread
    exact hread
  · obtain ⟨n, hn, -⟩ :=
      Sink.sendAll_cut (k := f.sink) rfl (I.writes p ((heard f p input).take m) s)
    rw [← hcut] at hn
    rw [← Interpreter.flatten_writes]
    exact (hn.accepted rfl).1
  · intro n hn
    have hfirst : (heard f p input).take n <+: (heard f p input).take m :=
      List.take_prefix_take_left (Nat.le_of_lt hn)
    obtain ⟨rest, hrest⟩ := Interpreter.writes_isPrefix (I := I) (p := p) hfirst s
    rw [hcut, ← hrest, ← Interpreter.flatten_writes]
    exact Sink.accepted_sendAll_append rfl (hbefore n hn) rest

/-- The peer is gone in the middle of the first response, or reading breaks down in an end tag. -/
theorem serve_failing_write :
    let p : Protocol := ⟨"END".toList, 64⟩
    let input := Text.Utf8.encode "def\nF\nEND\ndef\nG\nEND\ndef\nH\nEND\n".toList
    let whole := (fresh input (Workspace.empty, [])).serve Workspace.interpreter.recorded p
    let gone := (failing { write := some ⟨3, "broken pipe".toList⟩ } input
      (Workspace.empty, [])).serve Workspace.interpreter.recorded p
    let reset := (failing { read := some ⟨28, "peer reset".toList⟩ } input
      (Workspace.empty, [])).serve Workspace.interpreter.recorded p
    p.maxBlockBytes ≤ Shape.maxVolume ∧
      (CutShort gone whole ∧ gone.sink.accepted = Text.Utf8.encode "F\nE".toList ∧
        gone.state.2 = [.define (.ofRows ["F".toList])]) ∧
      CutShort reset whole ∧ reset.state.1.names = ["F".toList, "G".toList] := by
  intro p input whole gone reset
  have hp : p.maxBlockBytes ≤ Shape.maxVolume := by decide
  obtain ⟨hgone, hbytes, -⟩ := serve_failing Workspace.interpreter hp
    { write := some ⟨3, "broken pipe".toList⟩ } input Workspace.empty
  obtain ⟨hreset, -⟩ := serve_failing Workspace.interpreter hp
    { read := some ⟨28, "peer reset".toList⟩ } input Workspace.empty
  refine ⟨hp, ⟨hgone, (hbytes _ rfl).trans ?_, ?_⟩, hreset, ?_⟩
  · rw [accepted_serve_fresh hp input]
    decide +kernel
  · decide +kernel
  · decide +kernel

end Session
end DefinitionServer
