import DefinitionServer.Protocol.Query
import DefinitionServer.Protocol.Sink

/-!
# Sessions

A session is a connection together with the interpreter's state: all that serving a connection
can change. What the server does in a session either gives a result or fails, and the session
goes on from where the failure left it.

## Main definitions

* `Session`, `Serving`: a session, and an action in it.
* `Serving.route`: reads and answers the request that a command line opens.
* `Serving.step`: reads and answers the next request.
* `Session.round`: one round of serving, in which an error that is not fatal is answered.
* `Session.serve`: rounds until the connection ends.
-/
namespace DefinitionServer

/-- A connection and the interpreter's state. -/
structure Session (σ : Type) where
  source : Source
  sink : Sink := {}
  state : σ
  log : List Log.Record := []

/-- An action of the server in a session. -/
abbrev Serving (σ α : Type) := ExceptT RequestError (StateM (Session σ)) α

/-- Whether another request is awaited. -/
inductive Flow where
  | continues
  | closes
deriving DecidableEq, Repr

/-- The session with one more record in its log. -/
def Session.note {σ : Type} (r : Log.Record) (s : Session σ) : Session σ :=
  { s with log := s.log ++ [r] }

namespace Serving

variable {σ α : Type}

@[simp] theorem pure_apply (a : α) (s : Session σ) : (pure a : Serving σ α) s = (.ok a, s) := rfl

/-- The second action is taken with the result of the first, where that left the session. -/
theorem bind_apply {β : Type} (m : Serving σ α) (f : α → Serving σ β) (s : Session σ) :
    (m >>= f) s =
      match m s with
      | (.ok a, t) => f a t
      | (.error e, t) => (.error e, t) := by
  simp only [bind, ExceptT.bind, ExceptT.mk, ExceptT.bindCont, StateT.bind]
  rcases m s with ⟨_ | _, t⟩ <;> rfl

/-- Reads from the incoming stream. -/
def reading (f : Source → Except RequestError α × Source) : Serving σ α := fun s =>
  ((f s.source).1, { s with source := (f s.source).2 })

/-- Writes to the outgoing stream. -/
def writing (f : Sink → Except RequestError α × Sink) : Serving σ α := fun s =>
  ((f s.sink).1, { s with sink := (f s.sink).2 })

/-- Has the interpreter answer. -/
def answering (f : σ → Interpreter.Reply σ) : Serving σ Text := fun s =>
  let reply := f s.state
  (reply.body, { s with state := reply.state, log := s.log ++ reply.log })

/-- Says in the log which command a command line gives, if it gives one. -/
def announce (line : CommandLine) : Serving σ Unit := fun s =>
  (.ok (), match Command.parse line with
    | .ok c => s.note (Remark.dispatching c)
    | .error _ => s)

/-- Answers a query and sends the response. -/
def perform (I : Interpreter σ) (p : Protocol) (q : Query) : Serving σ Unit := do
  let body ← answering (I.answer q)
  writing (Sink.respond p body)

/-- Defines the function in the block that comes next. -/
def define (I : Interpreter σ) (p : Protocol) : Serving σ Unit := do
  let lines ← reading (Source.loadBlock p)
  perform I p (.define lines)

/-- Defines the function that an array of rows describes. -/
def invoke (I : Interpreter σ) (p : Protocol) (v : Value) : Serving σ Unit := do
  let body ← answering (I.invoke v)
  writing (Sink.respond p body)

/-- Reads the rest of the request that a command line opens and answers it. -/
def route (I : Interpreter σ) (p : Protocol) (line : CommandLine) : Serving σ Flow := do
  announce line
  match ← reading (Query.ofLine p line) with
  | some q => perform I p q; return .continues
  | none => return .closes

/-- Reads the next request and answers it. -/
def step (I : Interpreter σ) (p : Protocol) : Serving σ Flow := do
  match ← reading (Source.nextCommand p) with
  | some line => route I p line
  | none => return .closes

/-! ## What the actions read -/

theorem source_perform (I : Interpreter σ) (p : Protocol) (q : Query) (s : Session σ) :
    (perform I p q s).2.source = s.source := by
  rw [perform, bind_apply]
  split <;> rename_i h <;> obtain ⟨-, rfl⟩ := Prod.mk.inj h <;> rfl

theorem source_announce (line : CommandLine) (s : Session σ) :
    (announce line s).2.source = s.source := by
  simp only [announce]
  split <;> rfl

theorem route_length_le (I : Interpreter σ) (p : Protocol) (line : CommandLine) (s : Session σ) :
    (route I p line s).2.source.unread.length ≤ s.source.unread.length := by
  have hq := Query.ofLine_length_le p line s.source
  rw [← source_announce line s] at hq ⊢
  generalize hu : (announce line s).2 = u at hq ⊢
  have ha : announce line s = (.ok (), u) := hu ▸ rfl
  rw [route, bind_apply, ha]
  simp only
  rw [bind_apply]
  simp only [reading]
  split
  · rename_i o u h
    obtain ⟨-, rfl⟩ := Prod.mk.inj h
    cases o with
    | none => exact hq
    | some q =>
      simp only [bind_apply]
      split <;> rename_i h' <;> replace h' := congrArg (fun r => r.2.source) h' <;>
        simp only [source_perform] at h' <;> simpa [← h'] using hq
  · rename_i e u h
    obtain ⟨-, rfl⟩ := Prod.mk.inj h
    exact hq

end Serving

namespace Session

variable {σ : Type}

/-- One round of serving. An error that is not fatal is answered, and then the round was a good
one if the answer could be written. -/
def round (I : Interpreter σ) (p : Protocol) (s : Session σ) : Flow × Session σ :=
  match Serving.step I p s with
  | (.ok .continues, s) => (.continues, s)
  | (.ok .closes, s) => (.closes, s.note Remark.closed)
  | (.error e, s) =>
    if e.isFatal then (.closes, s.note (Remark.closing e))
    else
      match s.sink.respond p (Sink.errorBody e) with
      | (.ok (), sink) => (.continues, { s.note (Remark.rejecting e) with sink })
      | (.error w, sink) =>
        (.closes, { s.note (Remark.rejecting e) with sink }.note (Remark.unanswered w))

/-- A round after which the connection goes on has read something. -/
theorem round_shortens {I : Interpreter σ} {p : Protocol} {s t : Session σ}
    (h : s.round I p = (.continues, t)) :
    t.source.unread.length < s.source.unread.length := by
  have hstep : ∀ r u, Serving.step I p s = (r, u) → r ≠ .ok .closes →
      (∀ e, r = .error e → e.isFatal = false) →
      u.source.unread.length < s.source.unread.length := by
    intro r u hu hr he
    rw [Serving.step, Serving.bind_apply] at hu
    simp only [Serving.reading] at hu
    generalize hc : s.source.nextCommand p = read at hu
    obtain ⟨e | _ | line, src⟩ := read
    · obtain ⟨rfl, rfl⟩ := Prod.mk.inj hu
      exact Source.nextCommand_shortens hc (by simp) fun e' h' => by
        obtain rfl := Except.error.inj h'
        exact he _ rfl
    · exact absurd (Prod.mk.inj hu).1.symm hr
    · have hlt := Source.nextCommand_shortens hc (by simp) (by simp)
      have hle := Serving.route_length_le I p line { s with source := src }
      change Serving.route I p line { s with source := src } = _ at hu
      rw [hu] at hle
      exact Nat.lt_of_le_of_lt hle hlt
  unfold round at h
  split at h
  · rename_i u hu
    obtain ⟨-, rfl⟩ := Prod.mk.inj h
    exact hstep _ _ hu (by simp) (by simp)
  · simp at h
  · rename_i e u hu
    split at h
    · simp at h
    · rename_i hfatal
      split at h
      · obtain ⟨-, rfl⟩ := Prod.mk.inj h
        exact (hstep _ u hu (by simp) (by simpa using hfatal) : _)
      · simp at h

/-- Serves requests until the connection ends. -/
def serve (I : Interpreter σ) (p : Protocol) (s : Session σ) : Session σ :=
  match _h : s.round I p with
  | (.continues, t) => serve I p t
  | (.closes, t) => t
termination_by s.source.unread.length
decreasing_by exact round_shortens ‹_›

end Session
end DefinitionServer
