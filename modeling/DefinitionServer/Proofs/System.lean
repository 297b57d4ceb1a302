import DefinitionServer.Proofs.Replies
import Mathlib.Logic.Function.Basic

/-!
# Connections that share an interpreter

Any number of connections are served at once. A connection takes one turn at a time: it reads its
next demand, has the interpreter answer it, or sends the response. Only the second of these touches
the interpreter, and it does so once. In what order connections take their turns is left open. Three
turns of one connection without another in between are a round of its session.

Whatever the order, a connection that does not break down has its demands answered one after the
other, and what it has written is what they were answered with.

## Main definitions

* `Connection`, `System`: a connection between two turns, and all of them over one interpreter.
* `System.turn`, `System.turns`: one turn, and turns in a given order.
* `System.Faithful`: what holds of connections over a workspace after any turns.
-/
namespace DefinitionServer

/-- What a connection does next. -/
inductive Phase where
  /-- It reads a demand. -/
  | awaiting
  /-- It has the interpreter answer. -/
  | asking (d : Demand)
  /-- It sends a response. -/
  | telling (body : Text)
  | closed

/-- A connection between two turns. -/
structure Connection where
  source : Source
  sink : Sink := {}
  phase : Phase := .awaiting

/-- A demand that was answered. -/
structure Exchange (ι : Type) where
  connection : ι
  demand : Demand
  body : Text

/-- Connections over one interpreter. -/
structure System (ι σ : Type) where
  connections : ι → Connection
  state : σ
  /-- What was answered, in the order in which the interpreter was asked. -/
  exchanges : List (Exchange ι) := []

/-- A turn in which a connection reads or sends. -/
def Connection.move (p : Protocol) (c : Connection) : Connection :=
  match c.phase with
  | .awaiting =>
    match c.source.nextDemand p with
    | (.ok d, src) => { c with source := src, phase := .asking d }
    | (.error _, src) => { c with source := src, phase := .closed }
  | .telling body =>
    match c.sink.respond p body with
    | (.ok (), k) => { c with sink := k, phase := .awaiting }
    | (.error _, k) => { c with sink := k, phase := .closed }
  | _ => c

namespace System

variable {ι σ : Type} [DecidableEq ι]

/-- One turn of a connection. -/
def turn (I : Interpreter σ) (p : Protocol) (S : System ι σ) (i : ι) : System ι σ :=
  let c := S.connections i
  match c.phase with
  | .asking d =>
    match I.reply d S.state with
    | (.ok body, u) =>
      { connections := Function.update S.connections i { c with phase := .telling body }
        state := u
        exchanges := S.exchanges ++ [⟨i, d, body⟩] }
    | (.error _, u) =>
      { S with connections := Function.update S.connections i { c with phase := .closed }
               state := u }
  | _ => { S with connections := Function.update S.connections i (c.move p) }

/-- Turns in the given order. -/
def turns (I : Interpreter σ) (p : Protocol) (order : List ι) (S : System ι σ) : System ι σ :=
  order.foldl (turn I p) S

/-- The exchanges of one connection. -/
def of (S : System ι σ) (i : ι) : List (Exchange ι) := S.exchanges.filter (·.connection = i)

/-- The session of one connection. -/
def session (S : System ι σ) (i : ι) : Session σ where
  source := (S.connections i).source
  sink := (S.connections i).sink
  state := S.state

variable {I : Interpreter σ} {p : Protocol} {S : System ι σ} {i : ι}

theorem turn_of_move (h : ∀ d, (S.connections i).phase ≠ .asking d) :
    S.turn I p i =
      { S with connections := Function.update S.connections i ((S.connections i).move p) } := by
  rw [turn]
  split
  · exact absurd ‹_› (h _)
  · rfl

theorem turn_of_asking {d : Demand} (h : (S.connections i).phase = .asking d) {body : Text} {u : σ}
    (hreply : I.reply d S.state = (.ok body, u)) :
    S.turn I p i =
      { connections := Function.update S.connections i
          { S.connections i with phase := .telling body }
        state := u
        exchanges := S.exchanges ++ [⟨i, d, body⟩] } := by
  simp only [turn, h, hreply]

/-- A turn leaves the other connections as they are. -/
theorem turn_of_ne (I : Interpreter σ) (p : Protocol) (S : System ι σ) {j : ι} (h : j ≠ i) :
    (S.turn I p i).connections j = S.connections j := by
  rw [turn]
  repeat' split
  all_goals exact Function.update_of_ne h ..

/-- **Turns are rounds.** Three turns of a connection in succession are a round of its session, and
leave the other connections as they are. -/
theorem turns_eq_round (I : Interpreter σ) (p : Protocol) (S : System ι σ) {i : ι}
    (h : (S.connections i).phase = .awaiting) :
    let T := S.turns I p [i, i, i]
    let r := (S.session i).round I p
    (T.connections i).source = r.2.source ∧ (T.connections i).sink = r.2.sink ∧
      T.state = r.2.state ∧
      (T.connections i).phase = (if r.1 = .continues then .awaiting else .closed) ∧
      ∀ j, j ≠ i → T.connections j = S.connections j := by
  intro T r
  have hT : T = ((S.turn I p i).turn I p i).turn I p i := rfl
  have hothers : ∀ j, j ≠ i → T.connections j = S.connections j := by
    intro j hj
    rw [hT, turn_of_ne I p _ hj, turn_of_ne I p _ hj, turn_of_ne I p _ hj]
  obtain ⟨log, hround⟩ := Session.round_eq I p (S.session i)
  have hr : r = Session.conclude I p log ((S.connections i).source.nextDemand p)
      (S.connections i).sink S.state := hround
  -- a turn of a closed connection does nothing, so there are three turns in every case
  rcases hnext : (S.connections i).source.nextDemand p with ⟨e | d, src⟩
  · refine ⟨?_, ?_, ?_, ?_, hothers⟩ <;>
      simp [hr, hT, turn, Connection.move, h, hnext, Session.conclude]
  rcases hreply : I.reply d S.state with ⟨e | body, u⟩
  · refine ⟨?_, ?_, ?_, ?_, hothers⟩ <;>
      simp [hr, hT, turn, Connection.move, h, hnext, hreply, Session.conclude]
  rcases hrespond : (S.connections i).sink.respond p body with ⟨e | _, k⟩
  all_goals
    refine ⟨?_, ?_, ?_, ?_, hothers⟩ <;>
      simp [hr, hT, turn, Connection.move, h, hnext, hreply, hrespond, Session.conclude]

end System

/-! ## Connections that do not break down -/

namespace Connection

variable {ι : Type} {p : Protocol} {input : Bytes} {c : Connection} {xs : List (Exchange ι)}

/-- The demands of a connection that are not answered yet. -/
def unanswered (p : Protocol) (c : Connection) : List Demand :=
  match c.phase with
  | .asking d => d :: (c.source.conversation p).demands
  | .closed => []
  | _ => (c.source.conversation p).demands

/-- The bytes of an answer that is not sent yet. -/
def unsent (p : Protocol) (c : Connection) : Bytes :=
  match c.phase with
  | .telling body => Sink.frame p body
  | _ => []

/-- How many turns the connection still needs. Each demand takes three, and to find that there is no
other takes one. -/
def remaining (p : Protocol) (c : Connection) : Nat :=
  match c.phase with
  | .awaiting => 3 * (c.source.conversation p).demands.length + 1
  | .asking _ => 3 * (c.source.conversation p).demands.length + 3
  | .telling _ => 3 * (c.source.conversation p).demands.length + 2
  | .closed => 0

theorem closed_of_remaining (h : c.remaining p = 0) : c.phase = .closed := by
  rw [remaining] at h
  split at h
  · simp at h
  · simp at h
  · simp at h
  · assumption

/-- The connection carries the bytes that a client sent. Of the demands that these make, those in
the exchanges are answered, and the bodies of the exchanges are written. -/
structure Follows (p : Protocol) (input : Bytes) (c : Connection) (xs : List (Exchange ι)) :
    Prop where
  source : c.phase ≠ .closed → c.source.breakdown = none
  sink : c.sink.Sound
  asked : Session.asked p input = xs.map Exchange.demand ++ c.unanswered p
  told : c.sink.accepted ++ c.unsent p = xs.flatMap fun x => Sink.frame p x.body

/-- A new connection has answered nothing. -/
theorem follows_start (p : Protocol) (input : Bytes) :
    Follows (ι := ι) p input { source := { unread := input } } [] where
  source _ := rfl
  sink := ⟨rfl, rfl⟩
  asked := Session.asked_eq p input
  told := rfl

/-- Reading and sending answer nothing. -/
theorem Follows.move (h : Follows p input c xs) (hc : ∀ d, c.phase ≠ .asking d) :
    Follows p input (c.move p) xs := by
  obtain ⟨hsource, hsink, hasked, htold⟩ := id h
  cases hphase : c.phase with
  | awaiting =>
    rw [unanswered, hphase] at hasked
    rw [unsent, hphase] at htold
    rw [Connection.move, hphase]
    have hbreak := hsource (by simp [hphase])
    rcases hnext : c.source.nextDemand p with ⟨e | d, src⟩ <;> simp only
    · rw [Source.conversation_of_ending (congrArg Prod.fst hnext)] at hasked
      exact ⟨fun hopen => absurd rfl hopen, hsink, hasked, htold⟩
    · rw [Source.conversation_of_demand hnext] at hasked
      exact ⟨fun _ => Source.breakdown_of_nextDemand hbreak hnext, hsink, hasked, htold⟩
  | asking d => exact absurd hphase (hc d)
  | telling body =>
    rw [unanswered, hphase] at hasked
    rw [unsent, hphase] at htold
    obtain ⟨k, hk, hsound, haccepted⟩ := Sink.respond_of_sound hsink p body
    rw [Connection.move, hphase]
    simp only [hk]
    refine ⟨fun _ => hsource (by simp [hphase]), hsound, hasked, ?_⟩
    rw [haccepted, ← htold, unsent, List.append_nil]
  | closed =>
    rw [Connection.move, hphase]
    exact h

/-- Reading and sending bring a connection one turn nearer to its end. -/
theorem Follows.remaining_move (h : Follows p input c xs) (hc : ∀ d, c.phase ≠ .asking d) :
    (c.move p).remaining p = c.remaining p - 1 := by
  cases hphase : c.phase with
  | awaiting =>
    rw [Connection.move, remaining, remaining, hphase]
    rcases hnext : c.source.nextDemand p with ⟨e | d, src⟩
    · rw [Source.conversation_of_ending (congrArg Prod.fst hnext)]
      rfl
    · rw [Source.conversation_of_demand hnext, List.length_cons]
      simp only
      omega
  | asking d => exact absurd hphase (hc d)
  | telling body =>
    obtain ⟨k, hk, -⟩ := Sink.respond_of_sound h.sink p body
    rw [Connection.move, remaining, remaining, hphase]
    simp only [hk]
    omega
  | closed => simp [Connection.move, remaining, hphase]

/-- The answer to a demand is one more exchange. -/
theorem Follows.answer {d : Demand} (h : Follows p input c xs) (hc : c.phase = .asking d) (i : ι)
    (body : Text) : Follows p input { c with phase := .telling body } (xs ++ [⟨i, d, body⟩]) := by
  obtain ⟨hsource, hsink, hasked, htold⟩ := h
  rw [unanswered, hc] at hasked
  rw [unsent, hc] at htold
  refine ⟨fun _ => hsource (by simp [hc]), hsink, ?_, ?_⟩
  · rw [hasked, List.map_append, List.append_assoc]
    rfl
  · rw [List.flatMap_append, ← htold]
    simp [unsent]

end Connection

namespace System

variable {ι : Type} [DecidableEq ι] {p : Protocol} {inputs : ι → Bytes} {w : Workspace}
  {S : System ι Workspace}

/-- New connections over a workspace, on each of which a client sends its bytes. -/
def start (inputs : ι → Bytes) (w : Workspace) : System ι Workspace where
  connections i := { source := { unread := inputs i } }
  state := w

/-- Every connection follows what its client sent, and the bodies of the exchanges are what the
workspace replies to their demands one after the other. -/
structure Faithful (p : Protocol) (inputs : ι → Bytes) (w : Workspace) (S : System ι Workspace) :
    Prop where
  follows : ∀ i, (S.connections i).Follows p (inputs i) (S.of i)
  bodies : S.exchanges.map Exchange.body = w.replies (S.exchanges.map Exchange.demand)
  state : S.state = (S.exchanges.map Exchange.demand).foldl Workspace.next w

theorem faithful_start (p : Protocol) (inputs : ι → Bytes) (w : Workspace) :
    Faithful p inputs w (start inputs w) where
  follows i := Connection.follows_start p (inputs i)
  bodies := rfl
  state := rfl

/-- An exchange belongs to its connection alone. -/
theorem filter_concat (xs : List (Exchange ι)) (x : Exchange ι) (i : ι) :
    (xs ++ [x]).filter (·.connection = i) =
      xs.filter (·.connection = i) ++ if x.connection = i then [x] else [] := by
  rw [List.filter_append]
  by_cases hx : x.connection = i
  · simp [hx]
  · simp [hx]

/-- A demand that a connection asks is answered. -/
theorem reply_of_asking (hp : p.maxBlockBytes ≤ Shape.maxVolume) (h : Faithful p inputs w S)
    {i : ι} {d : Demand} (hd : (S.connections i).phase = .asking d) :
    Workspace.interpreter.reply d S.state = (.ok (S.state.reply d), S.state.next d) := by
  have hasked := (h.follows i).asked
  rw [Connection.unanswered, hd] at hasked
  have hfits : ∀ q, d = .ok q → Interpreter.Fits q := by
    rintro q rfl
    apply Session.fits_of_mem_asked hp
    rw [hasked]
    exact List.mem_append_right _ List.mem_cons_self
  rw [Interpreter.reply_eq_meet _ hfits, Workspace.meet_eq]
  rfl

/-- A turn keeps connections over a workspace faithful. -/
theorem Faithful.turn (hp : p.maxBlockBytes ≤ Shape.maxVolume) (h : Faithful p inputs w S)
    (i : ι) : Faithful p inputs w (S.turn Workspace.interpreter p i) := by
  by_cases hasking : ∃ d, (S.connections i).phase = .asking d
  · obtain ⟨d, hd⟩ := hasking
    rw [turn_of_asking hd (reply_of_asking hp h hd)]
    refine ⟨fun j => ?_, ?_, ?_⟩
    · change Connection.Follows p (inputs j) (Function.update S.connections i _ j)
        ((S.exchanges ++ [_]).filter (·.connection = j))
      rw [filter_concat]
      by_cases hj : j = i
      · subst hj
        rw [Function.update_self, if_pos rfl]
        exact (h.follows j).answer hd j _
      · rw [Function.update_of_ne hj, if_neg (Ne.symm hj), List.append_nil]
        exact h.follows j
    · change (S.exchanges ++ [_]).map Exchange.body =
        w.replies ((S.exchanges ++ [_]).map Exchange.demand)
      rw [List.map_append, List.map_append, Workspace.replies_append, h.bodies, ← h.state]
      rfl
    · change S.state.next d = ((S.exchanges ++ [_]).map Exchange.demand).foldl Workspace.next w
      rw [List.map_append, List.foldl_append, ← h.state]
      rfl
  · rw [not_exists] at hasking
    rw [turn_of_move hasking]
    refine ⟨fun j => ?_, h.bodies, h.state⟩
    change Connection.Follows p (inputs j) (Function.update S.connections i _ j) (S.of j)
    by_cases hj : j = i
    · subst hj
      rw [Function.update_self]
      exact (h.follows j).move hasking
    · rw [Function.update_of_ne hj]
      exact h.follows j

/-- So do any turns. -/
theorem Faithful.turns (hp : p.maxBlockBytes ≤ Shape.maxVolume) (order : List ι)
    (h : Faithful p inputs w S) :
    Faithful p inputs w (S.turns Workspace.interpreter p order) := by
  induction order generalizing S with
  | nil => exact h
  | cons i order ih => exact ih (h.turn hp i)

/-- A turn brings its connection nearer to its end, and no other. -/
theorem Faithful.remaining_turn (hp : p.maxBlockBytes ≤ Shape.maxVolume) (h : Faithful p inputs w S)
    (i j : ι) :
    ((S.turn Workspace.interpreter p i).connections j).remaining p =
      (S.connections j).remaining p - if i = j then 1 else 0 := by
  by_cases hj : j = i
  · subst hj
    rw [if_pos rfl]
    by_cases hasking : ∃ d, (S.connections j).phase = .asking d
    · obtain ⟨d, hd⟩ := hasking
      rw [turn_of_asking hd (reply_of_asking hp h hd)]
      simp only [Function.update_self]
      simp [Connection.remaining, hd]
    · rw [not_exists] at hasking
      rw [turn_of_move hasking]
      simp only [Function.update_self]
      exact (h.follows j).remaining_move hasking
  · rw [turn_of_ne _ _ _ hj, if_neg (Ne.symm hj)]
    rfl

/-- Every turn of a connection counts. -/
theorem Faithful.remaining_turns (hp : p.maxBlockBytes ≤ Shape.maxVolume) (order : List ι)
    (h : Faithful p inputs w S) (i : ι) :
    ((S.turns Workspace.interpreter p order).connections i).remaining p =
      (S.connections i).remaining p - order.count i := by
  induction order generalizing S with
  | nil => rfl
  | cons j order ih =>
    have hrest := ih (h.turn hp j)
    rw [h.remaining_turn hp j i] at hrest
    rw [List.count_cons, Nat.add_comm, Nat.sub_add_eq]
    simp only [beq_iff_eq]
    exact hrest

/-- A connection that takes enough turns is closed. -/
theorem closed_of_count (hp : p.maxBlockBytes ≤ Shape.maxVolume) (inputs : ι → Bytes)
    (w : Workspace) {order : List ι} {i : ι}
    (h : 3 * (Session.asked p (inputs i)).length < order.count i) :
    (((start inputs w).turns Workspace.interpreter p order).connections i).phase = .closed := by
  apply Connection.closed_of_remaining
  have hstart : ((start inputs w).connections i).remaining p =
      3 * (Session.asked p (inputs i)).length + 1 := by
    rw [Session.asked_eq]
    rfl
  rw [(faithful_start p inputs w).remaining_turns hp, hstart]
  omega

end System
end DefinitionServer
