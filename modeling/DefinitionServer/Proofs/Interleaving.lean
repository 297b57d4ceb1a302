import DefinitionServer.Proofs.System

/-!
# Interleaved connections

Connections that share a workspace do not disturb each other, whatever the order of their turns. A
definition and a request in error are answered as if there were no other connection, and so is a
request for a function that no other connection defines. The workspace is made of the functions that
were defined, each put in once. So it holds the last definition of each name, and it does not depend
on the order of definitions of different names.

## Main definitions

* `System.definitions`: the functions that were defined, in order.
* `System.Settles`: what interleaved connections come to.
-/
namespace DefinitionServer

open Workspace (interpreter WellFormed SameOn)

variable {ι : Type} [DecidableEq ι] {p : Protocol}

/-- Among the exchanges of several connections, one connection is answered as it is without the
others, as far as these leave the functions alone that its answers are known from. -/
theorem Workspace.replies_of_interleaved {names : Set Text} {i : ι} {xs : List (Exchange ι)}
    {w v : Workspace} (hbodies : xs.map Exchange.body = w.replies (xs.map Exchange.demand))
    (hsame : SameOn names w v)
    (hothers : ∀ x ∈ xs, x.connection ≠ i → x.demand.Spares names) {n : Nat} {x : Exchange ι}
    (hx : (xs.filter (·.connection = i))[n]? = some x) (hwithin : x.demand.Within names) :
    (v.replies ((xs.filter (·.connection = i)).map Exchange.demand))[n]? = some x.body := by
  induction xs generalizing w v n with
  | nil => simp at hx
  | cons y xs ih =>
    rw [List.map_cons, List.map_cons, replies, List.cons.injEq] at hbodies
    obtain ⟨hbody, hbodies⟩ := hbodies
    rw [List.forall_mem_cons] at hothers
    obtain ⟨hother, hothers⟩ := hothers
    by_cases hy : y.connection = i
    · rw [List.filter_cons_of_pos (by simpa using hy)] at hx ⊢
      rw [List.map_cons, replies]
      cases n with
      | zero =>
        obtain rfl : y = x := by simpa using hx
        rw [List.getElem?_cons_zero, hbody, hsame.reply hwithin]
      | succ n =>
        rw [List.getElem?_cons_succ] at hx ⊢
        exact ih hbodies (hsame.next y.demand) hothers hx
    · rw [List.filter_cons_of_neg (by simpa using hy)] at hx ⊢
      exact ih hbodies (hsame.next_left (hother hy)) hothers hx

namespace System

variable {inputs : ι → Bytes} {w : Workspace} {S : System ι Workspace}

/-- The functions that were defined, in the order in which they were. -/
def definitions {σ : Type} (S : System ι σ) : List Definition :=
  (S.exchanges.map Exchange.demand).filterMap Demand.definition?

/-- The definitions of a name, in order. -/
def definitionsOf {σ : Type} (S : System ι σ) (name : Text) : List Definition :=
  S.definitions.filter (·.header.name = name)

/-- The bodies with which a client that sends the given bytes is answered when it is served
alone. -/
def alone (p : Protocol) (input : Bytes) (v : Workspace) : List Text :=
  (interpreter.run (Session.asked p input) v).bodies

/-- What connections come to that share a workspace. -/
structure Settles (p : Protocol) (inputs : ι → Bytes) (w : Workspace) (S : System ι Workspace) :
    Prop where
  /-- Every connection has its demands answered once and in order. -/
  answered : ∀ i, (S.of i).map Exchange.demand <+: Session.asked p (inputs i)
  /-- A connection that is closed has had all of them answered. -/
  closed : ∀ i, (S.connections i).phase = .closed →
    (S.of i).map Exchange.demand = Session.asked p (inputs i)
  /-- What it has written are the responses, but for one that is not sent yet. -/
  written : ∀ i, (S.connections i).sink.accepted ++ (S.connections i).unsent p =
    (S.of i).flatMap fun x => Sink.frame p x.body
  /-- A definition or a request in error is answered as it is alone, over no functions. -/
  apart : ∀ i (n : Nat) (x : Exchange ι), (S.of i)[n]? = some x → x.demand.Within ∅ →
    (alone p (inputs i) Workspace.empty)[n]? = some x.body
  /-- A request for a function is answered as it is alone, if the name belongs to names that
  nothing stands for at the start and that no other connection defines. -/
  own : ∀ i (names : Set Text) (v : Workspace),
    (∀ name ∈ names, w.find? name = none ∧ v.find? name = none) →
    (∀ x ∈ S.exchanges, x.connection ≠ i → x.demand.Spares names) →
    ∀ (n : Nat) (x : Exchange ι), (S.of i)[n]? = some x →
      ∀ name ∈ names, x.demand = .ok (.function name) →
      (alone p (inputs i) v)[n]? = some x.body
  /-- The functions that were defined were put in once each, and nothing else was. -/
  table : S.state = S.definitions.foldl Workspace.put w
  /-- A name stands for its last definition. -/
  latest : ∀ name, S.state.find? name = (S.definitionsOf name).getLast?.or (w.find? name)

/-- What a connection is answered alone begins with what it is answered among others. -/
theorem Faithful.getElem?_alone (h : Faithful p inputs w S) {i : ι} {names : Set Text}
    {v : Workspace} (hsame : SameOn names w v)
    (hothers : ∀ x ∈ S.exchanges, x.connection ≠ i → x.demand.Spares names) {n : Nat}
    {x : Exchange ι} (hx : (S.of i)[n]? = some x) (hwithin : x.demand.Within names) :
    (alone p (inputs i) v)[n]? = some x.body := by
  have hreplies : (v.replies ((S.of i).map Exchange.demand))[n]? = some x.body :=
    Workspace.replies_of_interleaved h.bodies hsame hothers hx hwithin
  have hlength := (List.getElem?_eq_some_iff.1 hreplies).1
  rw [alone, (Workspace.run_eq _ _).1, (h.follows i).asked, Workspace.replies_append,
    List.getElem?_append_left hlength]
  exact hreplies

theorem Faithful.state_eq (h : Faithful p inputs w S) :
    S.state = S.definitions.foldl Workspace.put w :=
  h.state.trans (Workspace.foldl_next _ w)

theorem Faithful.settles (h : Faithful p inputs w S) : Settles p inputs w S where
  answered i := by
    rw [(h.follows i).asked]
    exact List.prefix_append _ _
  closed i hi := by
    rw [(h.follows i).asked, Connection.unanswered, hi, List.append_nil]
  written i := (h.follows i).told
  apart i n x hx hwithin := by
    have hsame : SameOn ∅ w Workspace.empty := fun _ hname => False.elim hname
    have hothers : ∀ y ∈ S.exchanges, y.connection ≠ i → y.demand.Spares ∅ :=
      fun _ _ _ _ _ hname => hname
    exact h.getElem?_alone hsame hothers hx hwithin
  own i names v habsent hothers n x hx name hname hd := by
    have hsame : SameOn names w v := by
      intro m hm
      rw [(habsent m hm).1, (habsent m hm).2]
    have hwithin : x.demand.Within names := by
      rw [hd]
      exact hname
    exact h.getElem?_alone hsame hothers hx hwithin
  table := h.state_eq
  latest name := by
    rw [h.state_eq, Workspace.find?_foldl_put]
    rfl

/-- **Connections over one workspace.** In whatever order connections take their turns, each is
answered as it is alone where no other defines what it asks for, and the workspace holds the last
definition of every name. A connection that takes enough turns has all its demands answered. Where
two orders have the same definitions of each name in the same order, they lead to the same
workspace. -/
theorem settles_turns (hp : p.maxBlockBytes ≤ Shape.maxVolume) (hw : WellFormed w)
    (inputs : ι → Bytes) (order : List ι) :
    let S := (start inputs w).turns interpreter p order
    Settles p inputs w S ∧
      (∀ i, 3 * (Session.asked p (inputs i)).length < order.count i →
        (S.connections i).phase = .closed) ∧
      (∀ i v, ((Session.fresh (inputs i) v).serve interpreter p).sink.accepted =
        (alone p (inputs i) v).flatMap (Sink.frame p)) ∧
      ∀ other, let T := (start inputs w).turns interpreter p other
        (∀ name, S.definitionsOf name = T.definitionsOf name) → S.state = T.state := by
  intro S
  have hS : Faithful p inputs w S := (faithful_start p inputs w).turns hp order
  refine ⟨hS.settles, fun i => closed_of_count hp inputs w,
    fun i v => Session.accepted_serve_fresh hp (inputs i) v, ?_⟩
  intro other T hsame
  have hT : Faithful p inputs w T := (faithful_start p inputs w).turns hp other
  apply Workspace.eq_of_find?
  · rw [hS.state_eq]
    exact Workspace.ascending_foldl_put _ hw.ascending
  · rw [hT.state_eq]
    exact Workspace.ascending_foldl_put _ hw.ascending
  · intro name
    rw [hS.settles.latest, hT.settles.latest, hsame]

/-- Two clients define a function each and one of them asks for its own. -/
theorem settles_turns_two :
    let p : Protocol := ⟨"END".toList, 64⟩
    let inputs : Bool → Bytes := fun first =>
      if first then Text.Utf8.encode "def\nF\nEND\nfn:F\n".toList
      else Text.Utf8.encode "bogus\ndef\nG\nEND\n".toList
    let order :=
      [false, true, true, false, false, true, true, false, false, true, true, true, false]
    let S := (start inputs Workspace.empty).turns interpreter p order
    p.maxBlockBytes ≤ Shape.maxVolume ∧ WellFormed Workspace.empty ∧
      Settles p inputs Workspace.empty S ∧
      S.state.names = ["F".toList, "G".toList] ∧
      (S.of true).map Exchange.body = ["F".toList, "F".toList] := by
  intro p inputs order S
  have hp : p.maxBlockBytes ≤ Shape.maxVolume := by decide
  obtain ⟨hsettles, -⟩ := settles_turns hp Workspace.wellFormed_empty inputs order
  refine ⟨hp, Workspace.wellFormed_empty, hsettles, ?_, ?_⟩
  · decide +kernel
  · decide +kernel

end System
end DefinitionServer
