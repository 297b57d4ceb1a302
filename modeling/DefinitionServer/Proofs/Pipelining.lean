import DefinitionServer.Proofs.Serving

/-!
# Pipelining

A client may send a request before the one before it is answered. What it asks is cut into lines,
and lines into demands, without regard to what stands before or after them. So the demands of lines
are the first of the demands of longer lines, and where the shorter ones run out between two
requests, the others follow as if they had come over a connection of their own.

## Main definitions

* `Session.RunsOut`: a connection is served until there is no further request.
-/
namespace DefinitionServer

variable {p : Protocol} {ls after : List Bytes}

/-! ## Longer lines -/

namespace Block

/-- Where a block ends does not depend on the lines after its end tag. -/
theorem body_append (h : rest p ls ≠ []) (ms : List Bytes) :
    body p (ls ++ ms) = body p ls ∧ rest p (ls ++ ms) = rest p ls ++ ms := by
  have hlength : (body p ls).length ≠ ls.length := by
    have hls : body p ls ++ rest p ls = ls := List.takeWhile_append_dropWhile
    have hpos := List.length_pos_iff.2 h
    have := congrArg List.length hls
    rw [List.length_append] at this
    omega
  exact ⟨(List.takeWhile_append ..).trans (if_neg hlength),
    (List.dropWhile_append ..).trans (if_neg (by rwa [List.isEmpty_iff]))⟩

/-- A block that is read is read from more lines too. -/
theorem read_append {block : List Bytes} (h : Block.read p ls = .ok (block, after))
    (ms : List Bytes) : Block.read p (ls ++ ms) = .ok (block, after ++ ms) := by
  rw [Block.read] at h
  split at h
  · simp at h
  rename_i hfit
  split at h <;> rename_i hrest
  · simp at h
  obtain ⟨rfl, rfl⟩ := Prod.mk.inj (Except.ok.inj h)
  have hne : rest p ls ≠ [] := hrest ▸ List.cons_ne_nil _ _
  obtain ⟨hbody, hrest'⟩ := body_append hne ms
  have htaken : taken p (ls ++ ms) = taken p ls := by
    rw [taken, taken, hbody, hrest', hrest]
    rfl
  rw [Block.read, htaken, if_neg hfit, hrest', hrest, hbody]
  rfl

end Block

/-- A demand stays when more lines come after it. -/
theorem Demand.ofLine_append {line : Bytes} {d : Demand}
    (h : Demand.ofLine p line ls = .ok (d, after)) (ms : List Bytes) :
    Demand.ofLine p line (ls ++ ms) = .ok (d, after ++ ms) := by
  rcases ofLine_cases p line with hline | ⟨_, hline⟩ | ⟨_, hline⟩ <;> rw [hline] at h ⊢
  · cases h
  · obtain ⟨rfl, rfl⟩ := Prod.mk.inj (Except.ok.inj h)
    rfl
  · rcases hread : Block.read p ls with e | ⟨block, rest⟩ <;> rw [hread] at h
    · cases h
    · obtain ⟨rfl, rfl⟩ := Prod.mk.inj (Except.ok.inj h)
      rw [Block.read_append hread ms]

/-- No line is the end of the lines. -/
theorem Demand.ofLine_ne_inputEnds {line : Bytes} :
    Demand.ofLine p line ls ≠ .error .inputEnds := by
  rcases ofLine_cases p line with hline | ⟨_, hline⟩ | ⟨_, hline⟩ <;> rw [hline]
  · simp
  · simp
  · cases Block.read p ls <;> simp

namespace Conversation

theorem ofLines_of_demand {l : Bytes} {d : Demand} (hfit : ¬ p.maxBlockBytes < l.length)
    (hblank : ¬ (Bytes.content l).all Source.isSpace = true)
    (hd : Demand.ofLine p (Bytes.content l) ls = .ok (d, after)) :
    ofLines p (l :: ls) = ⟨d :: (ofLines p after).demands, (ofLines p after).ending⟩ := by
  rw [ofLines, if_neg hfit, if_neg hblank]
  split <;> rename_i h <;> rw [hd] at h
  · obtain ⟨rfl, rfl⟩ := Prod.mk.inj (Except.ok.inj h)
    rfl
  · simp at h

/-- The demands of lines are the first that longer lines make. -/
theorem demands_isPrefix (p : Protocol) (ls ms : List Bytes) :
    (ofLines p ls).demands <+: (ofLines p (ls ++ ms)).demands := by
  fun_induction ofLines p ls with
  | case1 => exact List.nil_prefix
  | case2 => exact List.nil_prefix
  | case3 l ls hfit hblank ih =>
    rw [List.cons_append, ofLines, if_neg hfit, if_pos hblank]
    exact ih
  | case4 l ls hfit hblank d after hd ih =>
    rw [List.cons_append, ofLines_of_demand hfit hblank (Demand.ofLine_append hd ms)]
    exact List.cons_prefix_cons.2 ⟨rfl, ih⟩
  | case5 => exact List.nil_prefix

/-- Lines that run out between two requests leave the lines after them as they are. -/
theorem ofLines_append (h : (ofLines p ls).ending = .inputEnds) (ms : List Bytes) :
    ofLines p (ls ++ ms) =
      ⟨(ofLines p ls).demands ++ (ofLines p ms).demands, (ofLines p ms).ending⟩ := by
  fun_induction ofLines p ls with
  | case1 => rfl
  | case2 => simp at h
  | case3 l ls hfit hblank ih =>
    rw [List.cons_append, ofLines, if_neg hfit, if_pos hblank]
    exact ih h
  | case4 l ls hfit hblank d after hd ih =>
    rw [List.cons_append, ofLines_of_demand hfit hblank (Demand.ofLine_append hd ms), ih h]
    rfl
  | case5 l ls hfit hblank e he =>
    obtain rfl : e = .inputEnds := h
    exact absurd he Demand.ofLine_ne_inputEnds

end Conversation

/-! ## Longer conversations -/

namespace Interpreter

variable {σ : Type} (I : Interpreter σ)

/-- An interpreter that has met all demands goes on to others from where it is. -/
theorem run_append {ds : List Demand} {s : σ} (h : (I.run ds s).bodies.length = ds.length)
    (es : List Demand) :
    I.run (ds ++ es) s =
      ⟨(I.run ds s).bodies ++ (I.run es (I.run ds s).state).bodies,
        (I.run ds s).calls ++ (I.run es (I.run ds s).state).calls,
        (I.run es (I.run ds s).state).state⟩ := by
  induction ds generalizing s with
  | nil => rfl
  | cons d ds ih =>
    rw [List.cons_append]
    rcases hm : I.meet d s with ⟨f | body, t⟩
    · simp [run_of_fault hm] at h
    · rw [run_of_met hm] at h ⊢
      rw [run_of_met hm, ih (by simpa using h)]
      simp only [List.cons_append, List.append_assoc]

end Interpreter

namespace Session

variable {σ : Type} {I : Interpreter σ} {s t : Session σ}

/-- Serving ends because there is no further request. Neither a request to close nor an error comes
before. -/
inductive RunsOut (I : Interpreter σ) (p : Protocol) : Session σ → Prop
  | ends {s : Session σ} (h : (s.source.nextCommand p).1 = .ok none) : RunsOut I p s
  | round {s t : Session σ} (h : s.round I p = (.continues, t)) (ht : RunsOut I p t) :
    RunsOut I p s

theorem nextDemand_eq_inputEnds_iff {src : Source} :
    (src.nextDemand p).1 = .error .inputEnds ↔ (src.nextCommand p).1 = .ok none := by
  have hverdict : ∀ e : RequestError, e.verdict ≠ .error .inputEnds := by
    intro e
    rcases e.verdict_cases with h | h <;> simp [h]
  rw [Source.nextDemand]
  rcases src.nextCommand p with ⟨e | _ | line, t⟩
  · simpa using hverdict e
  · simp
  · rcases hq : (Query.ofLine p line t).1 with e | _ | q <;> simp [Demand.settle, hq, hverdict]

/-- Where serving runs out, all demands are met. -/
theorem RunsOut.met (hp : p.maxBlockBytes ≤ Shape.maxVolume) (h : RunsOut I p s) :
    (s.source.conversation p).ending = .inputEnds ∧
      (I.run (s.source.conversation p).demands s.state).bodies.length =
        (s.source.conversation p).demands.length := by
  induction h with
  | ends h =>
    rw [Source.conversation_of_ending (nextDemand_eq_inputEnds_iff.2 h)]
    exact ⟨rfl, rfl⟩
  | round h _ ih =>
    obtain ⟨hending, hmet⟩ := ih
    obtain ⟨d, body, hnext, hreply, -⟩ := exists_of_continues h
    rw [Source.conversation_of_demand hnext,
      Interpreter.run_of_met (I.meet_of_reply hp hnext hreply)]
    exact ⟨hending, by rw [List.length_cons, List.length_cons, hmet]⟩

/-- On a sound connection, serving runs out exactly where the lines run out between two requests and
all demands are met. -/
theorem runsOut_iff (hp : p.maxBlockBytes ≤ Shape.maxVolume) (hs : s.Sound) :
    RunsOut I p s ↔ (s.source.conversation p).ending = .inputEnds ∧
      (I.run (s.source.conversation p).demands s.state).bodies.length =
        (s.source.conversation p).demands.length := by
  refine ⟨RunsOut.met hp, ?_⟩
  rintro ⟨hending, hmet⟩
  generalize hsrc : s.source = src at hending hmet
  fun_induction Source.conversation p src generalizing s with
  | case1 src d src' hnext ih =>
    subst hsrc
    rcases hm : I.meet d s.state with ⟨f | body, u⟩
    · simp [Interpreter.run_of_fault hm] at hmet
    rw [Interpreter.run_of_met hm, List.length_cons, List.length_cons, Nat.succ_inj] at hmet
    obtain ⟨t, ht, hsound, hsource, -, rfl⟩ := continues_of_nextDemand hp hs hnext hm
    subst hsource
    exact .round ht (ih hsound rfl hending hmet)
  | case2 src e src' hnext =>
    subst hsrc
    refine .ends (nextDemand_eq_inputEnds_iff.1 ?_)
    rw [hnext]
    exact congrArg _ hending

theorem runsOut_fresh_iff {a : Bytes} {w : σ} (hp : p.maxBlockBytes ≤ Shape.maxVolume) :
    RunsOut I p (fresh a w) ↔
      (Conversation.ofLines p (Lines.raw Bytes.lf a)).ending = .inputEnds ∧
        (I.run (asked p a) w).bodies.length = (asked p a).length := by
  rw [runsOut_iff hp (sound_fresh a w), Source.conversation_of_sound rfl]
  rfl

/-- **Pipelining.** Where the first bytes are whole lines and serving them alone runs out, serving
more bytes after them over the same connection writes what serving each over a connection of its own
writes, one after the other, and leaves the interpreter where the second connection leaves it. -/
theorem serve_append (I : Interpreter σ) (hp : p.maxBlockBytes ≤ Shape.maxVolume) {a : Bytes}
    (ha : a = [] ∨ a.getLast? = some Bytes.lf) {w : σ} (hout : RunsOut I p (fresh a w))
    (b : Bytes) :
    let first := (fresh a w).serve I p
    let second := (fresh b first.state).serve I p
    let whole := (fresh (a ++ b) w).serve I p
    whole.sink.accepted = first.sink.accepted ++ second.sink.accepted ∧
      whole.state = second.state := by
  intro first second whole
  obtain ⟨hending, hmet⟩ := (runsOut_fresh_iff hp).1 hout
  have hasked : asked p (a ++ b) = asked p a ++ asked p b := by
    rw [asked, Lines.raw_append ha, Conversation.ofLines_append hending]
    rfl
  have hrun := I.run_append hmet (asked p b)
  have hleft : first.state = (I.run (asked p a) w).state := state_serve_fresh hp a w
  constructor
  · calc whole.sink.accepted
        = (I.run (asked p a ++ asked p b) w).bodies.flatMap (Sink.frame p) := by
          rw [← hasked]
          exact accepted_serve_fresh hp (a ++ b) w
      _ = (I.run (asked p a) w).bodies.flatMap (Sink.frame p) ++
            (I.run (asked p b) first.state).bodies.flatMap (Sink.frame p) := by
          rw [hrun, hleft, List.flatMap_append]
      _ = first.sink.accepted ++ second.sink.accepted :=
          congrArg₂ _ (accepted_serve_fresh hp a w).symm (accepted_serve_fresh hp b _).symm
  · calc whole.state = (I.run (asked p a ++ asked p b) w).state := by
          rw [← hasked]
          exact state_serve_fresh hp (a ++ b) w
      _ = (I.run (asked p b) first.state).state := by rw [hrun, hleft]
      _ = second.state := (state_serve_fresh hp b _).symm

/-- A rejected definition, blank lines and a definition come before a request for what they left. -/
theorem serve_append_rejected :
    let p : Protocol := ⟨"END".toList, 64⟩
    let a := Text.Utf8.encode "def:no\nF\nEND\n\n \ndef\nG\nEND\n".toList
    let b := Text.Utf8.encode "fn:G\nfn:F\nquit\n".toList
    let first := (fresh a Workspace.empty).serve Workspace.interpreter p
    let whole := (fresh (a ++ b) Workspace.empty).serve Workspace.interpreter p
    p.maxBlockBytes ≤ Shape.maxVolume ∧ a.getLast? = some Bytes.lf ∧
      RunsOut Workspace.interpreter p (fresh a Workspace.empty) ∧
      whole.sink.accepted = first.sink.accepted ++
        Text.Utf8.encode "G\nEND\nVALUE ERROR\nEND\n".toList ∧
      whole.state.names = ["G".toList] := by
  intro p a b first whole
  have hp : p.maxBlockBytes ≤ Shape.maxVolume := by decide
  have ha : a.getLast? = some Bytes.lf := by decide +kernel
  have hout : RunsOut Workspace.interpreter p (fresh a Workspace.empty) :=
    (runsOut_fresh_iff hp).2 (by decide +kernel)
  obtain ⟨hwritten, hleft⟩ := serve_append Workspace.interpreter hp (.inr ha) hout b
  refine ⟨hp, ha, hout, hwritten.trans ?_, (congrArg Workspace.names hleft).trans ?_⟩
  · rw [accepted_serve_fresh hp b, state_serve_fresh hp a]
    exact congrArg _ (by decide +kernel)
  · rw [state_serve_fresh hp b, state_serve_fresh hp a]
    decide +kernel

end Session

end DefinitionServer
