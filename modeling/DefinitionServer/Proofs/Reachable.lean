import DefinitionServer.Proofs.Rejection
import DefinitionServer.Proofs.Serving
import DefinitionServer.Proofs.Table

/-!
# Workspaces that requests lead to

From the empty workspace, requests that come over connections lead to others, whatever connections
these are and in whatever order their requests are met. A function that is kept in such a workspace
was sent as a block. So its rows have no line feed, its first row is its header, and no other row is
the end tag, unless the end tag shows a replacement character.

## Main definitions

* `Demand.Received`: a demand that lines of some stream make.
* `Workspace.Reachable`: a workspace that received demands lead to.
* `Definition.Sent`: what is known of a function that was sent.
-/
namespace DefinitionServer

/-! ## Received demands -/

/-- The lines of some stream make the demand. -/
def Demand.Received (p : Protocol) (d : Demand) : Prop :=
  ∃ input l ls after, Lines.raw Bytes.lf input = l :: ls ∧
    Demand.ofLine p (Bytes.content l) ls = .ok (d, after)

namespace Demand

variable {p : Protocol} {d : Demand}

/-- The demands of a conversation are received. -/
theorem received_of_mem {input : Bytes} {ls : List Bytes} (hls : ls <:+ Lines.raw Bytes.lf input)
    (h : d ∈ (Conversation.ofLines p ls).demands) : d.Received p := by
  fun_induction Conversation.ofLines p ls with
  | case1 => simp at h
  | case2 => simp at h
  | case3 l ls _ _ ih => exact ih ((List.suffix_cons l ls).trans hls) h
  | case4 l ls _ _ d' after hd ih =>
    rcases List.mem_cons.1 h with rfl | h
    · exact ⟨(l :: ls).flatten, l, ls, after, Lines.raw_flatten_of_suffix hls, hd⟩
    · exact ih ((Demand.ofLine_suffix hd).trans ((List.suffix_cons l ls).trans hls)) h
  | case5 => simp at h

/-- The lines of a received block have no line feed and are not the end tag. -/
theorem mem_of_received {block : List Bytes} (h : Received p (.ok (.define block))) {line : Bytes}
    (hline : line ∈ block) : line ≠ Text.Utf8.encode p.endTag ∧ Bytes.lf ∉ line := by
  obtain ⟨input, l, ls, after, hraw, hd⟩ := h
  obtain ⟨htag, m, hm, rfl⟩ := Block.mem_of_read (Demand.read_of_define hd) hline
  exact ⟨htag, Lines.lf_notMem_content (hraw ▸ List.mem_cons_of_mem l hm)⟩

/-- A received demand in error is answered with one line. -/
theorem oneLine_of_received {e : RequestError} (h : Received p (.error e)) :
    (Sink.errorBody e).OneLine := by
  obtain ⟨input, l, ls, after, hraw, hd⟩ := h
  rcases Demand.error_cases hd with hline | ⟨command, hline, hcommand⟩
  · exact Sink.oneLine_of_malformed hline
  · have hlf : Bytes.lf ∉ Bytes.content l := Lines.lf_notMem_content (hraw ▸ List.mem_cons_self)
    exact Sink.oneLine_of_command (CommandLine.lf_notMem_name hlf hline) hcommand

end Demand

/-! ## Functions that were sent -/

/-- The function was sent in a block. -/
structure Definition.Sent (p : Protocol) (d : Definition) : Prop where
  /-- The header is what the first row says, and none of the other rows is the end tag. -/
  rows : ∃ first body, d.rows = first :: body ∧ Header.parse first = .ok d.header ∧
    (p.endTag ∈ body → Text.Utf8.replacement ∈ p.endTag)
  /-- The rows are lines. -/
  lf_notMem : ∀ row ∈ d.rows, '\n' ∉ row

/-- A definition from a received block was sent. -/
theorem Definition.sent_of_received {p : Protocol} {block : List Bytes} {d : Definition}
    (h : Demand.Received p (.ok (.define block)))
    (hd : Definition.ofRows (block.map Text.Utf8.decodeLossy) = .ok d) : d.Sent p := by
  obtain ⟨first, body, hstart, hrows, hheader⟩ := Definition.ofRows_eq_ok hd
  have hlf : ∀ row ∈ first :: body, '\n' ∉ row := by
    intro row hrow
    obtain ⟨line, hline, rfl⟩ := List.mem_map.1 (hstart.subset hrow)
    exact fun hc => (Demand.mem_of_received h hline).2 (Text.Utf8.lf_mem_of_mem_decodeLossy hc)
  refine ⟨⟨_, body, hrows, hheader, fun htag => ?_⟩, ?_⟩
  · obtain ⟨line, hline, hshown⟩ :=
      List.mem_map.1 (hstart.subset (List.mem_cons_of_mem first htag))
    -- bytes that show no replacement character are the tag's own
    by_cases hrep : Text.Utf8.replacement ∈ p.endTag
    · exact hrep
    · rw [← hshown] at hrep
      have hline' := Text.Utf8.eq_encode_decodeLossy hrep
      rw [hshown] at hline'
      exact absurd hline' (Demand.mem_of_received h hline).1
  · intro row hrow
    rw [hrows] at hrow
    rcases List.mem_cons.1 hrow with rfl | hrow
    · exact fun hc => hlf first (by simp) (Definition.withoutOpeningDel_subset first hc)
    · exact hlf row (by simp [hrow])

namespace Workspace

variable {p : Protocol} {w : Workspace} {d : Demand}

/-- Received demands lead to the workspace. -/
inductive Reachable (p : Protocol) : Workspace → Prop
  | empty : Reachable p Workspace.empty
  | met {w : Workspace} {d : Demand} (hw : Reachable p w) (hd : d.Received p) :
    Reachable p (interpreter.meet d w).2

/-- A block is met with the text of the token for its rows. -/
theorem meet_define (w : Workspace) (block : List Bytes) :
    interpreter.meet (.ok (.define block)) w =
      ((w.define (.ofRows (block.map Text.Utf8.decodeLossy))).1.map Token.canonical,
        (w.define (.ofRows (block.map Text.Utf8.decodeLossy))).2) := rfl

/-- Meeting a demand keeps a workspace well-formed. -/
theorem WellFormed.meet (hw : WellFormed w) (d : Demand) : WellFormed (interpreter.meet d w).2 := by
  match d with
  | .error e => exact hw
  | .ok (.function name) => exact hw
  | .ok .functionList => exact hw
  | .ok (.define block) => exact hw.define (.ofRows (block.map Text.Utf8.decodeLossy))

theorem Reachable.wellFormed (h : Reachable p w) : WellFormed w := by
  induction h with
  | empty => exact wellFormed_empty
  | met _ _ ih => exact ih.meet _

/-- Every function of the workspace was sent, and is kept under the name in its header. -/
def Sent (p : Protocol) (w : Workspace) : Prop :=
  ∀ f ∈ w.functions, f.1 = f.2.header.name ∧ f.2.Sent p

/-- Meeting a demand keeps that. -/
theorem Sent.meet (hw : Sent p w) (hd : d.Received p) : Sent p (interpreter.meet d w).2 := by
  match d with
  | .error e => exact hw
  | .ok (.function name) => exact hw
  | .ok .functionList => exact hw
  | .ok (.define block) =>
    rw [meet_define, define_ofRows]
    rcases hrows : Definition.ofRows (block.map Text.Utf8.decodeLossy) with e | d
    · exact hw
    · intro f hf
      rcases mem_insert hf with rfl | hf
      · exact ⟨rfl, Definition.sent_of_received hd hrows⟩
      · exact hw f hf

/-- Every function of a reachable workspace was sent. -/
theorem Reachable.sent (h : Reachable p w) : Sent p w := by
  induction h with
  | empty => simp [Sent, Workspace.empty]
  | met _ hd ih => exact ih.meet hd

/-- A run of received demands leads from reachable workspaces to reachable ones. -/
theorem Reachable.run {ds : List Demand} (hw : Reachable p w) (hds : ∀ d ∈ ds, d.Received p) :
    Reachable p (interpreter.run ds w).state := by
  induction ds generalizing w with
  | nil => exact hw
  | cons d ds ih =>
    have hmet := hw.met (hds d (by simp))
    rw [Interpreter.run]
    rcases hm : interpreter.meet d w with ⟨_ | body, u⟩ <;> rw [hm] at hmet
    · exact hmet
    · exact ih hmet fun d hd => hds d (by simp [hd])

/-- What is left by serving a connection is reachable when what it found was. -/
theorem Reachable.serve (hp : p.maxBlockBytes ≤ Shape.maxVolume) (hw : Reachable p w)
    (input : Bytes) : Reachable p ((Session.fresh input w).serve interpreter p).state := by
  rw [(Session.serve_of_sound hp (Session.sound_fresh input w)).2]
  exact hw.run fun d hd => Demand.received_of_mem (List.suffix_refl _) hd

end Workspace
end DefinitionServer
