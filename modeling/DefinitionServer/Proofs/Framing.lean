import DefinitionServer.Proofs.Frames
import DefinitionServer.Proofs.Reachable

/-!
# The end tag as a frame

Only the end tag says where a response ends, and nothing keeps it out of a body. A body that spells
it cuts its own response short for the client. Here it is said which requests are answered so: those
for which the workspace has the end tag to show, as a name, as a row, or as the text of a mistake.
All others are read as they were written, but for carriage returns at the end of a row.

## Main definitions

* `Workspace.Spells`: a line of the answer to a demand is the end tag.
* `Workspace.ShowsReturn`: a line of the answer to a demand ends in a carriage return.
* `Interpreter.answered`: the demands of a run that are answered.
-/
namespace DefinitionServer

open Client.Response (trimLine Exact)
open Text.Utf8 (encode)

namespace Interpreter

variable {σ : Type}

/-- The demands that a run answers, each with the state that it finds. -/
def answered (I : Interpreter σ) : List Demand → σ → List (Demand × σ)
  | [], _ => []
  | d :: ds, s =>
    match I.meet d s with
    | (.ok _, t) => (d, s) :: answered I ds t
    | (.error _, _) => []

end Interpreter

namespace Text.OneLine

variable {t : Text} (h : t.OneLine)

include h

theorem exists_trimLine_iff (endTag : Text) :
    (∃ line ∈ t.lines, trimLine line = endTag) ↔ t = endTag := by
  rw [lines_of_notMem h.1]
  simp [(Client.Response.trimLine_eq_self h.1).2 h.2]

theorem not_exists_return : ¬ ∃ line ∈ t.lines, line.getLast? = some '\r' := by
  rw [lines_of_notMem h.1]
  simpa using h.2

end Text.OneLine

/-- The rows of a function that was sent are the lines of the text that shows them. -/
theorem Definition.Sent.lines_rows {p : Protocol} {d : Definition} (h : d.Sent p) :
    (Text.join '\n' d.rows).lines = d.rows := by
  obtain ⟨first, body, hrows, -⟩ := h.rows
  have hne : d.rows ≠ [] := by
    rw [hrows]
    exact List.cons_ne_nil first body
  exact Text.lines_join h.lf_notMem hne

namespace Workspace

/-- The answer to the demand has the end tag for a line, up to carriage returns. -/
def Spells (endTag : Text) (w : Workspace) : Demand → Prop
  | .ok (.define block) =>
    ∃ token, (w.define (.ofRows (block.map Text.Utf8.decodeLossy))).1 = .ok token ∧
      token.canonical = endTag
  | .ok (.function name) =>
    match w.find? name with
    | some d => ∃ row ∈ d.rows, trimLine row = endTag
    | none => Diagnostic.valueError.message = endTag
  | .ok .functionList => endTag ∈ w.names
  | .error e => Sink.errorBody e = endTag

/-- The answer to the demand shows a row that ends in a carriage return. -/
def ShowsReturn (w : Workspace) : Demand → Prop
  | .ok (.function name) => ∃ d, w.find? name = some d ∧ ∃ row ∈ d.rows, row.getLast? = some '\r'
  | _ => False

variable {p : Protocol} {w u : Workspace} {d : Demand} {body : Text}

/-! ## The bodies of answers -/

theorem oneLine_of_define {block : List Bytes} {token : Token}
    (h : (w.define (.ofRows (block.map Text.Utf8.decodeLossy))).1 = .ok token) :
    token.canonical.OneLine ∧
      (Name.isName token.canonical = true ∨ ∃ g : Diagnostic, token.canonical = g.message) := by
  rw [define_ofRows] at h
  rcases hrows : Definition.ofRows (block.map Text.Utf8.decodeLossy) with e | f <;> rw [hrows] at h
  · rw [← Except.ok.inj h]
    refine ⟨?_, .inr ⟨e, rfl⟩⟩
    cases e <;> decide
  · rw [← Except.ok.inj h]
    obtain ⟨first, body, -, -, hheader⟩ := Definition.ofRows_eq_ok hrows
    have hname := Header.isName_of_parse hheader
    have hplain : f.header.name.Plain := ⟨Name.lf_notMem hname, Name.cr_notMem hname⟩
    exact ⟨hplain.oneLine, .inl hname⟩

/-- The answer for a function is its rows, or the mistake of asking for it. -/
theorem meet_function (w : Workspace) (name : Text) :
    interpreter.meet (.ok (.function name)) w =
      (.ok (match w.find? name with
        | some d => Text.join '\n' d.rows
        | none => Diagnostic.valueError.message), w) := by
  have hmeet : interpreter.meet (.ok (.function name)) w =
      (Interpreter.sourceText (w.source? name), w) := rfl
  rw [hmeet, source?_eq]
  cases w.find? name with
  | none => rfl
  | some d =>
    simp only [Option.map_some, Interpreter.sourceText, Value.rows_ofRows]

/-- The names in an answer are its lines. An answer without names has an empty line. -/
theorem lines_of_names (hw : WellFormed w) :
    (Text.join '\n' w.names).lines = w.names ∨
      (w.names = [] ∧ (Text.join '\n' w.names).lines = [[]]) := by
  by_cases hnames : w.names = []
  · exact .inr ⟨hnames, by rw [hnames]; rfl⟩
  · exact .inl (Text.lines_join (fun name hn => Name.lf_notMem (hw.isName_of_mem_names hn)) hnames)

/-- The rows of a function in a reachable workspace are the lines of the answer that shows them. -/
theorem lines_of_rows (hw : Reachable p w) {name : Text} {f : Definition}
    (hf : w.find? name = some f) : (Text.join '\n' f.rows).lines = f.rows := by
  obtain ⟨-, hsent⟩ := hw.sent _ (mem_of_find? hf)
  exact hsent.lines_rows

/-- A definition is answered with the text of its token. -/
theorem token_of_meet {block : List Bytes}
    (h : interpreter.meet (.ok (.define block)) w = (.ok body, u)) :
    ∃ token, (w.define (.ofRows (block.map Text.Utf8.decodeLossy))).1 = .ok token ∧
      token.canonical = body := by
  rw [meet_define] at h
  have hbody := (Prod.mk.inj h).1
  rcases hdefine : (w.define (.ofRows (block.map Text.Utf8.decodeLossy))).1 with f | token
  · simp [hdefine, Except.map] at hbody
  · rw [hdefine] at hbody
    exact ⟨token, rfl, Except.ok.inj hbody⟩

section Answers

variable (hw : Reachable p w) (hd : d.Received p) (h : interpreter.meet d w = (.ok body, u))

include hw hd h

/-- A line of an answer is the end tag for the client exactly when the workspace has it to show. -/
theorem exists_endTag_iff (hne : p.endTag ≠ []) :
    (∃ line ∈ body.lines, trimLine line = p.endTag) ↔ w.Spells p.endTag d := by
  match d, hd, h with
  | .ok (.define block), _, h =>
    obtain ⟨token, htoken, rfl⟩ := token_of_meet h
    rw [(oneLine_of_define htoken).1.exists_trimLine_iff, Spells]
    constructor
    · exact fun heq => ⟨token, htoken, heq⟩
    · rintro ⟨token', htoken', heq⟩
      rw [htoken] at htoken'
      rw [Except.ok.inj htoken']
      exact heq
  | .ok (.function name), _, h =>
    rw [meet_function] at h
    obtain rfl := Except.ok.inj (Prod.mk.inj h).1
    rw [Spells]
    cases hf : w.find? name with
    | none =>
      have hline : Diagnostic.valueError.message.OneLine := by decide
      exact hline.exists_trimLine_iff p.endTag
    | some f => simp only [lines_of_rows hw hf]
  | .ok .functionList, _, h =>
    obtain rfl := Except.ok.inj (Prod.mk.inj h).1
    change (∃ line ∈ (Text.join '\n' w.names).lines, _) ↔ p.endTag ∈ w.names
    have htrim : ∀ name ∈ w.names, trimLine name = name := by
      intro name hn
      have hname := hw.wellFormed.isName_of_mem_names hn
      exact Client.Response.trimLine_of_notMem (Name.cr_notMem hname) (Name.lf_notMem hname)
    rcases lines_of_names hw.wellFormed with hlines | ⟨hnames, hlines⟩ <;> rw [hlines]
    · constructor
      · rintro ⟨name, hn, heq⟩
        rwa [← heq, htrim name hn]
      · exact fun hn => ⟨p.endTag, hn, htrim _ hn⟩
    · simp [hnames, trimLine, Ne.symm hne]
  | .error e, hd, h =>
    obtain rfl := Except.ok.inj (Prod.mk.inj h).1
    exact (Demand.oneLine_of_received hd).exists_trimLine_iff p.endTag

/-- A line of an answer ends in a carriage return exactly when it is a row that does. -/
theorem exists_return_iff :
    (∃ line ∈ body.lines, line.getLast? = some '\r') ↔ w.ShowsReturn d := by
  match d, hd, h with
  | .ok (.define block), _, h =>
    obtain ⟨token, htoken, rfl⟩ := token_of_meet h
    exact iff_of_false (oneLine_of_define htoken).1.not_exists_return id
  | .ok (.function name), _, h =>
    rw [meet_function] at h
    obtain rfl := Except.ok.inj (Prod.mk.inj h).1
    rw [ShowsReturn]
    cases hf : w.find? name with
    | none =>
      have hline : Diagnostic.valueError.message.OneLine := by decide
      simpa using hline.not_exists_return
    | some f => simp [lines_of_rows hw hf]
  | .ok .functionList, _, h =>
    obtain rfl := Except.ok.inj (Prod.mk.inj h).1
    change (∃ line ∈ (Text.join '\n' w.names).lines, _) ↔ False
    rw [iff_false]
    rintro ⟨name, hn, hlast⟩
    rcases lines_of_names hw.wellFormed with hlines | ⟨-, hlines⟩ <;> rw [hlines] at hn
    · exact Name.cr_notMem (hw.wellFormed.isName_of_mem_names hn) (List.mem_of_getLast? hlast)
    · simp [List.mem_singleton.1 hn] at hlast
  | .error e, hd, h =>
    obtain rfl := Except.ok.inj (Prod.mk.inj h).1
    exact iff_of_false (Demand.oneLine_of_received hd).not_exists_return id

end Answers

/-- An answer spells no end tags but names, headers, messages, and those that a row shows with a
replacement character or a carriage return. -/
theorem cases_of_spells (hw : Reachable p w) (h : w.Spells p.endTag d) :
    Name.isName p.endTag = true ∨ (∃ header, Header.parse p.endTag = .ok header) ∨
      (∃ g : Diagnostic, p.endTag = g.message) ∨ "error: ".toList <+: p.endTag ∨
      Text.Utf8.replacement ∈ p.endTag ∨ w.ShowsReturn d := by
  match d, h with
  | .ok (.define block), ⟨token, htoken, heq⟩ =>
    rw [← heq]
    rcases (oneLine_of_define htoken).2 with hname | hmessage
    · exact .inl hname
    · exact .inr (.inr (.inl hmessage))
  | .ok (.function name), h =>
    rw [Spells] at h
    cases hf : w.find? name with
    | none =>
      rw [hf] at h
      exact .inr (.inr (.inl ⟨.valueError, h.symm⟩))
    | some f =>
      rw [hf] at h
      obtain ⟨row, hrow, htrim⟩ := h
      by_cases hlast : row.getLast? = some '\r'
      · exact .inr (.inr (.inr (.inr (.inr ⟨f, hf, row, hrow, hlast⟩))))
      obtain ⟨-, hsent⟩ := hw.sent _ (mem_of_find? hf)
      rw [(Client.Response.trimLine_eq_self (hsent.lf_notMem row hrow)).2 hlast] at htrim
      obtain ⟨first, body, hrows, hheader, hbody⟩ := hsent.rows
      simp only at hrows
      rw [hrows, htrim] at hrow
      rcases List.mem_cons.1 hrow with hrow | hrow
      · exact .inr (.inl ⟨f.header, hrow ▸ hheader⟩)
      · exact .inr (.inr (.inr (.inr (.inl (hbody hrow)))))
  | .ok .functionList, h => exact .inl (hw.wellFormed.isName_of_mem_names h)
  | .error e, h => exact .inr (.inr (.inr (.inl ⟨e.message, h⟩)))

/-! ## Runs -/

/-- The bodies of a run come back as they are exactly when no demand that it answers is answered
with the end tag or with a carriage return at the end of a row. -/
theorem exact_bodies_iff (hne : p.endTag ≠ []) (hw : Reachable p w) {ds : List Demand}
    (hds : ∀ d ∈ ds, d.Received p) :
    (∀ body ∈ (interpreter.run ds w).bodies, Exact p.endTag body) ↔
      ∀ a ∈ interpreter.answered ds w, ¬ a.2.Spells p.endTag a.1 ∧ ¬ a.2.ShowsReturn a.1 := by
  induction ds generalizing w with
  | nil => simp [Interpreter.run, Interpreter.answered]
  | cons d ds ih =>
    have hd := hds d (by simp)
    have hmet := hw.met hd
    rw [Interpreter.run, Interpreter.answered]
    rcases hm : interpreter.meet d w with ⟨_ | body, u⟩ <;> rw [hm] at hmet
    · simp
    · simp only [List.forall_mem_cons]
      rw [ih hmet fun d hd => hds d (by simp [hd]), Client.Response.exact_iff,
        exists_endTag_iff hw hd hm hne, exists_return_iff hw hd hm]

/-- **What the end tag frames.** A workspace that received demands lead to answers another. The end
tag is the last line of the response, and it is the only one that a client takes for the end tag
exactly when the answer does not spell it. A client that reads one response for each answer on a
connection gets the bodies that were written, with nothing left over, exactly when no answer spells
the end tag and none shows a row that ends in a carriage return. -/
theorem frames_of_reachable (hp : p.maxBlockBytes ≤ Shape.maxVolume) (hne : p.endTag ≠ [])
    (hcr : '\r' ∉ p.endTag) (hlf : '\n' ∉ p.endTag) (hw : Reachable p w) :
    (∀ d body u, Demand.Received p d → interpreter.meet d w = (.ok body, u) →
      (Lines.raw Bytes.lf (Sink.frame p body)).getLast? = some (Text.encodeLine p.endTag) ∧
      ((Lines.raw Bytes.lf (Sink.frame p body)).countP (Sink.closes p) = 1 ↔
        ¬ w.Spells p.endTag d) ∧
      (w.Spells p.endTag d →
        Name.isName p.endTag = true ∨ (∃ header, Header.parse p.endTag = .ok header) ∨
        (∃ g : Diagnostic, p.endTag = g.message) ∨ "error: ".toList <+: p.endTag ∨
        Text.Utf8.replacement ∈ p.endTag ∨ w.ShowsReturn d)) ∧
    ∀ input,
      let asked := Conversation.ofLines p (Lines.raw Bytes.lf input)
      let bodies := (interpreter.run asked.demands w).bodies
      let written := ((Session.fresh input w).serve interpreter p).sink.accepted
      written = bodies.flatMap (Sink.frame p) ∧
      (Client.Response.readMany p.endTag bodies.length written = (.ok (bodies.map .mk), []) ↔
        ∀ a ∈ interpreter.answered asked.demands w,
          ¬ a.2.Spells p.endTag a.1 ∧ ¬ a.2.ShowsReturn a.1) := by
  refine ⟨fun d body u hd hm => ?_, fun input => ?_⟩
  · obtain ⟨hlast, hcount⟩ := Sink.countP_closes_frame hcr hlf body
    refine ⟨hlast, ?_, cases_of_spells hw⟩
    rw [hcount, ← exists_endTag_iff hw hd hm hne]
    simp
  · intro asked bodies written
    have hwritten : written = bodies.flatMap (Sink.frame p) :=
      (Session.serve_of_sound hp (Session.sound_fresh input w)).1
    refine ⟨hwritten, ?_⟩
    rw [hwritten, Client.Response.readMany_frames hne hcr hlf]
    exact exact_bodies_iff hne hw fun d hd => Demand.received_of_mem (List.suffix_refl _) hd

/-- The name of the only function, read on a connection of its own. -/
theorem frames_of_defined :
    let p : Protocol := ⟨"END".toList, 64⟩
    let w := (interpreter.meet (.ok (.define [encode "F".toList])) Workspace.empty).2
    let input := encode "fnlist\n".toList
    (p.maxBlockBytes ≤ Shape.maxVolume ∧ p.endTag ≠ [] ∧ '\r' ∉ p.endTag ∧ '\n' ∉ p.endTag) ∧
      Reachable p w ∧
      Client.Response.readMany p.endTag 1
          ((Session.fresh input w).serve interpreter p).sink.accepted =
        (.ok [⟨"F".toList⟩], []) := by
  intro p w input
  have hp : p.maxBlockBytes ≤ Shape.maxVolume := by decide
  have hcr : '\r' ∉ p.endTag := by decide
  have hlf : '\n' ∉ p.endTag := by decide
  have hreceived : Demand.Received p (.ok (.define [encode "F".toList])) :=
    ⟨encode "def\nF\nEND\n".toList, encode "def\n".toList,
      [encode "F\n".toList, encode "END\n".toList], [], by decide, by decide +kernel⟩
  have hw : Reachable p w := Reachable.empty.met hreceived
  have hdemands : (Conversation.ofLines p (Lines.raw Bytes.lf input)).demands =
      [.ok .functionList] := by
    decide +kernel
  have hnames : w.names = ["F".toList] := by decide +kernel
  obtain ⟨-, hruns⟩ := frames_of_reachable hp (by decide) hcr hlf hw
  obtain ⟨-, hread⟩ := hruns input
  rw [hdemands] at hread
  have hbodies : (interpreter.run [.ok .functionList] w).bodies = [Text.join '\n' w.names] := rfl
  rw [hbodies, hnames] at hread
  refine ⟨⟨hp, by decide, hcr, hlf⟩, hw, hread.2 fun a ha => ?_⟩
  obtain rfl : a = (.ok .functionList, w) := List.mem_singleton.1 ha
  refine ⟨fun hspells => ?_, id⟩
  change p.endTag ∈ w.names at hspells
  rw [hnames] at hspells
  exact absurd hspells (by decide)

/-- A function that has the end tag for its name. The client takes its name for the end of the
response and reads nothing, and the end tag itself is left for the next response. -/
theorem frames_of_endTag_defined :
    let p : Protocol := ⟨"END".toList, 64⟩
    let d : Demand := .ok (.define [encode "END X".toList])
    let written := ((Session.fresh (encode "def\nEND X\nEND\n".toList) Workspace.empty).serve
      interpreter p).sink.accepted
    Reachable p Workspace.empty ∧ d.Received p ∧
      written = Sink.frame p "END".toList ∧
      (Lines.raw Bytes.lf written).countP (Sink.closes p) = 2 ∧
      Client.Response.readMany p.endTag 1 written = (.ok [⟨[]⟩], encode "END\n".toList) := by
  intro p d written
  have hreceived : d.Received p :=
    ⟨encode "def\nEND X\nEND\n".toList, encode "def\n".toList,
      [encode "END X\n".toList, encode "END\n".toList], [], by decide, by decide +kernel⟩
  have hwritten : written = Sink.frame p "END".toList := by decide +kernel
  have hread := Client.Response.read_frame (p := p) (by decide) (by decide) "END".toList []
  rw [List.append_nil] at hread
  have hshown : Client.Response.shown p.endTag "END".toList = [] := by decide
  have hleft : Client.Response.left p.endTag "END".toList = ["END".toList] := by decide
  refine ⟨.empty, hreceived, hwritten, ?_, ?_⟩
  · rw [hwritten]
    decide
  · rw [hwritten, Client.Response.readMany, hread, hshown, hleft]
    rfl

end Workspace
end DefinitionServer
