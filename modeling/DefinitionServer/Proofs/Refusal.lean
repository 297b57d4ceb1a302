import DefinitionServer.Client.Run
import DefinitionServer.Proofs.Redefinition
import DefinitionServer.Proofs.Replies

/-!
# Refusals that a client sees

A client has only the text of a response to tell whether the server has refused its request. What it
takes for a refusal begins like an error or, on one line, ends like a diagnostic. Names have neither
colons nor blanks, so no answer that is a name or a list of names is taken for one. A header has
blanks but no colons, so a source is taken for a refusal only if it is one row, and that row ends
like a diagnostic. Such a source is all that the client gets wrong.

## Main definitions

* `Workspace.Refuses`: the workspace refuses a demand.
* `Workspace.Misleads`: the answer to a demand is a source that ends like a diagnostic.
-/
namespace DefinitionServer

open Client (Response Outcome)
open Text.Utf8 (encode)

/-! ## What is taken for a refusal -/

namespace Client.Response

theorem isFailure_iff (body : Text) : isFailure ⟨body⟩ = true ↔
    "error:".toList <+: body ∨ ('\n' ∉ body ∧ " ERROR".toList <:+ body) := by
  simp [isFailure]

theorem isFailure_diagnostic (g : Diagnostic) : isFailure ⟨g.message⟩ = true := by
  cases g <;> decide

theorem isPrefix_errorBody (e : RequestError) : "error:".toList <+: Sink.errorBody e :=
  ⟨' ' :: e.message, rfl⟩

theorem isFailure_errorBody (e : RequestError) : isFailure ⟨Sink.errorBody e⟩ = true :=
  (isFailure_iff _).2 (.inl (isPrefix_errorBody e))

/-- Names are not taken for a refusal, in whatever number. -/
theorem not_isFailure_names {names : List Text} (h : ∀ name ∈ names, Name.isName name = true) :
    ¬ isFailure ⟨Text.join '\n' names⟩ = true := by
  have hstops : ∀ {c}, Name.continues c = false → c ≠ '\n' → c ∉ Text.join '\n' names := by
    intro c hc hlf hmem
    obtain ⟨name, hname, hmem⟩ := Text.mem_of_mem_join hmem hlf
    exact Name.notMem_of_stops (h name hname) hc hmem
  rw [isFailure_iff]
  rintro (herror | ⟨-, hdiagnostic⟩)
  · exact hstops (c := ':') (by decide +kernel) (by decide) (herror.subset (by decide))
  · exact hstops (c := ' ') (by decide +kernel) (by decide) (hdiagnostic.subset (by decide))

theorem not_isFailure_name {name : Text} (h : Name.isName name = true) :
    ¬ isFailure ⟨name⟩ = true := by
  have hname : ∀ n ∈ [name], Name.isName n = true := by simpa using h
  have hnames := not_isFailure_names hname
  rwa [Text.join_singleton] at hnames

end Client.Response

theorem Header.colon_notMem {line : Text} {h : Header} (hparse : parse line = .ok h) :
    ':' ∉ line :=
  (parse_eq_ok_iff.1 hparse).1.notMem (by decide +kernel) (by decide) (by decide) (by decide)
    (by decide)

namespace Definition

/-- A source is taken for a refusal exactly when it is one row that ends like a diagnostic. -/
theorem Stated.isFailure_iff {d : Definition} (h : d.Stated) :
    Response.isFailure ⟨Text.join '\n' d.rows⟩ = true ↔
      ∃ row, d.rows = [row] ∧ '\n' ∉ row ∧ " ERROR".toList <:+ row := by
  obtain ⟨first, body, hrows, hheader, -⟩ := h
  have hcolon := Header.colon_notMem hheader
  have hmem : ':' ∈ "error:".toList := by decide
  rw [Response.isFailure_iff, hrows]
  cases body with
  | nil =>
    have herror : ¬ "error:".toList <+: first := fun hbegins => hcolon (hbegins.subset hmem)
    rw [Text.join_singleton, or_iff_right herror]
    constructor
    · exact fun hends => ⟨first, rfl, hends⟩
    · rintro ⟨row, hrow, hends⟩
      obtain rfl := List.singleton_inj.1 hrow
      exact hends
  | cons row body =>
    rw [Text.join_cons_cons]
    refine iff_of_false ?_ (by simp)
    rintro (herror | ⟨hlf, -⟩)
    · -- the beginning of an error has no line feed, so it would begin the first row
      have hline : first ++ ['\n'] <+: first ++ '\n' :: Text.join '\n' (row :: body) := by
        simp [List.prefix_append_right_inj]
      rcases List.prefix_or_prefix_of_prefix herror hline with hbegins | hbegins
      · have hfirst := hbegins.subset hmem
        simp [hcolon] at hfirst
      · have hlf : '\n' ∈ "error:".toList := hbegins.subset (by simp)
        exact absurd hlf (by decide)
    · simp at hlf

end Definition

namespace Workspace

/-- The workspace refuses the demand: it is in error, its definition has a mistake, or there is no
such function. -/
def Refuses (w : Workspace) : Demand → Prop
  | .error _ => True
  | .ok (.define block) =>
    ∃ g, (w.define (.ofRows (block.map Text.Utf8.decodeLossy))).1 = .ok (.diagnostic g)
  | .ok (.function name) => w.source? name = none
  | .ok .functionList => False

/-- The demand is for the source of a function that has one row, and that row ends like a
diagnostic. -/
def Misleads (w : Workspace) : Demand → Prop
  | .ok (.function name) =>
    ∃ row, w.source? name = some (.ofRows [row]) ∧ " ERROR".toList <:+ row
  | _ => False

variable {p : Protocol} {w : Workspace} {d : Demand}

theorem not_misleads_of_refuses (h : w.Refuses d) : ¬ w.Misleads d := by
  match d, h with
  | .ok (.function name), h =>
    rintro ⟨row, hsource, -⟩
    exact Option.some_ne_none _ (hsource.symm.trans h)
  | .error _, _ => exact id
  | .ok (.define _), _ => exact id

/-- What a refusal says is a diagnostic or an error. -/
theorem reply_of_refuses (h : w.Refuses d) :
    (∃ g : Diagnostic, w.reply d = g.message) ∨ "error:".toList <+: w.reply d := by
  match d, h with
  | .error e, _ => exact .inr (Response.isPrefix_errorBody e)
  | .ok (.define block), ⟨g, hg⟩ =>
    rw [define_ofRows] at hg
    rw [reply]
    cases hrows : Definition.ofRows (block.map Text.Utf8.decodeLossy) with
    | ok f => simp [hrows] at hg
    | error e => exact .inl ⟨e, rfl⟩
  | .ok (.function name), h =>
    rw [Refuses, source?_eq, Option.map_eq_none_iff] at h
    rw [reply, h]
    exact .inl ⟨.valueError, rfl⟩

/-- The answer of a workspace is taken for a refusal exactly when it is one, or a source that
misleads. -/
theorem isFailure_reply_iff (hw : Reachable p w) (d : Demand) :
    Response.isFailure ⟨w.reply d⟩ = true ↔ w.Refuses d ∨ w.Misleads d := by
  match d with
  | .error e => exact iff_of_true (Response.isFailure_errorBody e) (.inl trivial)
  | .ok (.define block) =>
    change _ ↔ w.Refuses (.ok (.define block)) ∨ False
    rw [or_false, reply, Refuses, define_ofRows]
    cases hrows : Definition.ofRows (block.map Text.Utf8.decodeLossy) with
    | ok f =>
      have hname := (Definition.ofRows_eq_ok_iff.1 hrows).2.isName
      exact iff_of_false (Response.not_isFailure_name hname) (by simp)
    | error e => exact iff_of_true (Response.isFailure_diagnostic e) ⟨e, rfl⟩
  | .ok .functionList =>
    have hnames : ∀ name ∈ w.names, Name.isName name = true :=
      fun name hname => hw.wellFormed.isName_of_mem_names hname
    exact iff_of_false (Response.not_isFailure_names hnames) (by simp [Refuses, Misleads])
  | .ok (.function name) =>
    rw [reply, Refuses, Misleads, source?_eq]
    cases hf : w.find? name with
    | none => exact iff_of_true (Response.isFailure_diagnostic .valueError) (.inl rfl)
    | some f =>
      obtain ⟨-, hstated⟩ := hw.wellFormed.stated _ (mem_of_find? hf)
      obtain ⟨-, hsent⟩ := hw.sent _ (mem_of_find? hf)
      simp only [hstated.isFailure_iff]
      constructor
      · rintro ⟨row, hrows, -, hends⟩
        exact .inr ⟨row, by simp [hrows], hends⟩
      · rintro (hnone | ⟨row, hsource, hends⟩)
        · simp at hnone
        · have hrows := ofRows_injective (Option.some.inj hsource)
          exact ⟨row, hrows, hsent.lf_notMem row (by simp [hrows]), hends⟩

/-! ## The status of the client -/

theorem status_ofResponse (sent : Bytes) (r : Response) :
    (Outcome.ofResponse sent none r).status = 1 ↔ r.isFailure = true := by
  rw [Outcome.ofResponse]
  cases r.isFailure <;> simp [Client.accept]

/-- A client that can write what it shows ends with a failure exactly when its request is refused or
misleads, provided it gets the answer as it was sent. -/
theorem status_of_frame (hne : p.endTag ≠ []) (hcr : '\r' ∉ p.endTag) (hlf : '\n' ∉ p.endTag)
    (hw : Reachable p w) (hd : d.Received p) (hspells : ¬ w.Spells p.endTag d)
    (hreturn : ¬ w.ShowsReturn d) (sent rest : Bytes) :
    ∃ r, Response.read p.endTag (Sink.frame p (w.reply d) ++ rest) = (.ok r, rest) ∧
      ((Outcome.ofResponse sent none r).status = 1 ↔ w.Refuses d ∨ w.Misleads d) := by
  have hexact : Response.Exact p.endTag (w.reply d) := by
    rw [Response.exact_iff, exists_endTag_iff hw hd (meet_eq w d) hne,
      exists_return_iff hw hd (meet_eq w d)]
    exact ⟨hspells, hreturn⟩
  refine ⟨⟨w.reply d⟩, ?_, ?_⟩
  · rw [Response.read_frame hcr hlf, (Response.shown_eq_self hne _).2 hexact,
      Response.left_eq_nil hcr hlf hexact]
    rfl
  · rw [status_ofResponse, isFailure_reply_iff hw]

/-- The demands of a run are all answered. -/
theorem map_answered (ds : List Demand) (w : Workspace) :
    (interpreter.answered ds w).map (·.1) = ds := by
  induction ds generalizing w with
  | nil => rfl
  | cons d ds ih => rw [Interpreter.answered, meet_eq, List.map_cons, ih]

/-- What holds of every demand, the workspace that it finds and its answer holds along a run. -/
theorem forall₂_answered {R : Demand × Workspace → Text → Prop} {ds : List Demand}
    (hw : Reachable p w) (hds : ∀ d ∈ ds, d.Received p)
    (h : ∀ d u, Reachable p u → R (d, u) (u.reply d)) :
    List.Forall₂ R (interpreter.answered ds w) (w.replies ds) := by
  induction ds generalizing w with
  | nil => exact .nil
  | cons d ds ih =>
    have hmet := hw.met (hds d List.mem_cons_self)
    rw [Interpreter.answered, meet_eq, replies]
    rw [meet_eq] at hmet
    exact .cons (h d w hw) (ih hmet fun d hd => hds d (List.mem_cons_of_mem _ hd))

/-- **A client can tell a refusal, but for sources of one row that end like a diagnostic.** What a
workspace that received demands lead to answers to a demand is taken for a refusal exactly when it
is one, or when it is such a source. A refusal says a diagnostic or an error. So names and lists of
names are never taken for refusals, nor are sources of several rows. On a connection this holds of
every body that is written. -/
theorem refusals_of_reachable (hp : p.maxBlockBytes ≤ Shape.maxVolume) (hw : Reachable p w) :
    (∀ d, ∃ body, interpreter.meet d w = (.ok body, w.next d) ∧
      (Response.isFailure ⟨body⟩ = true ↔ w.Refuses d ∨ w.Misleads d) ∧
      (w.Refuses d → ¬ w.Misleads d ∧
        ((∃ g : Diagnostic, body = g.message) ∨ "error:".toList <+: body))) ∧
    ∀ input,
      let answered := interpreter.answered (Session.asked p input) w
      ∃ bodies, ((Session.fresh input w).serve interpreter p).sink.accepted =
          bodies.flatMap (Sink.frame p) ∧
        answered.map (·.1) = Session.asked p input ∧
        List.Forall₂
          (fun a body => Response.isFailure ⟨body⟩ = true ↔ a.2.Refuses a.1 ∨ a.2.Misleads a.1)
          answered bodies := by
  refine ⟨fun d => ?_, fun input => ?_⟩
  · refine ⟨w.reply d, meet_eq w d, isFailure_reply_iff hw d, fun hrefuses => ?_⟩
    exact ⟨not_misleads_of_refuses hrefuses, reply_of_refuses hrefuses⟩
  · intro answered
    refine ⟨w.replies (Session.asked p input), ?_, ?_, ?_⟩
    · rw [Session.accepted_serve_fresh hp, (run_eq _ w).1]
    · exact map_answered _ w
    · apply forall₂_answered hw
      · exact fun d hd => Demand.received_of_mem (List.suffix_refl _) hd
      · exact fun d u hu => isFailure_reply_iff hu d

/-- A function of one row is shown as it is, and one that there is not is refused. -/
theorem refusals_of_defined :
    let p : Protocol := ⟨"END".toList, 64⟩
    let w := (interpreter.meet (.ok (.define [encode "F X".toList])) empty).2
    p.maxBlockBytes ≤ Shape.maxVolume ∧ Reachable p w ∧
      (interpreter.meet (.ok (.function "F".toList)) w).1 = .ok "F X".toList ∧
      ¬ Response.isFailure ⟨"F X".toList⟩ = true ∧
      (interpreter.meet (.ok (.function "G".toList)) w).1 = .ok "VALUE ERROR".toList ∧
      Response.isFailure ⟨"VALUE ERROR".toList⟩ = true := by
  intro p w
  have hp : p.maxBlockBytes ≤ Shape.maxVolume := by decide
  have hreceived : Demand.Received p (.ok (.define [encode "F X".toList])) :=
    ⟨encode "def\nF X\nEND\n".toList, encode "def\n".toList,
      [encode "F X\n".toList, encode "END\n".toList], [], by decide, by decide +kernel⟩
  have hw : Reachable p w := Reachable.empty.met hreceived
  obtain ⟨hdemand, -⟩ := refusals_of_reachable hp hw
  have hshown : (interpreter.meet (.ok (.function "F".toList)) w).1 = .ok "F X".toList := by
    decide +kernel
  have hunknown : (interpreter.meet (.ok (.function "G".toList)) w).1 =
      .ok "VALUE ERROR".toList := by
    decide +kernel
  have hsource : w.source? "F".toList = some (.ofRows ["F X".toList]) := by decide +kernel
  refine ⟨hp, hw, hshown, ?_, hunknown, ?_⟩
  · obtain ⟨body, hbody, htold, -⟩ := hdemand (.ok (.function "F".toList))
    rw [hbody] at hshown
    obtain rfl := Except.ok.inj hshown
    rw [htold]
    rintro (hrefuses | ⟨row, hrow, hends⟩)
    · rw [Refuses, hsource] at hrefuses
      exact Option.some_ne_none _ hrefuses
    · rw [hsource] at hrow
      obtain rfl := List.singleton_inj.1 (ofRows_injective (Option.some.inj hrow))
      exact absurd hends (by decide)
  · obtain ⟨body, hbody, htold, -⟩ := hdemand (.ok (.function "G".toList))
    rw [hbody] at hunknown
    obtain rfl := Except.ok.inj hunknown
    have hnone : w.source? "G".toList = none := by decide +kernel
    exact htold.2 (.inl hnone)

/-- A function of the right argument `ERROR`, without further rows. Its source is shown, and taken
for a refusal. -/
theorem not_refusal_of_error_row :
    let p : Protocol := ⟨"END".toList, 64⟩
    let w := (interpreter.meet (.ok (.define [encode "F ERROR".toList])) empty).2
    let d : Demand := .ok (.function "F".toList)
    Reachable p w ∧ Session.asked p (encode "fn:F\n".toList) = [d] ∧
      w.source? "F".toList = some (.ofRows ["F ERROR".toList]) ∧ ¬ w.Refuses d ∧
      ((Session.fresh (encode "fn:F\n".toList) w).serve interpreter p).sink.accepted =
        Sink.frame p "F ERROR".toList ∧
      Response.isFailure ⟨"F ERROR".toList⟩ = true ∧
      (Outcome.ofResponse (encode "fn:F\n".toList) none ⟨"F ERROR".toList⟩).status = 1 := by
  intro p w d
  have hreceived : Demand.Received p (.ok (.define [encode "F ERROR".toList])) :=
    ⟨encode "def\nF ERROR\nEND\n".toList, encode "def\n".toList,
      [encode "F ERROR\n".toList, encode "END\n".toList], [], by decide, by decide +kernel⟩
  have hsource : w.source? "F".toList = some (.ofRows ["F ERROR".toList]) := by decide +kernel
  refine ⟨Reachable.empty.met hreceived, by decide +kernel, hsource, ?_, by decide +kernel,
    by decide, by decide⟩
  rw [Refuses, hsource]
  exact Option.some_ne_none _

end Workspace
end DefinitionServer
