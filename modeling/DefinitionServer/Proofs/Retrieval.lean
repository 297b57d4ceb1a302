import DefinitionServer.Proofs.Asking
import DefinitionServer.Proofs.DefineLine
import DefinitionServer.Proofs.Framing

/-!
# Asking for a function that was sent

A function that was sent in a block comes back in answer to a line with its name, row by row, until
it is defined anew. For the name to be found again, the line has to say it as it is: a name has no
colon, at which the line would be parted, and no blank, which would be trimmed.

## Main definitions

* `Demand.Defines`: the demand defines the name.
* `Workspace.Meanwhile`: demands that define other names lead to the workspace.
* `Session.Recalls`: the next command of a session, if it asks for the name, is answered with rows.
-/
namespace DefinitionServer

open Text.Utf8 (encode decodeLossy)

/-! ## Names on a command line -/

namespace Demand

variable {p : Protocol} {line : Bytes} {ls after : List Bytes}

/-- A line that asks something is not blank. -/
theorem not_blank_of_query {q : Query} (h : ofLine p line ls = .ok (.ok q, after)) :
    line.all Source.isSpace = false := by
  cases hall : line.all Source.isSpace with
  | false => rfl
  | true =>
    have hspace := List.all_eq_true.1 hall
    have hline : line = encode (line.map Text.Utf8.asciiChar) :=
      (Text.Utf8.encode_map_asciiChar fun b hb =>
        (CommandLine.isBlank_of_isSpace (hspace b hb)).1).symm
    have htrim : Text.trim (line.map Text.Utf8.asciiChar) = [] := by
      rw [Text.trim, Text.trimStart, List.dropWhile_eq_nil_iff.2 fun c hc =>
        CommandLine.isBlank_of_mem_map hspace hc]
      rfl
    have hparse : CommandLine.parse line = .error (.malformed "empty command name".toList) := by
      rw [hline, CommandLine.parse, Text.Utf8.decode?_encode]
      simp only [htrim]
      rfl
    rw [ofLine, hparse] at h
    simp at h

variable (p) (ls)

/-- The line for a function asks for the function of that name. -/
theorem ofLine_fn {name : Text} (h : Name.isName name = true) :
    ofLine p (encode ("fn:".toList ++ name)) ls = .ok (.ok (.function name), ls) := by
  have hcolon : ':' ∉ name := Name.notMem_of_stops h (by decide +kernel)
  have htrim : Text.trim name = name := Text.trim_of_notBlank fun c hc =>
    Name.isBlank_of_continues (Name.continues_of_mem h hc)
  have hcommand : Command.parse ⟨"fn".toList, (Text.trimEnd name).splitOn ':'⟩ =
      .ok (.function name) := by
    rw [Command.parse_fn, Command.ofName, htrim, if_neg]
    simp [hcolon, Name.ne_nil h]
  simp only [ofLine, CommandLine.parse_fn, CommandLine.demand, hcommand]

theorem ofLine_fnlist : ofLine p (encode "fnlist".toList) ls = .ok (.ok .functionList, ls) := by
  have hparse : CommandLine.parse (encode "fnlist".toList) = .ok ⟨"fnlist".toList, []⟩ := by
    decide +kernel
  have hcommand : Command.parse ⟨"fnlist".toList, []⟩ = .ok .functionList := by decide +kernel
  simp only [ofLine, hparse, CommandLine.demand, hcommand]

/-- The demand defines the name. -/
def Defines (name : Text) (w : Workspace) : Demand → Prop
  | .ok (.define block) =>
    (w.define (.ofRows (block.map decodeLossy))).1 = .ok (.defined name)
  | _ => False

instance (name : Text) (w : Workspace) : (d : Demand) → Decidable (d.Defines name w)
  | .ok (.define _) => inferInstanceAs (Decidable (_ = _))
  | .ok (.function _) => isFalse id
  | .ok .functionList => isFalse id
  | .error _ => isFalse id

end Demand

/-! ## What is kept of a name meanwhile -/

namespace Definition

/-- A row is kept as it is unless it is the first and a del opens it. -/
theorem getElem?_kept {rows : List Text} {i : Nat} {row : Text} (hrow : rows[i]? = some row)
    (hi : i < (kept rows).length) (h : i = 0 → (Text.trimStart row).head? ≠ some '∇') :
    (kept rows)[i]? = some row := by
  have hprefix := withoutClosingDel_isPrefix rows
  rw [kept] at hi ⊢
  cases hrows : withoutClosingDel rows with
  | nil => simp [hrows] at hi
  | cons first body =>
    rw [hrows] at hi hprefix
    obtain ⟨after, rfl⟩ := hprefix
    rw [List.modifyHead_cons]
    cases i with
    | zero =>
      obtain rfl : first = row := Option.some.inj hrow
      rw [List.getElem?_cons_zero, withoutOpeningDel_eq, if_neg (h rfl)]
    | succ i =>
      have hi : i < body.length := by simpa using hi
      rwa [List.cons_append, List.getElem?_cons_succ, List.getElem?_append_left hi] at hrow

end Definition

namespace Workspace

/-- From the first workspace, demands on whatever connections lead to the second, and none of them
defines the name. -/
inductive Meanwhile (name : Text) (u : Workspace) : Workspace → Prop
  | start : Meanwhile name u u
  | met {w : Workspace} (h : Meanwhile name u w) (d : Demand) (hd : ¬ d.Defines name w) :
    Meanwhile name u (interpreter.meet d w).2

variable {name : Text} {u w : Workspace}

/-- A demand that does not define the name leaves its function. -/
theorem find?_meet {d : Demand} (hd : ¬ d.Defines name w) :
    (interpreter.meet d w).2.find? name = w.find? name := by
  match d, hd with
  | .error e, _ => rfl
  | .ok (.function n), _ => rfl
  | .ok .functionList, _ => rfl
  | .ok (.define block), hd =>
    rw [Demand.Defines] at hd
    rw [meet_define]
    rcases define_cases w (.ofRows (block.map decodeLossy)) with ⟨d, -, hdefine⟩ | ⟨-, hsame⟩
    · rw [hdefine] at hd ⊢
      rw [find?_insert, if_neg]
      rintro rfl
      exact hd rfl
    · rw [hsame]

theorem Meanwhile.find?_eq (h : Meanwhile name u w) : w.find? name = u.find? name := by
  induction h with
  | start => rfl
  | met _ d hd ih => rw [find?_meet hd, ih]

theorem Meanwhile.wellFormed (h : Meanwhile name u w) (hu : WellFormed u) : WellFormed w := by
  induction h with
  | start => exact hu
  | met _ d _ ih => exact ih.meet d

/-- A demand that ends in a fault defines nothing. -/
theorem not_defines_of_fault {d : Demand} {f : Fault} {v : Workspace}
    (h : interpreter.meet d w = (.error f, v)) : ¬ d.Defines name w := by
  rcases d with e | ⟨block | n | _⟩
  · exact id
  · intro hdefines
    rw [Demand.Defines] at hdefines
    rw [meet_define, hdefines] at h
    simp [Except.map] at h
  · exact id
  · exact id

/-- A run of demands of which none that is answered defines the name. -/
theorem Meanwhile.run {ds : List Demand} (h : Meanwhile name u w)
    (hds : ∀ a ∈ interpreter.answered ds w, ¬ a.1.Defines name a.2) :
    Meanwhile name u (interpreter.run ds w).state := by
  induction ds generalizing w with
  | nil => exact h
  | cons d ds ih =>
    rw [Interpreter.run]
    rw [Interpreter.answered] at hds
    rcases hm : interpreter.meet d w with ⟨f | body, v⟩ <;> rw [hm] at hds
    · have hmet := h.met d (not_defines_of_fault hm)
      rwa [hm] at hmet
    · have hmet := h.met d (hds _ List.mem_cons_self)
      rw [hm] at hmet
      exact ih hmet fun a ha => hds a (List.mem_cons_of_mem _ ha)

/-- A whole connection of which no answered demand defines the name. -/
theorem Meanwhile.serve {p : Protocol} (hp : p.maxBlockBytes ≤ Shape.maxVolume)
    (h : Meanwhile name u w) {input : Bytes}
    (hdemands : ∀ a ∈ interpreter.answered
      (Conversation.ofLines p (Lines.raw Bytes.lf input)).demands w, ¬ a.1.Defines name a.2) :
    Meanwhile name u ((Session.fresh input w).serve interpreter p).state := by
  rw [(Session.serve_of_sound hp (Session.sound_fresh input w)).2]
  exact h.run hdemands

/-- The answer for all functions has a line for each that is there, and one only. -/
theorem count_lines_names (hw : WellFormed w) (h : name ∈ w.names) :
    (Text.join '\n' w.names).lines.count name = 1 := by
  rcases lines_of_names hw with hlines | ⟨hnil, -⟩
  · rw [hlines, hw.count_names h]
  · simp [hnil] at h

end Workspace

/-! ## The answers -/

namespace Session

open Workspace (interpreter Meanwhile WellFormed)

variable {p : Protocol} {s t : Session Workspace} {name : Text}

/-- If the next line that is not blank asks for the function of the name, it is answered with the
rows, and if it asks for all functions, it is answered with a list that has the name once. The
workspace stays. -/
def Recalls (p : Protocol) (t : Session Workspace) (name : Text) (rows : List Text) : Prop :=
  ∀ blanks m ms, (∀ b ∈ blanks, p.PassesOver b) → t.source.lines = blanks ++ m :: ms →
    m.length ≤ p.maxBlockBytes →
    (Bytes.content m = encode ("fn:".toList ++ name) →
      t.Continues interpreter p ms (Text.join '\n' rows) t.state) ∧
    (Bytes.content m = encode "fnlist".toList →
      t.Continues interpreter p ms (Text.join '\n' t.state.names) t.state ∧
        (Text.join '\n' t.state.names).lines.count name = 1)

theorem recalls_of_find? (hp : p.maxBlockBytes ≤ Shape.maxVolume) (ht : t.Sound)
    (hw : WellFormed t.state) {d : Definition} (h : t.state.find? name = some d) :
    Recalls p t name d.rows := by
  have hmem : name ∈ t.state.names := by
    rw [Workspace.mem_names_iff, h]
    rfl
  intro blanks m ms hblanks hm hfit
  constructor
  · intro hfn
    have hask := Demand.ofLine_fn p ms (hw.isName_of_mem_names hmem)
    rw [← hfn] at hask
    have hmeet : interpreter.meet (.ok (.function name)) t.state =
        (.ok (Text.join '\n' d.rows), t.state) := by
      rw [Workspace.meet_function, h]
    exact continues_of_met hp ht hblanks hm hfit (Demand.not_blank_of_query hask) hask hmeet
  · intro hfnlist
    have hask := Demand.ofLine_fnlist p ms
    rw [← hfnlist] at hask
    exact ⟨continues_of_met hp ht hblanks hm hfit (Demand.not_blank_of_query hask) hask rfl,
      Workspace.count_lines_names hw hmem⟩

variable {l : Bytes} {blanks ls after block : List Bytes}

/-- **A function comes back as it was sent.** When a block is answered with a name, any later line
for the name is answered with the lines of the block, less a closing del and an opening one, and any
later line for all functions lists the name once, as long as no demand in between defines it anew.
The line may come on any connection, and blank lines may stand before it and before the line that
opened the block. Lines of the block that are UTF-8 come back byte for byte. -/
theorem recalls_of_define (hp : p.maxBlockBytes ≤ Shape.maxVolume) (hs : s.Sound)
    {vs : List Value} (hw : s.state = Workspace.empty.after vs)
    (hblanks : ∀ b ∈ blanks, p.PassesOver b) (hlines : s.source.lines = blanks ++ l :: ls)
    (hfit : l.length ≤ p.maxBlockBytes)
    (hd : Demand.ofLine p (Bytes.content l) ls = .ok (.ok (.define block), after))
    (hname : (s.state.define (.ofRows (block.map decodeLossy))).1 = .ok (.defined name)) :
    let u := (s.state.define (.ofRows (block.map decodeLossy))).2
    let rows := Definition.kept (block.map decodeLossy)
    s.Continues interpreter p after name u ∧
    (∀ t : Session Workspace, t.Sound → Meanwhile name u t.state → t.Recalls p name rows) ∧
    (Text.join '\n' rows).lines = rows ∧
    ∀ i line, block[i]? = some line → i < rows.length →
      (i = 0 → (Text.trimStart (decodeLossy line)).head? ≠ some '∇') →
      (∃ text, Text.Utf8.decode? line = .ok text) → rows[i]?.map encode = some line := by
  intro u rows
  have hdefine : s.state.define (.ofRows (block.map decodeLossy)) = (.ok (.defined name), u) :=
    Prod.ext hname rfl
  obtain ⟨d, hdefined, hheader, hu⟩ := Workspace.exists_of_define_eq_defined hdefine
  rw [Definition.given_ofRows] at hdefined
  have hrows : d.rows = rows := (Definition.ofRows_eq_ok_iff.1 hdefined).1
  refine ⟨?_, fun t ht hmean => ?_, ?_, ?_⟩
  · have hmeet : interpreter.meet (.ok (.define block)) s.state = (.ok name, u) := by
      rw [Workspace.meet_define, hname]
      rfl
    exact continues_of_met hp hs hblanks hlines hfit (Demand.not_blank_of_query hd) hd hmeet
  · have hwell : WellFormed s.state := hw ▸ Workspace.wellFormed_after vs
    have hfound : t.state.find? name = some d := by
      rw [hmean.find?_eq, hu, Workspace.find?_insert, if_pos rfl]
    exact hrows ▸ recalls_of_find? hp ht (hmean.wellFormed (hwell.define _)) hfound
  · have hsuffix : l :: ls <:+ Lines.raw Bytes.lf s.source.unread := ⟨blanks, hlines.symm⟩
    have hreceived : Demand.Received p (.ok (.define block)) :=
      ⟨(l :: ls).flatten, l, ls, after, Lines.raw_flatten_of_suffix hsuffix, hd⟩
    exact hrows ▸ (Definition.sent_of_received hreceived hdefined).lines_rows
  · rintro i line hline hi hopen ⟨text, htext⟩
    have hrow : (block.map decodeLossy)[i]? = some (decodeLossy line) := by
      rw [List.getElem?_map, hline, Option.map_some]
    rw [Definition.getElem?_kept hrow hi hopen, Option.map_some,
      Text.Utf8.decode?_eq_ok_iff.1 htext, Text.Utf8.decodeLossy_encode]

/-- One client defines a function, another client another one, and a third asks for the first. The
first and the third send a blank line before that. -/
theorem recalls_of_define_connections :
    let p : Protocol := ⟨"END".toList, 64⟩
    let block := ["∇F X".toList, "L:→0".toList, "∇".toList].map encode
    let u := (Workspace.empty.define (.ofRows (block.map decodeLossy))).2
    let w := ((fresh (encode "def\nG\nEND\n".toList) u).serve interpreter p).state
    p.maxBlockBytes ≤ Shape.maxVolume ∧
      (fresh (encode "\r\ndef\n∇F X\nL:→0\n∇\nEND\n".toList) Workspace.empty).Continues
        interpreter p [] "F".toList u ∧
      (fresh (encode " \nfn:F\n".toList) w).Continues interpreter p []
        (Text.join '\n' ["F X".toList, "L:→0".toList]) w := by
  intro p block u w
  let s : Session Workspace :=
    fresh (encode "\r\ndef\n∇F X\nL:→0\n∇\nEND\n".toList) Workspace.empty
  have hp : p.maxBlockBytes ≤ Shape.maxVolume := by decide
  have hblank : ∀ b ∈ [encode "\r\n".toList], p.PassesOver b := by decide
  have hlines : s.source.lines = [encode "\r\n".toList] ++ encode "def\n".toList ::
      ["∇F X\n", "L:→0\n", "∇\n", "END\n"].map fun line => encode line.toList := by
    decide +kernel
  have hd : Demand.ofLine p (Bytes.content (encode "def\n".toList))
      (["∇F X\n", "L:→0\n", "∇\n", "END\n"].map fun line => encode line.toList) =
        .ok (.ok (.define block), []) := by
    decide +kernel
  have hname : (s.state.define (.ofRows (block.map decodeLossy))).1 =
      .ok (.defined "F".toList) := by
    decide +kernel
  have hs : s.Sound := sound_fresh _ _
  have hw : s.state = Workspace.empty.after [] := rfl
  have hfit : (encode "def\n".toList).length ≤ p.maxBlockBytes := by decide
  obtain ⟨hanswer, hrecalls, -, -⟩ := recalls_of_define hp hs hw hblank hlines hfit hd hname
  have hother : ∀ a ∈ interpreter.answered (Conversation.ofLines p
      (Lines.raw Bytes.lf (encode "def\nG\nEND\n".toList))).demands u,
      ¬ a.1.Defines "F".toList a.2 := by
    decide +kernel
  have hmean : Meanwhile "F".toList u w := Meanwhile.start.serve hp hother
  have hblank' : ∀ b ∈ [encode " \n".toList], p.PassesOver b := by decide
  obtain ⟨hfn, -⟩ := hrecalls (fresh (encode " \nfn:F\n".toList) w) (sound_fresh _ _) hmean
    [encode " \n".toList] (encode "fn:F\n".toList) [] hblank' (by decide +kernel) (by decide)
  have hrows : Definition.kept (block.map decodeLossy) = ["F X".toList, "L:→0".toList] := by
    decide +kernel
  rw [hrows] at hfn
  exact ⟨hp, hanswer, hfn (by decide)⟩

end Session
end DefinitionServer
