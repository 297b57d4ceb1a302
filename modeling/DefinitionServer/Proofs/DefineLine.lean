import DefinitionServer.Proofs.Serving
import DefinitionServer.Proofs.Trim
import DefinitionServer.Proofs.Utf8
import DefinitionServer.Workspace.Interpreter

/-!
# Lines that open a definition

A line whose bytes before the first colon spell `def` opens a definition, and the lines after it,
through the next end tag, are that definition's block. Such a line is answered with its block taken
off the stream, whether the definition is accepted or rejected, as long as the line is UTF-8. The
command of a line that is not is never looked at, and then the block stands where the next command
is expected.

## Main definitions

* `CommandLine.SpellsDefine`: the line opens a definition, as its bytes say.
* `Session.TakesBlock`: the request was read with its block and had one response or none.
-/
namespace DefinitionServer

namespace CommandLine

/-- The byte of a colon. -/
def colon : UInt8 := 58

/-- What a line says before its first colon, or all of it when it has none, without the ASCII white
space around it. -/
def head (line : Bytes) : Bytes :=
  (((line.takeWhile (· ≠ colon)).dropWhile Source.isSpace).reverse.dropWhile Source.isSpace).reverse

/-- The lower-case form of an ASCII letter. Any other byte stays. -/
def lower (b : UInt8) : UInt8 := if 65 ≤ b ∧ b ≤ 90 then b + 32 else b

/-- Before its first colon the line has the name of the command that defines, in letters of any
case. -/
def SpellsDefine (line : Bytes) : Prop :=
  (head line).map lower = Text.Utf8.encode Command.defineName

instance (line : Bytes) : Decidable (SpellsDefine line) :=
  inferInstanceAs (Decidable (_ = _))

theorem eq_or_eq_of_lower {b n : UInt8} (h : lower b = n) : b = n ∨ b = n - 32 := by
  rw [lower] at h
  split at h <;> grind

theorem isBlank_of_isSpace {b : UInt8} (h : Source.isSpace b = true) :
    b.toNat < 0x80 ∧ Text.isBlank (Text.Utf8.asciiChar b) = true := by
  simp only [Source.isSpace, Bool.or_eq_true, decide_eq_true_eq] at h
  rcases h with (((rfl | rfl) | rfl) | rfl) | rfl <;> decide

/-- The three letters of the name, each in one of two cases. -/
theorem head_cases {line : Bytes} (h : SpellsDefine line) : ∃ d e f : UInt8,
    head line = [d, e, f] ∧ (d = 100 ∨ d = 68) ∧ (e = 101 ∨ e = 69) ∧ (f = 102 ∨ f = 70) := by
  have hname : Text.Utf8.encode Command.defineName = [100, 101, 102] := by decide
  rw [SpellsDefine, hname] at h
  obtain ⟨d, ds, hline, hd, h⟩ := List.map_eq_cons_iff.1 h
  obtain ⟨e, es, rfl, he, h⟩ := List.map_eq_cons_iff.1 h
  obtain ⟨f, fs, rfl, hf, h⟩ := List.map_eq_cons_iff.1 h
  rw [List.map_eq_nil_iff.1 h] at hline
  exact ⟨d, e, f, hline, eq_or_eq_of_lower hd, eq_or_eq_of_lower he, eq_or_eq_of_lower hf⟩

theorem isBlank_of_mem_map {bs : Bytes} (h : ∀ b ∈ bs, Source.isSpace b = true) {c : Char}
    (hc : c ∈ bs.map Text.Utf8.asciiChar) : Text.isBlank c = true := by
  obtain ⟨b, hb, rfl⟩ := List.mem_map.1 hc
  exact (isBlank_of_isSpace (h b hb)).2

/-- Before its first colon, a text that spells the name has it between blanks. -/
theorem takeWhile_of_spellsDefine {t : Text} (h : SpellsDefine (Text.Utf8.encode t)) :
    ∃ before name after : Text, t.takeWhile (· ≠ ':') = before ++ name ++ after ∧
      (∀ c ∈ before, Text.isBlank c = true) ∧ (∀ c ∈ after, Text.isBlank c = true) ∧
      Text.toLower (Text.trim name) = Command.defineName := by
  obtain ⟨d, e, f, hhead, hd, he, hf⟩ := head_cases h
  have hletters : ∀ b ∈ [d, e, f], b.toNat < 0x80 := by
    rcases hd with rfl | rfl <;> rcases he with rfl | rfl <;> rcases hf with rfl | rfl <;> simp
  obtain ⟨before, after, hbytes, hb, ha⟩ := Text.exists_trimmed Source.isSpace
    ((Text.Utf8.encode t).takeWhile (· ≠ colon))
  change _ = before ++ head (Text.Utf8.encode t) ++ after at hbytes
  rw [hhead] at hbytes
  refine ⟨before.map Text.Utf8.asciiChar, [d, e, f].map Text.Utf8.asciiChar,
    after.map Text.Utf8.asciiChar, ?_, fun c => isBlank_of_mem_map hb,
    fun c => isBlank_of_mem_map ha, ?_⟩
  · apply Text.Utf8.encode_injective
    rw [← Text.Utf8.takeWhile_encode_ascii (by decide), ← List.map_append, ← List.map_append,
      Text.Utf8.encode_map_asciiChar]
    · exact hbytes
    · intro b hmem
      rcases List.mem_append.1 hmem with hmem | hmem
      · rcases List.mem_append.1 hmem with hmem | hmem
        · exact (isBlank_of_isSpace (hb b hmem)).1
        · exact hletters b hmem
      · exact (isBlank_of_isSpace (ha b hmem)).1
  · rcases hd with rfl | rfl <;> rcases he with rfl | rfl <;> rcases hf with rfl | rfl <;>
      decide +kernel

/-- A text that spells the name has it as its command. -/
theorem parse_of_spellsDefine {t : Text} (h : SpellsDefine (Text.Utf8.encode t)) :
    ∃ arguments, CommandLine.parse (Text.Utf8.encode t) = .ok ⟨Command.defineName, arguments⟩ := by
  obtain ⟨before, name, after, htext, hb, ha, hlower⟩ := takeWhile_of_spellsDefine h
  have hname : Text.toLower (Text.trim (((Text.trim t).splitOn ':').headD [])) =
      Command.defineName := by
    rw [Text.trim_headD_splitOn_trim (by decide), htext, Text.trim_append_of_blank hb ha, hlower]
  refine ⟨((Text.trim t).splitOn ':').tail, ?_⟩
  simp only [CommandLine.parse, Text.Utf8.decode?_encode, hname]
  rfl

end CommandLine

/-! ## The demand of such a line -/

namespace Demand

variable (p : Protocol) {line : Bytes} (ls : List Bytes)

/-- The demand asks for a definition with the lines of the block, or is in error. -/
def OfBlock (block : List Bytes) (d : Demand) : Prop :=
  d = .ok (.define block) ∨ ∃ e, d = .error e

/-- A text that opens a definition makes a demand of its block. -/
theorem ofLine_of_spellsDefine {t : Text} (h : CommandLine.SpellsDefine (Text.Utf8.encode t)) :
    match Block.read p ls with
    | .ok (block, after) =>
      ∃ d, Demand.ofLine p (Text.Utf8.encode t) ls = .ok (d, after) ∧ OfBlock block d
    | .error e => Demand.ofLine p (Text.Utf8.encode t) ls = .error (.fails e) := by
  obtain ⟨arguments, hparse⟩ := CommandLine.parse_of_spellsDefine h
  have hline : Demand.ofLine p (Text.Utf8.encode t) ls =
      CommandLine.demand p ⟨Command.defineName, arguments⟩ ls := by
    rw [Demand.ofLine, hparse]
  rw [hline, CommandLine.demand]
  have hcommand : Command.parse ⟨Command.defineName, arguments⟩ = .ok .define ∨
      ∃ e, Command.parse ⟨Command.defineName, arguments⟩ = .error e := by
    rw [Command.parse, if_pos rfl, Command.bare]
    split
    · exact .inl rfl
    · exact .inr ⟨_, rfl⟩
  rcases hcommand with hc | ⟨e, hc⟩ <;> simp only [hc]
  · rcases Block.read p ls with e | ⟨block, after⟩
    · rfl
    · exact ⟨_, rfl, .inl rfl⟩
  · rcases Block.read p ls with e | ⟨block, after⟩
    · rfl
    · exact ⟨_, rfl, .inr ⟨_, rfl⟩⟩

/-- Bytes that are no text are a demand on their own. -/
theorem ofLine_of_not_text (h : ∀ t, line ≠ Text.Utf8.encode t) :
    ∃ message, Demand.ofLine p line ls = .ok (.error (.malformed message), ls) := by
  cases hd : Text.Utf8.decode? line with
  | ok t => exact absurd (Text.Utf8.decode?_eq_ok_iff.1 hd) (h t)
  | error fault =>
    refine ⟨"invalid UTF-8: ".toList ++ fault.message, ?_⟩
    simp only [Demand.ofLine, CommandLine.parse, hd]

end Demand

/-! ## Serving such a line -/

theorem CommandLine.SpellsDefine.not_blank {line : Bytes} (h : SpellsDefine line) :
    line.all Source.isSpace = false := by
  obtain ⟨d, e, f, hhead, hd, -, -⟩ := head_cases h
  obtain ⟨before, after, hbytes, -, -⟩ := Text.exists_trimmed Source.isSpace
    (line.takeWhile (· ≠ colon))
  change _ = before ++ head line ++ after at hbytes
  rw [hhead] at hbytes
  have hmem : d ∈ line :=
    (List.takeWhile_prefix (· ≠ colon)).subset (hbytes ▸ by simp : d ∈ line.takeWhile (· ≠ colon))
  rw [List.all_eq_false]
  refine ⟨d, hmem, ?_⟩
  rcases hd with rfl | rfl <;> decide

namespace Session

variable {σ : Type} {I : Interpreter σ} {p : Protocol} {s : Session σ} {l : Bytes}
  {blanks ls : List Bytes}

/-- The request with the block at the head of the given lines is answered with one frame, and the
lines after the block are next; or the connection ends with nothing written. It ends so when the
block cannot be read. -/
def TakesBlock (I : Interpreter σ) (p : Protocol) (s : Session σ) (ls : List Bytes) : Prop :=
  match Block.read p ls with
  | .ok (block, after) => ∃ d, d.OfBlock block ∧
    match I.meet d s.state with
    | (.ok body, u) => Continues I p s after body u
    | (.error _, u) => Closes I p s u
  | .error _ => Closes I p s s.state

theorem not_closes_of_continues {after : List Bytes} {body : Text} {u v : σ}
    (h : Continues I p s after body u) : ¬ Closes I p s v := by
  obtain ⟨t, ht, -⟩ := h
  exact not_closes_of_round ht

/-- A request after which all the lines are next has not taken a block off them. -/
theorem not_takesBlock_of_continues {body : Text} {u : σ} (h : Continues I p s ls body u) :
    ¬ TakesBlock I p s ls := by
  intro htakes
  rw [TakesBlock] at htakes
  split at htakes
  · rename_i block after hread
    obtain ⟨d, -, hd⟩ := htakes
    split at hd
    · obtain ⟨t, ht, -, hlines, -⟩ := h
      obtain ⟨t', ht', -, hlines', -⟩ := hd
      rw [ht] at ht'
      rw [← (Prod.mk.inj ht').2, hlines] at hlines'
      have := Block.after_length_lt hread
      rw [hlines'] at this
      omega
    · exact not_closes_of_continues h hd
  · exact not_closes_of_continues h htakes

/-- A text that opens a definition is answered with its block. -/
theorem takesBlock_of_text (hp : p.maxBlockBytes ≤ Shape.maxVolume) (hs : s.Sound)
    (hblanks : ∀ b ∈ blanks, p.PassesOver b) (h : s.source.lines = blanks ++ l :: ls)
    (hfit : l.length ≤ p.maxBlockBytes)
    (hl : CommandLine.SpellsDefine (Bytes.content l)) {t : Text}
    (ht : Bytes.content l = Text.Utf8.encode t) : TakesBlock I p s ls := by
  have hblank := hl.not_blank
  have hdemand := Demand.ofLine_of_spellsDefine p ls (ht ▸ hl)
  rw [← ht] at hdemand
  rw [TakesBlock]
  rcases hread : Block.read p ls with e | ⟨block, after⟩ <;> rw [hread] at hdemand
  · exact closes_of_ending hs hblanks h hfit hblank hdemand
  · obtain ⟨d, hd, hblock⟩ := hdemand
    refine ⟨d, hblock, ?_⟩
    rcases hm : I.meet d s.state with ⟨f | body, u⟩
    · exact closes_of_fault hp hs hblanks h hfit hblank hd hm
    · exact continues_of_met hp hs hblanks h hfit hblank hd hm

/-- Bytes that are no text are answered without a block, whatever they spell. -/
theorem continues_of_not_text (hp : p.maxBlockBytes ≤ Shape.maxVolume) (hs : s.Sound)
    (hblanks : ∀ b ∈ blanks, p.PassesOver b) (h : s.source.lines = blanks ++ l :: ls)
    (hfit : l.length ≤ p.maxBlockBytes)
    (hl : CommandLine.SpellsDefine (Bytes.content l))
    (hn : ∀ t, Bytes.content l ≠ Text.Utf8.encode t) :
    ∃ message, Continues I p s ls (Sink.errorBody (.malformed message)) s.state := by
  obtain ⟨message, hd⟩ := Demand.ofLine_of_not_text p ls hn
  exact ⟨message, continues_of_met hp hs hblanks h hfit hl.not_blank hd rfl⟩

/-- **A definition takes its block off the stream exactly when its line is UTF-8.** This holds
wherever a command is expected on a connection, behind any number of blank lines and for whatever
follows the colon. A line over the limit ends the connection, and after one that is not UTF-8 the
first line of the block is the next command. -/
theorem takesBlock_iff_text (hp : p.maxBlockBytes ≤ Shape.maxVolume) (input : Bytes) (w : σ)
    (hreach : Reaches I p (fresh input w) s) (hblanks : ∀ b ∈ blanks, p.PassesOver b)
    (h : s.source.lines = blanks ++ l :: ls)
    (hl : CommandLine.SpellsDefine (Bytes.content l)) :
    (fresh input w).serve I p = s.serve I p ∧
      (p.maxBlockBytes < l.length → Closes I p s s.state) ∧
      (l.length ≤ p.maxBlockBytes →
        (TakesBlock I p s ls ↔ ∃ t, Bytes.content l = Text.Utf8.encode t) ∧
        ((∀ t, Bytes.content l ≠ Text.Utf8.encode t) →
          ∃ message, Continues I p s ls (Sink.errorBody (.malformed message)) s.state)) := by
  have hs := sound_of_reaches (sound_fresh input w) hreach
  refine ⟨serve_of_reaches hreach, closes_of_exceeds hs hblanks h, fun hfit => ⟨⟨?_, ?_⟩, ?_⟩⟩
  · intro htakes
    by_cases ht : ∃ t, Bytes.content l = Text.Utf8.encode t
    · exact ht
    · obtain ⟨message, hc⟩ := continues_of_not_text hp hs hblanks h hfit hl (not_exists.1 ht)
      exact absurd htakes (not_takesBlock_of_continues hc)
  · rintro ⟨t, ht⟩
    exact takesBlock_of_text hp hs hblanks h hfit hl ht
  · exact continues_of_not_text hp hs hblanks h hfit hl

/-- A rejected definition behind two blank lines, whose block holds a command. -/
theorem takesBlock_rejected :
    let p : Protocol := ⟨"END".toList, 64⟩
    let blanks := ["\n", " \t\r\n"].map fun line => Text.Utf8.encode line.toList
    let line := Text.Utf8.encode " DEF :x\n".toList
    let block := [Text.Utf8.encode "quit\n".toList, Text.Utf8.encode "END\n".toList]
    let s := fresh (blanks.flatten ++ line ++ block.flatten) Workspace.empty
    p.maxBlockBytes ≤ Shape.maxVolume ∧ (∀ b ∈ blanks, p.PassesOver b) ∧
      s.source.lines = blanks ++ line :: block ∧ CommandLine.SpellsDefine (Bytes.content line) ∧
      TakesBlock Workspace.interpreter p s block := by
  intro p blanks line block s
  have hp : p.maxBlockBytes ≤ Shape.maxVolume := by decide
  have hblanks : ∀ b ∈ blanks, p.PassesOver b := by decide
  have hlines : s.source.lines = blanks ++ line :: block := by decide
  have hspells : CommandLine.SpellsDefine (Bytes.content line) := by decide
  obtain ⟨-, -, hiff⟩ := takesBlock_iff_text hp _ _ .start hblanks hlines hspells
  exact ⟨hp, hblanks, hlines, hspells, (hiff (by decide)).1.2 ⟨" DEF :x".toList, by decide⟩⟩

/-- A definition whose line is not UTF-8. The line of its block is executed, and the end tag too is
read as a command. -/
theorem not_takesBlock_ill_formed :
    let p : Protocol := ⟨"END".toList, 64⟩
    let line : Bytes := [100, 101, 102, 58, 255, 10]
    let block := [Text.Utf8.encode "fnlist\n".toList, Text.Utf8.encode "END\n".toList]
    let s := fresh (line ++ block.flatten) Workspace.empty
    s.source.lines = line :: block ∧ CommandLine.SpellsDefine (Bytes.content line) ∧
      ¬ TakesBlock Workspace.interpreter p s block ∧
      (s.serve Workspace.interpreter p).sink.accepted =
        Text.Utf8.encode
          ("error: malformed command: invalid UTF-8: invalid utf-8 sequence of ".toList ++
          "1 bytes from index 4\nEND\n\nEND\nerror: unknown command 'end'\nEND\n".toList) := by
  intro p line block s
  have hp : p.maxBlockBytes ≤ Shape.maxVolume := by decide
  have hlines : s.source.lines = line :: block := by decide
  have hspells : CommandLine.SpellsDefine (Bytes.content line) := by decide
  have hn : ∀ t, Bytes.content line ≠ Text.Utf8.encode t := by
    intro t ht
    have hnone : (Text.Utf8.decode? (Bytes.content line)).toOption = none := by decide
    rw [Text.Utf8.decode?_eq_ok_iff.2 ht] at hnone
    simp [Except.toOption] at hnone
  refine ⟨hlines, hspells, ?_, by decide +kernel⟩
  obtain ⟨message, hc⟩ := continues_of_not_text (I := Workspace.interpreter) hp
    (sound_fresh _ Workspace.empty) (List.forall_mem_nil _) hlines (by decide) hspells hn
  exact not_takesBlock_of_continues hc

end Session
end DefinitionServer
