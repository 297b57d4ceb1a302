import DefinitionServer.Client.Request
import DefinitionServer.Proofs.Block
import DefinitionServer.Proofs.TextLines

/-!
# Delivering a definition

The client sends the lines of a source file as a block, after it has seen that none of them is the
end tag. The server takes one carriage return off the end of every line it reads. So the block that
arrives is the one that was sent when no line ends in a carriage return. A line that does arrives
without it, and if it is the end tag then, the block ends there.

## Main definitions

* `Client.received`: a line as it arrives.
-/
namespace DefinitionServer.Client

open Text (encodeLine)
open Text.Utf8 (encode)

/-- The bytes of a line as the server reads them. -/
def received (line : Text) : Bytes := Lines.dropFinal Bytes.cr (encode line)

theorem received_eq_encode {line : Text} :
    received line = encode line ↔ line.getLast? ≠ some '\r' := by
  rw [received, Lines.dropFinal_eq_self, Ne, Text.Utf8.getLast?_encode_cr]

theorem content_encodeLine (line : Text) : Bytes.content (encodeLine line) = received line :=
  Lines.content_append_lf _

namespace Request

variable {p : Protocol} {path : Text} {content : Bytes} {lines : List Text}

/-- A file is sent unless the end tag is one of its lines. -/
theorem ofSource_eq_ok_iff {endTag : Text} :
    ofSource endTag path content = .ok (.define lines) ↔
      lines = sourceLines content ∧ endTag ∉ lines := by
  have hnone :
      (sourceLines content).findIdx? (· = endTag) = none ↔ endTag ∉ sourceLines content := by
    rw [List.findIdx?_eq_none_iff]
    constructor
    · intro h hmem
      simpa using h endTag hmem
    · intro h line hline
      rw [decide_eq_false_iff_not]
      rintro rfl
      exact h hline
  rw [ofSource]
  split <;> rename_i hi
  · rw [hi] at hnone
    simp only [reduceCtorEq, false_iff, not_and]
    rintro rfl
    exact fun h => absurd (hnone.2 h) (by simp)
  · simp only [Except.ok.injEq, Request.define.injEq]
    constructor
    · rintro rfl
      exact ⟨rfl, hnone.1 hi⟩
    · exact fun h => h.1.symm

theorem lf_notMem_of_mem_sourceLines {line : Text} (h : line ∈ sourceLines content) :
    '\n' ∉ line :=
  Lines.lf_notMem_of_mem_split h

/-- A definition is sent as lines: the command, the lines of the source and the end tag. -/
theorem bytes_define (endTag : Text) (lines : List Text) :
    (Request.define lines).bytes endTag =
      (Command.defineName :: (lines ++ [endTag])).flatMap encodeLine := by
  have hframe : (Request.define lines).frame endTag =
      (Command.defineName :: (lines ++ [endTag])).flatMap (· ++ ['\n']) := by
    rw [List.flatMap_cons, List.flatMap_append, List.flatMap_singleton, ← List.append_assoc,
      ← List.append_assoc]
    rfl
  rw [bytes, hframe, Text.encode_flatMap_append_lf]

/-- What the server finds on the stream are these lines. -/
theorem raw_bytes_define {endTag : Text} (hlf : '\n' ∉ endTag)
    (hlines : ∀ line ∈ lines, '\n' ∉ line) :
    Lines.raw Bytes.lf ((Request.define lines).bytes endTag) =
      encodeLine Command.defineName :: (lines ++ [endTag]).map encodeLine := by
  rw [bytes_define]
  apply Text.raw_flatMap_encodeLine
  intro line hline
  rcases List.mem_cons.1 hline with rfl | hline
  · decide
  rcases List.mem_append.1 hline with hline | hline
  · exact hlines line hline
  · rwa [List.mem_singleton.1 hline]

end Request

/-! ## The block that arrives -/

section Arrival

variable {p : Protocol} (lines : List Text)

/-- The line arrives as another than the end tag. -/
def passes (p : Protocol) (line : Text) : Bool := received line ≠ encode p.endTag

theorem closes_encodeLine (line : Text) : Block.closes p (encodeLine line) = !passes p line := by
  simp [Block.closes, content_encodeLine, passes]

theorem passes_endTag (hcr : '\r' ∉ p.endTag) : passes p p.endTag = false := by
  have htag : received p.endTag = encode p.endTag :=
    received_eq_encode.2 fun h => hcr (List.mem_of_getLast? h)
  simp [passes, htag]

/-- The lines before the first that arrives as the end tag make the block. -/
theorem body_encodeLine (hcr : '\r' ∉ p.endTag) :
    (Block.body p ((lines ++ [p.endTag]).map encodeLine)).map Bytes.content =
      (lines.takeWhile (passes p)).map received := by
  have hpasses : (fun line => !Block.closes p (encodeLine line)) = passes p := by
    funext line
    rw [closes_encodeLine, Bool.not_not]
  have htake : (lines ++ [p.endTag]).takeWhile (passes p) = lines.takeWhile (passes p) :=
    Lines.takeWhile_append_of_stops (passes_endTag hcr) lines
  rw [Block.body, List.takeWhile_map, List.map_map]
  change ((lines ++ [p.endTag]).takeWhile fun line => !Block.closes p (encodeLine line)).map _ = _
  rw [hpasses, htake]
  exact List.map_congr_left fun line _ => content_encodeLine line

/-- The lines from the first on that arrives as the end tag are left. -/
theorem rest_encodeLine (hcr : '\r' ∉ p.endTag) :
    Block.rest p ((lines ++ [p.endTag]).map encodeLine) =
      (lines.dropWhile (passes p) ++ [p.endTag]).map encodeLine := by
  have hpasses : (fun line => !Block.closes p (encodeLine line)) = passes p := by
    funext line
    rw [closes_encodeLine, Bool.not_not]
  rw [Block.rest, List.dropWhile_map]
  change ((lines ++ [p.endTag]).dropWhile fun line => !Block.closes p (encodeLine line)).map _ = _
  rw [hpasses, List.dropWhile_append]
  split
  · rename_i hempty
    rw [List.dropWhile_cons_of_neg (by simp [passes_endTag hcr]), List.isEmpty_iff.1 hempty]
    rfl
  · rfl

/-- The block that is read off the lines sent, and the lines left when it is. -/
theorem read_encodeLine (hcr : '\r' ∉ p.endTag)
    (hmax : ((lines ++ [p.endTag]).map encodeLine).flatten.length ≤ p.maxBlockBytes) :
    Block.read p ((lines ++ [p.endTag]).map encodeLine) =
      .ok ((lines.takeWhile (passes p)).map received,
        ((lines.dropWhile (passes p) ++ [p.endTag]).map encodeLine).tail) := by
  have hsize :
      Block.size (Block.taken p ((lines ++ [p.endTag]).map encodeLine)) ≤ p.maxBlockBytes := by
    have hstart : Block.taken p ((lines ++ [p.endTag]).map encodeLine) <+: _ := Block.prefix_taken
    obtain ⟨others, hothers⟩ := hstart
    have hterminated : ∀ m ∈ Block.taken p ((lines ++ [p.endTag]).map encodeLine),
        ∃ x, m = x ++ [Bytes.lf] := by
      intro m hm
      obtain ⟨line, -, rfl⟩ := List.mem_map.1 (Block.prefix_taken.subset hm)
      exact ⟨encode line, rfl⟩
    have hle := Block.size_le_length_flatten hterminated
    rw [← hothers, List.flatten_append, List.length_append] at hmax
    omega
  rw [Block.read, if_neg (Nat.not_lt.2 hsize), rest_encodeLine lines hcr, body_encodeLine lines hcr]
  cases lines.dropWhile (passes p) with
  | nil => rfl
  | cons line rest => rfl

/-- Every line passes when each arrives as it was and none is the end tag. -/
theorem passes_of_received {line : Text} (hne : line ≠ p.endTag)
    (hline : line.getLast? ≠ some '\r') : passes p line = true := by
  rw [passes, received_eq_encode.2 hline, decide_eq_true_eq]
  exact fun h => hne (Text.Utf8.encode_injective h)

/-- The block arrives as it was sent, with nothing behind it, exactly when no line of it ends in a
carriage return. -/
theorem arrives_iff (htag : p.endTag ∉ lines) :
    ((lines.takeWhile (passes p)).map received = lines.map encode ∧
        ((lines.dropWhile (passes p) ++ [p.endTag]).map encodeLine).tail = []) ↔
      ∀ line ∈ lines, line.getLast? ≠ some '\r' := by
  constructor
  · rintro ⟨hblock, -⟩ line hline
    have hlen := congrArg List.length hblock
    rw [List.length_map, List.length_map] at hlen
    rw [(List.takeWhile_prefix _).eq_of_length hlen] at hblock
    exact received_eq_encode.1 (List.map_inj_left.1 hblock line hline)
  · intro hlines
    have hpasses : ∀ line ∈ lines, passes p line = true := by
      intro line hline
      exact passes_of_received (fun h => htag (h ▸ hline)) (hlines line hline)
    have htake : lines.takeWhile (passes p) = lines := List.takeWhile_eq_self_iff.2 hpasses
    have hdrop : lines.dropWhile (passes p) = [] := List.dropWhile_eq_nil_iff.2 hpasses
    rw [htake, hdrop]
    refine ⟨List.map_congr_left fun line hline => ?_, rfl⟩
    exact received_eq_encode.2 (hlines line hline)

end Arrival

namespace Request

variable {p : Protocol} {path : Text} {content : Bytes} {lines : List Text}

/-- What the server reads when a source file is sent to it: the command, then the lines up to the
first that arrives as the end tag. What it has not read then is the end of what was sent. -/
theorem loadBlock_define (hcr : '\r' ∉ p.endTag) (hlf : '\n' ∉ p.endTag)
    (h : Request.ofSource p.endTag path content = .ok (.define lines))
    (hmax : ((Request.define lines).bytes p.endTag).length ≤ p.maxBlockBytes) :
    ∃ s t, Source.nextCommand p ⟨(Request.define lines).bytes p.endTag, none⟩ =
        (.ok (some ⟨Command.defineName, []⟩), s) ∧
      s.loadBlock p = (.ok ((lines.takeWhile (passes p)).map received), t) ∧
      t.lines = ((lines.dropWhile (passes p) ++ [p.endTag]).map encodeLine).tail ∧
      t.breakdown = none := by
  obtain ⟨hlines, htag⟩ := ofSource_eq_ok_iff.1 h
  have hnolf : ∀ line ∈ lines, '\n' ∉ line := by
    intro line hline
    exact lf_notMem_of_mem_sourceLines (hlines ▸ hline)
  have hraw : (⟨(Request.define lines).bytes p.endTag, none⟩ : Source).lines =
      encodeLine Command.defineName :: (lines ++ [p.endTag]).map encodeLine :=
    raw_bytes_define hlf hnolf
  have hlength : (encodeLine Command.defineName).length +
        ((lines ++ [p.endTag]).map encodeLine).flatten.length =
      ((Request.define lines).bytes p.endTag).length := by
    rw [← List.length_append, ← List.flatten_cons, ← hraw, Source.flatten_lines]
  have hcommand : CommandLine.parse (Bytes.content (encodeLine Command.defineName)) =
      .ok ⟨Command.defineName, []⟩ := by
    rfl
  have hnext := Source.nextCommand_of_line rfl hraw (p := p) (by omega) (by decide)
  rw [hcommand] at hnext
  have hread := read_encodeLine lines hcr (by omega)
  rw [← Source.lines_advance hraw] at hread
  obtain ⟨t, ht, hafter, hbreak⟩ := Source.loadBlock_of_read rfl hread
  exact ⟨_, t, hnext, ht, hafter, hbreak⟩

/-- **A source file is delivered exactly when none of its lines ends in a carriage return.** The
command always arrives, and so does a block; it is the lines of the file, and nothing of what was
sent is left unread, in just that case. Otherwise every line has lost a carriage return that it
ended in, and the first that is the end tag then has closed the block. -/
theorem loadBlock_define_iff (hcr : '\r' ∉ p.endTag) (hlf : '\n' ∉ p.endTag)
    (h : Request.ofSource p.endTag path content = .ok (.define lines))
    (hmax : ((Request.define lines).bytes p.endTag).length ≤ p.maxBlockBytes) :
    ∃ s t, Source.nextCommand p ⟨(Request.define lines).bytes p.endTag, none⟩ =
        (.ok (some ⟨Command.defineName, []⟩), s) ∧
      s.loadBlock p = (.ok ((lines.map received).takeWhile (· ≠ encode p.endTag)), t) ∧
      (s.loadBlock p = (.ok (lines.map encode), ⟨[], none⟩) ↔
        ∀ line ∈ lines, line.getLast? ≠ some '\r') := by
  obtain ⟨s, t, hnext, hload, hleft, hbreak⟩ := loadBlock_define hcr hlf h hmax
  refine ⟨s, t, hnext, ?_, ?_⟩
  · rw [hload, List.takeWhile_map]
    rfl
  · rw [hload, ← arrives_iff lines (ofSource_eq_ok_iff.1 h).2, ← hleft, Prod.mk.injEq,
      Except.ok.injEq]
    refine and_congr_right fun _ => ⟨?_, fun hnil => ?_⟩
    · rintro rfl
      rfl
    · have hunread := Source.flatten_lines t
      rw [hnil] at hunread
      cases t
      simp_all

/-- A file with both kinds of line ends. -/
theorem loadBlock_define_plus :
    let p : Protocol := ⟨"END".toList, 64⟩
    let content := encode "Z←X PLUS Y\r\nZ←X+Y".toList
    let lines := ["Z←X PLUS Y".toList, "Z←X+Y".toList]
    ('\r' ∉ p.endTag ∧ '\n' ∉ p.endTag) ∧
      Request.ofSource p.endTag "plus".toList content = .ok (.define lines) ∧
      ((Request.define lines).bytes p.endTag).length ≤ p.maxBlockBytes ∧
      ∃ s, Source.nextCommand p ⟨(Request.define lines).bytes p.endTag, none⟩ =
          (.ok (some ⟨Command.defineName, []⟩), s) ∧
        s.loadBlock p = (.ok (lines.map encode), ⟨[], none⟩) := by
  intro p content lines
  have hcr : '\r' ∉ p.endTag := by decide
  have hlf : '\n' ∉ p.endTag := by decide
  have hsource : Request.ofSource p.endTag "plus".toList content = .ok (.define lines) :=
    ofSource_eq_ok_iff.2 ⟨by decide +kernel, by decide⟩
  have hmax : ((Request.define lines).bytes p.endTag).length ≤ p.maxBlockBytes := by decide
  obtain ⟨s, t, hnext, -, hiff⟩ := loadBlock_define_iff hcr hlf hsource hmax
  exact ⟨⟨hcr, hlf⟩, hsource, hmax, s, hnext, hiff.2 (by decide)⟩

/-- A line that is the end tag and one carriage return closes the block, and what comes after it in
the file is left for the server to take for commands. -/
theorem loadBlock_define_cut_short :
    let p : Protocol := ⟨"END".toList, 64⟩
    let content := encode "F\nEND\r\r\nL:x\n".toList
    let lines := ["F".toList, "END\r".toList, "L:x".toList]
    Request.ofSource p.endTag "f".toList content = .ok (.define lines) ∧
      ((Request.define lines).bytes p.endTag).length ≤ p.maxBlockBytes ∧
      ∃ s t, Source.nextCommand p ⟨(Request.define lines).bytes p.endTag, none⟩ =
          (.ok (some ⟨Command.defineName, []⟩), s) ∧
        s.loadBlock p = (.ok [encode "F".toList], t) ∧ t.unread = encode "L:x\nEND\n".toList := by
  intro p content lines
  have hsource : Request.ofSource p.endTag "f".toList content = .ok (.define lines) :=
    ofSource_eq_ok_iff.2 ⟨by decide +kernel, by decide⟩
  have hmax : ((Request.define lines).bytes p.endTag).length ≤ p.maxBlockBytes := by decide
  obtain ⟨s, t, hnext, hload, hleft, -⟩ := loadBlock_define (by decide) (by decide) hsource hmax
  refine ⟨hsource, hmax, s, t, hnext, ?_, ?_⟩
  · rw [hload]
    exact congrArg (fun block => (Except.ok block, t)) (by decide)
  · rw [← Source.flatten_lines t, hleft]
    decide

end Request
end DefinitionServer.Client
