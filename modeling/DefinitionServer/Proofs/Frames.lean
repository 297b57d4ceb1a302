import DefinitionServer.Client.Response
import DefinitionServer.Proofs.Serving
import DefinitionServer.Proofs.TextLines

/-!
# Reading responses

A response is the lines of its body and a line with the end tag. The client trims the lines and
reads up to the first that is the end tag then. What it gets is the body that was written, with
nothing but the response taken off the stream, exactly when no line of the body ends in a carriage
return or is the end tag.

## Main definitions

* `Client.Response.Exact`: a body that comes back as it is.
* `Client.Response.readMany`: reads so many responses, one after the other.
-/
namespace DefinitionServer

open Text (encodeLine)
open Text.Utf8 (encode)

namespace Client.Response

/-! ## Trimmed lines -/

theorem trimLine_append_lf (line : Text) : trimLine (line ++ ['\n']) = trimLine line := by
  simp [trimLine]

theorem mem_of_mem_trimLine {line : Text} {c : Char} (h : c ∈ trimLine line) : c ∈ line := by
  rw [trimLine, List.mem_reverse] at h
  exact List.mem_reverse.1 ((List.dropWhile_suffix _).subset h)

/-- A line stays as it is exactly when it ends in no carriage return. -/
theorem trimLine_eq_self {line : Text} (h : '\n' ∉ line) :
    trimLine line = line ↔ line.getLast? ≠ some '\r' := by
  rcases List.eq_nil_or_concat line with rfl | ⟨u, c, rfl⟩
  · simp [trimLine]
  have hc : c ≠ '\n' := by
    rintro rfl
    exact h (by simp)
  by_cases hcr : c = '\r'
  · have hlen : (u.reverse.dropWhile fun c => c = '\r' || c = '\n').length ≤ u.length := by
      have := (List.dropWhile_suffix (l := u.reverse) fun c => c = '\r' || c = '\n').length_le
      rwa [List.length_reverse] at this
    constructor
    · intro heq
      have := congrArg List.length heq
      simp only [trimLine, hcr, List.concat_eq_append, List.reverse_append, List.reverse_singleton,
        List.singleton_append, List.length_reverse, List.length_append] at this
      simp at this
      omega
    · simp [hcr]
  · simp [trimLine, hc, hcr]

theorem trimLine_of_notMem {line : Text} (hcr : '\r' ∉ line) (hlf : '\n' ∉ line) :
    trimLine line = line :=
  (trimLine_eq_self hlf).2 fun h => hcr (List.mem_of_getLast? h)

/-- The bytes without the carriage returns and line feeds that end them. -/
def trimBytes (bs : Bytes) : Bytes :=
  (bs.reverse.dropWhile fun b => b = Bytes.cr || b = Bytes.lf).reverse

theorem trimBytes_append_of_ends {b : UInt8} (hb : b = Bytes.cr ∨ b = Bytes.lf) (bs : Bytes) :
    trimBytes (bs ++ [b]) = trimBytes bs := by
  rcases hb with rfl | rfl <;> simp [trimBytes]

theorem trimBytes_of_getLast {bs : Bytes} {b : UInt8} (hlast : bs.getLast? = some b)
    (hcr : b ≠ Bytes.cr) (hlf : b ≠ Bytes.lf) : trimBytes bs = bs := by
  obtain ⟨others, rfl⟩ := List.getLast?_eq_some_iff.1 hlast
  simp [trimBytes, hcr, hlf]

/-- Trimming a text and trimming its bytes is the same. -/
theorem trimBytes_encode (t : Text) : trimBytes (encode t) = encode (trimLine t) := by
  obtain ⟨r, rfl⟩ : ∃ r : Text, t = r.reverse := ⟨t.reverse, (List.reverse_reverse t).symm⟩
  -- the ends are taken off one character after the other, so the induction is from the back
  induction r with
  | nil => rfl
  | cons c r ih =>
    rw [List.reverse_cons]
    by_cases hends : c = '\r' ∨ c = '\n'
    · have htrim : trimLine (r.reverse ++ [c]) = trimLine r.reverse := by
        rcases hends with rfl | rfl <;> simp [trimLine]
      have hbyte : ∃ b, encode [c] = [b] ∧ (b = Bytes.cr ∨ b = Bytes.lf) := by
        rcases hends with rfl | rfl
        · exact ⟨Bytes.cr, rfl, .inl rfl⟩
        · exact ⟨Bytes.lf, rfl, .inr rfl⟩
      obtain ⟨b, hb, hends⟩ := hbyte
      rw [Text.Utf8.encode_append, hb, trimBytes_append_of_ends hends, ih, htrim]
    · rw [not_or] at hends
      have htrim : trimLine (r.reverse ++ [c]) = r.reverse ++ [c] := by
        simp [trimLine, hends]
      have hne : encode (r.reverse ++ [c]) ≠ [] := by
        simp [String.utf8EncodeChar_ne_nil]
      obtain ⟨b, hb⟩ := Option.ne_none_iff_exists'.1 (mt List.getLast?_eq_none_iff.1 hne)
      have hcr : b ≠ Bytes.cr := by
        rintro rfl
        exact hends.1 (by simpa using Text.Utf8.getLast?_encode_cr.1 hb)
      have hlf : b ≠ Bytes.lf := by
        rintro rfl
        exact hends.2 (by simpa using Text.Utf8.getLast?_encode_lf.1 hb)
      rw [trimBytes_of_getLast hb hcr hlf, htrim]

end Client.Response

/-! ## The lines of a frame -/

namespace Sink

variable {p : Protocol}

/-- A frame is the lines of the body and the end tag. -/
theorem frame_eq_flatMap (p : Protocol) (body : Text) :
    frame p body = (body.lines ++ [p.endTag]).flatMap encodeLine := by
  rw [List.flatMap_append, List.flatMap_singleton, ← Text.encode_join_append_lf body.lines_ne_nil,
    Text.join_lines, frame, encodeLine, List.append_assoc, List.singleton_append]

theorem raw_frame (hlf : '\n' ∉ p.endTag) (body : Text) :
    Lines.raw Bytes.lf (frame p body) = (body.lines ++ [p.endTag]).map encodeLine := by
  rw [frame_eq_flatMap]
  apply Text.raw_flatMap_encodeLine
  intro line hline
  exact Text.lf_notMem_of_mem_lines_append hlf hline

/-- The line is the end tag for a reader that trims it. -/
def closes (p : Protocol) (line : Bytes) : Bool := Client.Response.trimBytes line = encode p.endTag

theorem closes_encodeLine (p : Protocol) (line : Text) :
    closes p (encodeLine line) = decide (Client.Response.trimLine line = p.endTag) := by
  rw [closes, ← Text.encode_append_lf, Client.Response.trimBytes_encode,
    Client.Response.trimLine_append_lf, decide_eq_decide]
  exact Text.Utf8.encode_injective.eq_iff

/-- In a frame the end tag is the last line, and the only one that closes it exactly when no line of
the body does. -/
theorem countP_closes_frame (hcr : '\r' ∉ p.endTag) (hlf : '\n' ∉ p.endTag) (body : Text) :
    (Lines.raw Bytes.lf (frame p body)).getLast? = some (encodeLine p.endTag) ∧
      ((Lines.raw Bytes.lf (frame p body)).countP (closes p) = 1 ↔
        ∀ line ∈ body.lines, Client.Response.trimLine line ≠ p.endTag) := by
  have htag := Client.Response.trimLine_of_notMem hcr hlf
  rw [raw_frame hlf]
  refine ⟨by simp, ?_⟩
  rw [List.countP_map, List.countP_append, List.countP_singleton]
  have hlast : (closes p ∘ encodeLine) p.endTag = true := by
    simp [closes_encodeLine, htag]
  rw [if_pos hlast, Nat.add_eq_right, List.countP_eq_zero]
  simp [closes_encodeLine]

end Sink

/-! ## Reading frames -/

namespace Client.Response

variable {endTag : Text}

/-- A line of text is taken off the stream: the end tag, or a line of the response. -/
theorem readLines_encodeLine {line : Text} (hlf : '\n' ∉ line) (bs : Bytes) :
    readLines endTag (encodeLine line ++ bs) =
      if trimLine line = endTag then (.ok [], bs)
      else ((readLines endTag bs).1.map (trimLine line :: ·), (readLines endTag bs).2) := by
  have hne : encodeLine line ++ bs ≠ [] := by
    simp [Text.encodeLine_ne_nil]
  rw [readLines, dif_neg hne]
  simp only [Text.next_encodeLine hlf, Text.decode?_encodeLine, trimLine_append_lf]

/-- Lines are read up to the first that is the end tag. -/
theorem readLines_flatMap {ls : List Text} (hlf : ∀ line ∈ ls, '\n' ∉ line)
    (htag : ∃ line ∈ ls, trimLine line = endTag) (bs : Bytes) :
    readLines endTag (ls.flatMap encodeLine ++ bs) =
      (.ok ((ls.takeWhile (trimLine · ≠ endTag)).map trimLine),
        (ls.dropWhile (trimLine · ≠ endTag)).tail.flatMap encodeLine ++ bs) := by
  induction ls with
  | nil => simp at htag
  | cons l ls ih =>
    rw [List.flatMap_cons, List.append_assoc, readLines_encodeLine (hlf l (by simp))]
    by_cases hl : trimLine l = endTag
    · simp [hl]
    · have htag : ∃ line ∈ ls, trimLine line = endTag := by
        obtain ⟨line, hline, heq⟩ := htag
        rcases List.mem_cons.1 hline with rfl | hline
        · exact absurd heq hl
        · exact ⟨line, hline, heq⟩
      rw [if_neg hl, ih (fun line hline => hlf line (by simp [hline])) htag]
      simp [hl, Except.map]

/-- No line of the body ends in a carriage return or is the end tag. -/
def Exact (endTag body : Text) : Prop :=
  ∀ line ∈ body.lines, line.getLast? ≠ some '\r' ∧ line ≠ endTag

/-- A line of a body that comes back as it is, is left as it is by trimming. -/
theorem Exact.trimLine_eq {body : Text} (h : Exact endTag body) {line : Text}
    (hline : line ∈ body.lines) : trimLine line = line :=
  (trimLine_eq_self (Text.lf_notMem_of_mem_lines hline)).2 (h line hline).1

theorem Exact.passes {body : Text} (h : Exact endTag body) {line : Text}
    (hline : line ∈ body.lines) : decide (trimLine line ≠ endTag) = true := by
  rw [h.trimLine_eq hline, decide_eq_true_eq]
  exact (h line hline).2

theorem exact_iff {body : Text} : Exact endTag body ↔
    (¬ ∃ line ∈ body.lines, trimLine line = endTag) ∧
      ¬ ∃ line ∈ body.lines, line.getLast? = some '\r' := by
  constructor
  · intro hexact
    refine ⟨?_, ?_⟩
    · rintro ⟨line, hline, htag⟩
      rw [hexact.trimLine_eq hline] at htag
      exact (hexact line hline).2 htag
    · rintro ⟨line, hline, hlast⟩
      exact (hexact line hline).1 hlast
  · rintro ⟨htag, hreturn⟩ line hline
    have hlast : line.getLast? ≠ some '\r' := fun hlast => hreturn ⟨line, hline, hlast⟩
    refine ⟨hlast, fun heq => htag ⟨line, hline, ?_⟩⟩
    rw [(trimLine_eq_self (Text.lf_notMem_of_mem_lines hline)).2 hlast, heq]

/-- What is read of a body. -/
def shown (endTag body : Text) : Text :=
  Text.join '\n' ((body.lines.takeWhile (trimLine · ≠ endTag)).map trimLine)

/-- What is read is the body exactly when it has only lines that come back as they are. -/
theorem shown_eq_self (hne : endTag ≠ []) (body : Text) :
    shown endTag body = body ↔ Exact endTag body := by
  have hlf : ∀ line ∈ body.lines, '\n' ∉ line := fun line hline => Text.lf_notMem_of_mem_lines hline
  constructor
  · intro h
    have hread : body.lines.takeWhile (trimLine · ≠ endTag) ≠ [] := by
      intro hnil
      rw [shown, hnil] at h
      rw [← h] at hnil
      simp [Text.join, Text.lines, trimLine, Ne.symm hne] at hnil
    have hlines : body.lines = (body.lines.takeWhile (trimLine · ≠ endTag)).map trimLine := by
      conv => lhs; rw [← h, shown]
      refine Text.lines_join (fun t ht => ?_) (by simpa using hread)
      obtain ⟨line, hline, rfl⟩ := List.mem_map.1 ht
      have hmem := (List.takeWhile_prefix _).subset hline
      exact fun hc => hlf line hmem (mem_of_mem_trimLine hc)
    have hlen := congrArg List.length hlines
    rw [List.length_map] at hlen
    have htake := (List.takeWhile_prefix _).eq_of_length hlen.symm
    rw [htake] at hlines
    intro line hline
    have htrim : trimLine line = line := by
      have := List.map_inj_left.1 ((List.map_id _).trans hlines) line hline
      exact this.symm
    have htag := List.takeWhile_eq_self_iff.1 htake line hline
    rw [htrim, decide_eq_true_eq] at htag
    exact ⟨(trimLine_eq_self (hlf line hline)).1 htrim, htag⟩
  · intro hexact
    have htake : body.lines.takeWhile (trimLine · ≠ endTag) = body.lines := by
      rw [List.takeWhile_eq_self_iff]
      intro line hline
      exact hexact.passes hline
    have hmap : body.lines.map trimLine = body.lines.map id := by
      apply List.map_congr_left
      intro line hline
      exact hexact.trimLine_eq hline
    rw [shown, htake, hmap, List.map_id, Text.join_lines]

/-- What is left of the lines of a frame behind the first that is the end tag. -/
def left (endTag body : Text) : List Text :=
  ((body.lines ++ [endTag]).dropWhile (trimLine · ≠ endTag)).tail

/-- A frame is always read as a response, and the lines behind the first that is the end tag
stay. -/
theorem read_frame {p : Protocol} (hcr : '\r' ∉ p.endTag) (hlf : '\n' ∉ p.endTag) (body : Text)
    (bs : Bytes) :
    read p.endTag (Sink.frame p body ++ bs) =
      (.ok ⟨shown p.endTag body⟩, (left p.endTag body).flatMap encodeLine ++ bs) := by
  have htag := trimLine_of_notMem hcr hlf
  have hlines : ∀ line ∈ body.lines ++ [p.endTag], '\n' ∉ line :=
    fun line hline => Text.lf_notMem_of_mem_lines_append hlf hline
  have hread := readLines_flatMap hlines ⟨p.endTag, by simp, htag⟩ bs
  have htake : (body.lines ++ [p.endTag]).takeWhile (trimLine · ≠ p.endTag) =
      body.lines.takeWhile (trimLine · ≠ p.endTag) :=
    Lines.takeWhile_append_of_stops (by simp [htag]) body.lines
  rw [read, Sink.frame_eq_flatMap, hread, htake]
  rfl

/-- Behind a body that comes back as it is nothing of its frame is left. -/
theorem left_eq_nil {endTag body : Text} (hcr : '\r' ∉ endTag) (hlf : '\n' ∉ endTag)
    (h : Exact endTag body) : left endTag body = [] := by
  have htag := trimLine_of_notMem hcr hlf
  rw [left, List.dropWhile_append_of_pos fun line hline => h.passes hline,
    List.dropWhile_cons_of_neg (by simp [htag])]
  rfl

/-- Reads so many responses, one after the other. -/
def readMany (endTag : Text) : Nat → Bytes → Except ClientError (List Response) × Bytes
  | 0, input => (.ok [], input)
  | n + 1, input =>
    match read endTag input with
    | (.ok r, rest) => ((readMany endTag n rest).1.map (r :: ·), (readMany endTag n rest).2)
    | (.error e, rest) => (.error e, rest)

/-- Frames one after the other are read as the responses that were written, with nothing left over,
exactly when every body comes back as it is. -/
theorem readMany_frames {p : Protocol} (hne : p.endTag ≠ []) (hcr : '\r' ∉ p.endTag)
    (hlf : '\n' ∉ p.endTag) (bodies : List Text) :
    readMany p.endTag bodies.length (bodies.flatMap (Sink.frame p)) = (.ok (bodies.map .mk), []) ↔
      ∀ body ∈ bodies, Exact p.endTag body := by
  induction bodies with
  | nil => simp [readMany]
  | cons body bodies ih =>
    rw [List.flatMap_cons, List.length_cons, readMany, read_frame hcr hlf, List.forall_mem_cons]
    simp only
    by_cases hexact : Exact p.endTag body
    · rw [left_eq_nil hcr hlf hexact, (shown_eq_self hne body).2 hexact, List.flatMap_nil,
        List.nil_append, ← ih]
      rcases readMany p.endTag bodies.length (bodies.flatMap (Sink.frame p)) with ⟨_ | rs, rest⟩
      · simp [Except.map]
      · simp [Except.map, hexact]
    · have hshown : shown p.endTag body ≠ body := fun h => hexact ((shown_eq_self hne body).1 h)
      rcases readMany p.endTag bodies.length
        ((left p.endTag body).flatMap encodeLine ++ bodies.flatMap (Sink.frame p)) with
        ⟨_ | rs, rest⟩
      · simp [Except.map, hexact]
      · simp [Except.map, hexact, hshown]

end Client.Response

end DefinitionServer
