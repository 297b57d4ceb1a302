import DefinitionServer.Proofs.Frames
import Mathlib.Data.List.DropRight

/-!
# A response read back

The server writes a body and the end tag after it; the client reads lines until one is the end tag
without the carriage returns that end it. Whatever the body is, the client gets a response. What it
gets are the lines of the body up to such a line, and the bytes behind that line are left on the
stream. On a stream without such a line, reading fails when the stream ends.

## Main definitions

* `Client.Response.withoutReturns`: a line without the carriage returns that end it.
* `Client.Response.ClosedBy`: the line of a frame at which reading stops.
-/
namespace DefinitionServer

open Text (encodeLine)

namespace Sink

/-- A response on a stream of its own is one frame. -/
theorem accepted_respond (p : Protocol) (body : Text) :
    (respond p body {}).2.accepted = frame p body := by
  obtain ⟨k, hk, -, haccepted⟩ := respond_of_sound (k := {}) ⟨rfl, rfl⟩ p body
  rw [hk, haccepted]
  rfl

end Sink

namespace Client.Response

/-- The line without the carriage returns that end it. -/
def withoutReturns (line : Text) : Text := line.rdropWhile (· = '\r')

/-- A line without a line feed has nothing else to lose. -/
theorem trimLine_eq_withoutReturns {line : Text} (hlf : '\n' ∉ line) :
    trimLine line = withoutReturns line := by
  induction line using List.reverseRecOn with
  | nil => rfl
  | append_singleton line c ih =>
    rw [List.mem_append, not_or, List.mem_singleton] at hlf
    have ih := ih hlf.1
    by_cases hc : c = '\r'
    · simp only [trimLine, withoutReturns, List.rdropWhile] at ih ⊢
      simpa [hc] using ih
    · simp [trimLine, withoutReturns, hc, Ne.symm hlf.2]

/-- Of the lines of a body and the end tag after them, `last` is the first that is the end tag once
it has lost the carriage returns at its end. -/
structure ClosedBy (endTag body : Text) (before : List Text) (last : Text) (after : List Text) :
    Prop where
  lines : body.lines ++ [endTag] = before ++ last :: after
  passes : ∀ line ∈ before, withoutReturns line ≠ endTag
  closes : withoutReturns last = endTag

variable {endTag body : Text}

/-- A frame is closed by one of its lines, the end tag itself if no line before it is. What is read
are the lines before that one, and what is left are those behind it. -/
theorem exists_closedBy (hcr : '\r' ∉ endTag) (hlf : '\n' ∉ endTag) (body : Text) :
    ∃ before last after, ClosedBy endTag body before last after ∧
      shown endTag body = Text.join '\n' (before.map withoutReturns) ∧
      left endTag body = after := by
  have htag : trimLine endTag = endTag := trimLine_of_notMem hcr hlf
  have htrim : ∀ line ∈ body.lines ++ [endTag], trimLine line = withoutReturns line := by
    intro line hline
    exact trimLine_eq_withoutReturns (Text.lf_notMem_of_mem_lines_append hlf hline)
  have htake : (body.lines ++ [endTag]).takeWhile (trimLine · ≠ endTag) =
      body.lines.takeWhile (trimLine · ≠ endTag) :=
    Lines.takeWhile_append_of_stops (by simp [htag]) body.lines
  have hparts := List.takeWhile_append_dropWhile (p := (trimLine · ≠ endTag))
    (l := body.lines ++ [endTag])
  cases hdrop : (body.lines ++ [endTag]).dropWhile (trimLine · ≠ endTag) with
  | nil =>
    have hpasses := List.dropWhile_eq_nil_iff.1 hdrop endTag (by simp)
    simp [htag] at hpasses
  | cons last after =>
    rw [hdrop, htake] at hparts
    have hbefore : ∀ line ∈ body.lines.takeWhile (trimLine · ≠ endTag),
        trimLine line = withoutReturns line := by
      intro line hline
      exact htrim line (by simp [(List.takeWhile_prefix _).subset hline])
    refine ⟨body.lines.takeWhile (trimLine · ≠ endTag), last, after, ⟨hparts.symm, ?_, ?_⟩, ?_, ?_⟩
    · intro line hline
      rw [← hbefore line hline]
      simpa using List.mem_takeWhile_imp hline
    · have hlast := List.head?_dropWhile_not (trimLine · ≠ endTag) (body.lines ++ [endTag])
      rw [hdrop] at hlast
      rw [← htrim last (by rw [← hparts]; simp)]
      simpa using hlast
    · rw [shown, List.map_congr_left hbefore]
    · rw [left, hdrop]
      rfl

/-- On a stream whose lines are texts that do not close a response, reading fails at the end. -/
theorem readLines_of_passes {input : Bytes}
    (h : ∀ line ∈ Lines.raw Bytes.lf input,
      ∃ text, Text.Utf8.decode? line = .ok text ∧ trimLine text ≠ endTag) :
    readLines endTag input = (.error .missingEndTag, []) := by
  fun_induction readLines endTag input with
  | case1 => rfl
  | case2 input hne e he =>
    rw [Lines.raw_eq_next hne] at h
    obtain ⟨text, htext, -⟩ := h _ List.mem_cons_self
    simp [he] at htext
  | case3 input hne line hline htag =>
    rw [Lines.raw_eq_next hne] at h
    obtain ⟨text, htext, hpasses⟩ := h _ List.mem_cons_self
    rw [hline, Except.ok.injEq] at htext
    exact absurd (htext ▸ htag) hpasses
  | case4 input hne line hline htag lines rest hrest ih =>
    rw [Lines.raw_eq_next hne] at h
    have hread := ih fun line hmem => h line (List.mem_cons_of_mem _ hmem)
    rw [hrest] at hread
    obtain ⟨rfl, rfl⟩ := Prod.mk.inj hread
    rfl

/-- **What is read of a response.** From the bytes of a response and any bytes behind them a client
gets the lines before the first that closes it, each without the carriage returns that end it. The
bytes behind the closing line stay on the stream. The body comes back as it was written exactly when
no line of it ends in a carriage return or is the end tag, and then all bytes behind the response
stay. A stream of texts of which none closes a response fails for want of the end tag. -/
theorem read_respond {p : Protocol} (hne : p.endTag ≠ []) (hcr : '\r' ∉ p.endTag)
    (hlf : '\n' ∉ p.endTag) :
    (∀ body bs,
      let written := (Sink.respond p body {}).2.accepted
      (∃ before last after, ClosedBy p.endTag body before last after ∧
        written = (before ++ last :: after).flatMap encodeLine ∧
        read p.endTag (written ++ bs) =
          (.ok ⟨Text.join '\n' (before.map withoutReturns)⟩, after.flatMap encodeLine ++ bs)) ∧
      ((read p.endTag (written ++ bs)).1 = .ok ⟨body⟩ ↔
        ∀ line ∈ body.lines, line.getLast? ≠ some '\r' ∧ line ≠ p.endTag) ∧
      ((read p.endTag (written ++ bs)).1 = .ok ⟨body⟩ →
        (read p.endTag (written ++ bs)).2 = bs)) ∧
    ∀ input,
      (∀ line ∈ Lines.raw Bytes.lf input,
        ∃ text, Text.Utf8.decode? line = .ok text ∧ trimLine text ≠ p.endTag) →
      read p.endTag input = (.error .missingEndTag, []) := by
  constructor
  · intro body bs written
    have hwritten : written = Sink.frame p body := Sink.accepted_respond p body
    have hread := read_frame hcr hlf body bs
    have hexact : shown p.endTag body = body ↔ Exact p.endTag body := shown_eq_self hne body
    rw [hwritten, hread]
    refine ⟨?_, ?_, ?_⟩
    · obtain ⟨before, last, after, hclosed, hshown, hleft⟩ := exists_closedBy hcr hlf body
      refine ⟨before, last, after, hclosed, ?_, ?_⟩
      · rw [Sink.frame_eq_flatMap, hclosed.lines]
      · rw [hshown, hleft]
    · rw [Except.ok.injEq, Response.mk.injEq]
      exact hexact
    · intro h
      have hself : shown p.endTag body = body := by simpa using h
      simp [left_eq_nil hcr hlf (hexact.1 hself)]
  · intro input h
    rw [read, readLines_of_passes h]
    rfl

/-- A body with an empty line comes back, and bytes that are no text stay behind it. A body with a
carriage return at the end of a line does not. A text of one line that is not closed fails. -/
theorem read_respond_plus :
    let p : Protocol := ⟨"END".toList, 64⟩
    let body := "Z←X PLUS Y\n\nZ←X+Y".toList
    let returned := "Z←X PLUS Y\r\nZ←X+Y".toList
    (p.endTag ≠ [] ∧ '\r' ∉ p.endTag ∧ '\n' ∉ p.endTag) ∧
      read p.endTag ((Sink.respond p body {}).2.accepted ++ [0xFF]) = (.ok ⟨body⟩, [0xFF]) ∧
      (read p.endTag ((Sink.respond p returned {}).2.accepted ++ [0xFF])).1 ≠ .ok ⟨returned⟩ ∧
      read p.endTag (Text.Utf8.encode "PLUS\n".toList) = (.error .missingEndTag, []) := by
  intro p body returned
  have hne : p.endTag ≠ [] := by decide
  have hcr : '\r' ∉ p.endTag := by decide
  have hlf : '\n' ∉ p.endTag := by decide
  obtain ⟨hframes, hopen⟩ := read_respond hne hcr hlf
  obtain ⟨-, hback, hleft⟩ := hframes body [0xFF]
  obtain ⟨-, hreturned, -⟩ := hframes returned [0xFF]
  have hbody := hback.2 (by decide)
  refine ⟨⟨hne, hcr, hlf⟩, Prod.ext hbody (hleft hbody), ?_, hopen _ ?_⟩
  · intro h
    exact absurd (hreturned.1 h) (by decide)
  · intro line hline
    have hraw : Lines.raw Bytes.lf (Text.Utf8.encode "PLUS\n".toList) =
        [Text.Utf8.encode "PLUS\n".toList] := by
      decide
    rw [hraw, List.mem_singleton] at hline
    exact ⟨"PLUS\n".toList, hline ▸ Text.Utf8.decode?_encode _, by decide⟩

end Client.Response
end DefinitionServer
