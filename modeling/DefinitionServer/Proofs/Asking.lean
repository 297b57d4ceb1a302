import DefinitionServer.Proofs.Delivery
import DefinitionServer.Proofs.Round
import DefinitionServer.Proofs.Words

/-!
# Asking for a function by its name

The client asks for a function with one line, `fn:` and the name as it was given. Whatever blanks
and colons are in the name, the line is read as a request for the one function that the trimmed name
says, or as one with wrong arguments. But nothing keeps a line feed out of the name, and the server
reads what stands behind it as command lines of their own.

## Main definitions

* `Source.commandLines`: the command lines that are read off a stream, one after the other.
* `Source.Asks`: a stream is read as one command line, to its end.
* `Command.ofName`: the command that asks for a name.
-/
namespace DefinitionServer

open Text (encodeLine trim trimEnd)
open Text.Utf8 (encode)

/-! ## The command lines on a stream -/

namespace Source

/-- The command lines on a stream, faulty ones among them, to its end or to the failure that ends
the connection. -/
def commandLines (p : Protocol) (s : Source) : List (Except RequestError CommandLine) :=
  match _h : s.nextCommand p with
  | (.ok none, _) => []
  | (.ok (some line), t) => .ok line :: commandLines p t
  | (.error e, t) => if _he : e.isFatal then [.error e] else .error e :: commandLines p t
termination_by s.unread.length
decreasing_by
  · exact nextCommand_shortens ‹_› (by simp) (by simp)
  · exact nextCommand_shortens ‹_› (by simp) (by simp_all)

/-- The stream has one command line, which asks for the command, and nothing is left on it when
this is read. -/
def Asks (p : Protocol) (s : Source) (c : Except RequestError Command) : Prop :=
  ∃ line t, s.nextCommand p = (.ok (some line), t) ∧ t.unread = [] ∧
    s.commandLines p = [.ok line] ∧ Command.parse line = c

variable {p : Protocol} {s t : Source}

theorem commandLines_eq (p : Protocol) (s : Source) :
    s.commandLines p =
      match s.nextCommand p with
      | (.ok none, _) => []
      | (.ok (some line), t) => .ok line :: t.commandLines p
      | (.error e, t) => if e.isFatal then [.error e] else .error e :: t.commandLines p := by
  rw [commandLines]
  split <;> rename_i hr <;> simp only [hr, dite_eq_ite]

/-- A line is no longer than the stream. -/
theorem fits_of_length_le (h : s.unread.length ≤ p.maxBlockBytes) :
    ∀ l ∈ s.lines, l.length ≤ p.maxBlockBytes := by
  intro l hl
  have hle := (List.sublist_flatten_of_mem hl).length_le
  rw [flatten_lines] at hle
  exact Nat.le_trans hle h

/-- A stream that does not break down and ends with a command line has no other. -/
theorem asks_of_nextCommand {line : CommandLine} (hbreak : t.breakdown = none)
    (hnext : s.nextCommand p = (.ok (some line), t)) (hleft : t.unread = []) :
    s.Asks p (Command.parse line) := by
  have hlines : t.lines = [] := by
    rw [lines, hleft]
    rfl
  refine ⟨line, t, hnext, hleft, ?_, rfl⟩
  rw [commandLines_eq, hnext]
  simp only
  rw [commandLines_eq, nextCommand_of_nil hbreak hlines]

/-- Every line that is not blank is read as a command line. -/
theorem commandLines_of_fits (hs : s.breakdown = none)
    (hfit : ∀ l ∈ s.lines, l.length ≤ p.maxBlockBytes) :
    s.commandLines p =
      (s.lines.filter fun l => !(Bytes.content l).all isSpace).map fun l =>
        CommandLine.parse (Bytes.content l) := by
  generalize hls : s.lines = ls at hfit
  induction ls generalizing s with
  | nil => rw [commandLines_eq, nextCommand_of_nil hs hls]; rfl
  | cons l ls ih =>
    obtain ⟨hl, hfits⟩ := List.forall_mem_cons.1 hfit
    have ih := ih (breakdown_advance hs l.length) (lines_advance hls) hfits
    cases hblank : (Bytes.content l).all isSpace with
    | true =>
      rw [commandLines_eq, nextCommand_of_blank hs hls hl hblank, ← commandLines_eq, ih,
        List.filter_cons_of_neg (by simp [hblank])]
    | false =>
      rw [commandLines_eq, nextCommand_of_line hs hls hl hblank,
        List.filter_cons_of_pos (by simp [hblank]), List.map_cons, ← ih]
      cases hparse : CommandLine.parse (Bytes.content l) with
      | error e => simp [Except.map, RequestError.isFatal_of_parse hparse]
      | ok line => rfl

end Source

/-! ## Command lines of text -/

namespace Client

/-- A line arrives as the bytes of a text, which are all of it or all but a carriage return. -/
theorem exists_received (line : Text) :
    ∃ t, received line = encode t ∧ (line = t ∨ line = t ++ ['\r']) := by
  by_cases hcr : line.getLast? = some '\r'
  · obtain ⟨t, rfl⟩ := List.getLast?_eq_some_iff.1 hcr
    refine ⟨t, ?_, .inr rfl⟩
    have hbytes : encode (t ++ ['\r']) = encode t ++ [Bytes.cr] := Text.Utf8.encode_append t ['\r']
    rw [received, hbytes, Lines.dropFinal, List.getLast?_concat, if_pos rfl, List.dropLast_concat]
  · exact ⟨line, received_eq_encode.2 hcr, .inl rfl⟩

theorem all_isSpace_received (line : Text) :
    (received line).all Source.isSpace = (encode line).all Source.isSpace := by
  obtain ⟨t, ht, rfl | rfl⟩ := exists_received line
  · rw [ht]
  · rw [ht, Text.Utf8.encode_append, List.all_append]
    exact (Bool.and_true _).symm

end Client

namespace CommandLine

/-- Blanks around a command line make no difference to it. -/
theorem parse_congr {t u : Text} (h : trim t = trim u) : parse (encode t) = parse (encode u) := by
  rw [parse, parse, Text.Utf8.decode?_encode, Text.Utf8.decode?_encode]
  simp only [h]

theorem parse_received (line : Text) : parse (Client.received line) = parse (encode line) := by
  obtain ⟨t, ht, rfl | rfl⟩ := Client.exists_received line
  · rw [ht]
  · rw [ht]
    refine parse_congr ?_
    have hcr : Text.Gap ['\r'] := List.forall_mem_singleton.2 (by decide)
    exact (Text.trim_append_of_blank Text.gap_nil hcr t).symm

/-- The line for a function has what follows the first colon for its arguments. -/
theorem parse_fn (t : Text) :
    parse (encode ("fn:".toList ++ t)) = .ok ⟨"fn".toList, (trimEnd t).splitOn ':'⟩ := by
  have htrim : trim ("fn:".toList ++ t) = "fn".toList ++ ':' :: trimEnd t := by
    rw [← Text.trimEnd_append_cons (by decide)]
    exact congrArg trimEnd (Text.trimStart_cons_of_not (by decide) _)
  have hsplit : ("fn".toList ++ ':' :: trimEnd t).splitOn ':' =
      "fn".toList :: (trimEnd t).splitOn ':' :=
    List.splitOn_append_cons_self_of_not_mem (by decide : ':' ∉ "fn".toList) _
  have hlower : Text.toLower (trim "fn".toList) = "fn".toList := by decide +kernel
  simp only [parse, Text.Utf8.decode?_encode, htrim, hsplit, List.headD_cons, List.tail_cons,
    hlower]
  rfl

end CommandLine

namespace Command

/-- The command that asks for a name. A name is no good that has a colon, or nothing but blanks. -/
def ofName (name : Text) : Except RequestError Command :=
  if ':' ∈ name ∨ trim name = [] then .error (.invalidArguments functionOf.needsName)
  else .ok (.function (trim name))

theorem parse_fn (t : Text) :
    parse ⟨"fn".toList, (trimEnd t).splitOn ':'⟩ = ofName t := by
  change functionOf ((trimEnd t).splitOn ':') = _
  have hcolon : ':' ∈ trimEnd t ↔ ':' ∈ t := by
    obtain ⟨gap, hgap, ht⟩ := Text.exists_trimEnd t
    have hnone : ':' ∉ gap := fun hmem => absurd (hgap _ hmem) (by decide)
    conv => rhs; rw [ht]
    simp [hnone]
  rw [ofName]
  by_cases hmem : ':' ∈ trimEnd t
  · obtain ⟨before, after, heq, hbefore⟩ := List.eq_append_cons_of_mem hmem
    rw [if_pos (.inl (hcolon.1 hmem)), heq, List.splitOn_append_cons_self_of_not_mem hbefore]
    cases hafter : after.splitOn ':' with
    | nil => exact absurd hafter (List.splitOn_ne_nil _ _)
    | cons x xs => rfl
  · rw [List.splitOn_eq_singleton hmem, functionOf, Text.trim_trimEnd]
    simp only [mt hcolon.2 hmem, false_or]

end Command

/-! ## Requests of the client -/

namespace Client.Request

variable {p : Protocol} {name first : Text} {others : List Text}

/-- The request for a function is the lines of the name, with `fn:` before the first. -/
theorem bytes_function (endTag : Text) (h : name.lines = first :: others) :
    (Request.function name).bytes endTag =
      (("fn:".toList ++ first) :: others).flatMap encodeLine := by
  have hjoin : Text.join '\n' (("fn:".toList ++ first) :: others) = "fn:".toList ++ name := by
    rw [← Text.join_lines name, h]
    cases others with
    | nil => rw [Text.join_singleton, Text.join_singleton]
    | cons second others =>
      rw [Text.join_cons_cons, Text.join_cons_cons, List.append_assoc]
  rw [← Text.encode_join_append_lf (List.cons_ne_nil _ _), hjoin]
  exact Text.Utf8.encode_append _ ['\n']

theorem lines_function (endTag : Text) (h : name.lines = first :: others) :
    (⟨(Request.function name).bytes endTag, none⟩ : Source).lines =
      (("fn:".toList ++ first) :: others).map encodeLine := by
  rw [Source.lines, bytes_function endTag h]
  apply Text.raw_flatMap_encodeLine
  have hlf : ∀ line ∈ first :: others, '\n' ∉ line := fun line hline =>
    Text.lf_notMem_of_mem_lines (h ▸ hline)
  obtain ⟨hfirst, hothers⟩ := List.forall_mem_cons.1 hlf
  refine List.forall_mem_cons.2 ⟨?_, hothers⟩
  rw [List.mem_append, not_or]
  exact ⟨by decide, hfirst⟩

theorem all_isSpace_fn (t : Text) : (encode ("fn:".toList ++ t)).all Source.isSpace = false := by
  rw [Text.Utf8.encode_append, List.all_append]
  rfl

/-- The line with `fn:` is read first, and the other lines of the name are left. -/
theorem nextCommand_function (h : name.lines = first :: others)
    (hmax : ((Request.function name).bytes p.endTag).length ≤ p.maxBlockBytes) :
    Source.nextCommand p ⟨(Request.function name).bytes p.endTag, none⟩ =
      (.ok (some ⟨"fn".toList, (trimEnd first).splitOn ':'⟩),
        ⟨others.flatMap encodeLine, none⟩) := by
  have hlines := lines_function p.endTag h
  rw [List.map_cons] at hlines
  have hfit := Source.fits_of_length_le hmax (encodeLine ("fn:".toList ++ first))
    (by rw [hlines]; exact List.mem_cons_self)
  have hblank : (Bytes.content (encodeLine ("fn:".toList ++ first))).all Source.isSpace = false := by
    rw [content_encodeLine, all_isSpace_received, all_isSpace_fn]
  rw [Source.nextCommand_of_line rfl hlines hfit hblank, content_encodeLine,
    CommandLine.parse_received, CommandLine.parse_fn, Source.advance, bytes_function p.endTag h,
    List.flatMap_cons, List.drop_left]
  rfl

/-- Behind the line with `fn:`, each line of the name that is not blank is a command line. -/
theorem commandLines_function (h : name.lines = first :: others)
    (hmax : ((Request.function name).bytes p.endTag).length ≤ p.maxBlockBytes) :
    Source.commandLines p ⟨(Request.function name).bytes p.endTag, none⟩ =
      .ok ⟨"fn".toList, (trimEnd first).splitOn ':'⟩ ::
        (others.filter fun line => !(encode line).all Source.isSpace).map fun line =>
          CommandLine.parse (encode line) := by
  rw [Source.commandLines_of_fits rfl (Source.fits_of_length_le hmax), lines_function p.endTag h,
    List.filter_map, List.map_map]
  simp only [Function.comp_def, content_encodeLine, all_isSpace_received,
    CommandLine.parse_received]
  rw [List.filter_cons_of_pos (by rw [all_isSpace_fn]; rfl), List.map_cons, CommandLine.parse_fn]

/-- A name is asked for with nothing left on the stream exactly when it has no line feed. -/
theorem asks_ofName_iff
    (hmax : ((Request.function name).bytes p.endTag).length ≤ p.maxBlockBytes) :
    Source.Asks p ⟨(Request.function name).bytes p.endTag, none⟩ (Command.ofName name) ↔
      '\n' ∉ name := by
  obtain ⟨first, others, h⟩ := List.exists_cons_of_ne_nil (Text.lines_ne_nil name)
  constructor
  · rintro ⟨line, t, hnext, hleft, -, -⟩
    obtain ⟨-, rfl⟩ := Prod.mk.inj ((nextCommand_function h hmax).symm.trans hnext)
    obtain rfl : others = [] := by
      cases others with
      | nil => rfl
      | cons line others => simp [encodeLine] at hleft
    obtain rfl : name = first := by
      rw [← Text.join_lines name, h, Text.join_singleton]
    exact Text.lf_notMem_of_mem_lines (by rw [h]; exact List.mem_cons_self)
  · intro hlf
    have hlines := Text.lines_of_notMem hlf
    rw [← Command.parse_fn]
    exact Source.asks_of_nextCommand rfl (nextCommand_function hlines hmax) rfl

theorem asks_functionList
    (hmax : (Request.functionList.bytes p.endTag).length ≤ p.maxBlockBytes) :
    Source.Asks p ⟨Request.functionList.bytes p.endTag, none⟩ (.ok .functionList) := by
  have hlines : (⟨Request.functionList.bytes p.endTag, none⟩ : Source).lines =
      [encodeLine "fnlist".toList] := rfl
  have hnext := Source.nextCommand_of_line rfl hlines
    (Source.fits_of_length_le hmax _ (by rw [hlines]; exact List.mem_cons_self)) (by decide)
  have hparse : CommandLine.parse (Bytes.content (encodeLine "fnlist".toList)) =
      .ok ⟨"fnlist".toList, []⟩ := by
    decide +kernel
  have hcommand : Command.parse ⟨"fnlist".toList, []⟩ = .ok .functionList := by decide +kernel
  rw [hparse] at hnext
  rw [← hcommand]
  exact Source.asks_of_nextCommand rfl hnext rfl

/-- **A name is asked for in one request exactly when it has no line feed.** Then the stream has one
command line, which asks for the function that the trimmed name says or has wrong arguments. Of any
name the lines behind the first are command lines too, unless they are blank. The request for all
functions always is one command line. -/
theorem asks_function_iff (p : Protocol) (name : Text) :
    (((Request.function name).bytes p.endTag).length ≤ p.maxBlockBytes →
      (Source.Asks p ⟨(Request.function name).bytes p.endTag, none⟩ (Command.ofName name) ↔
        '\n' ∉ name) ∧
      ∃ first others, name.lines = first :: others ∧
        Source.commandLines p ⟨(Request.function name).bytes p.endTag, none⟩ =
          .ok ⟨"fn".toList, (trimEnd first).splitOn ':'⟩ ::
            (others.filter fun line => !(encode line).all Source.isSpace).map fun line =>
              CommandLine.parse (encode line)) ∧
    ((Request.functionList.bytes p.endTag).length ≤ p.maxBlockBytes →
      Source.Asks p ⟨Request.functionList.bytes p.endTag, none⟩ (.ok .functionList)) := by
  refine ⟨fun hmax => ⟨asks_ofName_iff hmax, ?_⟩, asks_functionList⟩
  obtain ⟨first, others, h⟩ := List.exists_cons_of_ne_nil (Text.lines_ne_nil name)
  exact ⟨first, others, h, commandLines_function h hmax⟩

/-- Blanks around a name make no difference, nor does a carriage return at its end. -/
theorem asks_function_blanks :
    let p : Protocol := ⟨"END".toList, 64⟩
    (((Request.function " PLUS\r".toList).bytes p.endTag).length ≤ p.maxBlockBytes ∧
      Source.Asks p ⟨(Request.function " PLUS\r".toList).bytes p.endTag, none⟩
        (.ok (.function "PLUS".toList))) ∧
    ((Request.functionList.bytes p.endTag).length ≤ p.maxBlockBytes ∧
      Source.Asks p ⟨Request.functionList.bytes p.endTag, none⟩ (.ok .functionList)) := by
  intro p
  have hmax : ((Request.function " PLUS\r".toList).bytes p.endTag).length ≤ p.maxBlockBytes := by
    decide
  have hlist : (Request.functionList.bytes p.endTag).length ≤ p.maxBlockBytes := by decide
  obtain ⟨hfunction, hfunctions⟩ := asks_function_iff p " PLUS\r".toList
  have hname : Command.ofName " PLUS\r".toList = .ok (.function "PLUS".toList) := by
    decide +kernel
  exact ⟨⟨hmax, hname ▸ (hfunction hmax).1.2 (by decide)⟩, hlist, hfunctions hlist⟩

/-- A line feed in a name takes another command to the server. -/
theorem commandLines_function_quit :
    let p : Protocol := ⟨"END".toList, 64⟩
    let s : Source := ⟨(Request.function "X\nquit".toList).bytes p.endTag, none⟩
    s.unread.length ≤ p.maxBlockBytes ∧
      s.commandLines p = [.ok ⟨"fn".toList, ["X".toList]⟩, .ok ⟨"quit".toList, []⟩] ∧
      Command.parse ⟨"quit".toList, []⟩ = .ok .quit ∧ ∀ c, ¬ s.Asks p c := by
  intro p s
  have hmax : s.unread.length ≤ p.maxBlockBytes := by decide
  have hlines : Text.lines "X\nquit".toList = ["X".toList, "quit".toList] := by decide
  have hread : s.commandLines p = [.ok ⟨"fn".toList, ["X".toList]⟩, .ok ⟨"quit".toList, []⟩] :=
    (commandLines_function hlines hmax).trans (by decide +kernel)
  refine ⟨hmax, hread, by decide +kernel, ?_⟩
  rintro c ⟨line, t, -, -, hone, -⟩
  simp [hread] at hone

end Client.Request
end DefinitionServer
