import DefinitionServer.Protocol.Command

/-!
# The incoming stream

What a client has sent and the server has not yet read. Lines are taken off it one at a time,
within a limit on their size, up to a point where reading may fail. On lines stand command lines
and blocks: the lines up to the end tag.

## Main definitions

* `Protocol`: the end tag and the size limit.
* `Source.readLine`: the next line.
* `Source.nextCommand`: the next command line, blank lines passed over.
* `Source.loadBlock`: the lines up to the end tag.
-/
namespace DefinitionServer

/-- The framing that both ends agree on. -/
structure Protocol where
  /-- The line that closes a block or a response. -/
  endTag : Text
  /-- The largest command line, and the largest block with its end tag. -/
  maxBlockBytes : Nat
deriving DecidableEq, Repr

/-- A point of a stream where an operation fails. -/
structure Breakdown where
  /-- How much still succeeds. -/
  after : Nat
  /-- What the failure says. -/
  reason : Text
deriving DecidableEq, Repr

/-- The unread part of a client's stream. -/
structure Source where
  unread : Bytes
  /-- Reading past so many bytes fails. -/
  breakdown : Option Breakdown := none
deriving DecidableEq, Repr

namespace Source

/-- The stream after its first `n` bytes. -/
def advance (s : Source) (n : Nat) : Source where
  unread := s.unread.drop n
  breakdown := s.breakdown.map fun b => { b with after := b.after - n }

/-- The first line with its terminator. At the end of the stream it may lack one. -/
def rawLine (s : Source) : Bytes := (Lines.next Bytes.lf s.unread).1

/-- How many bytes, with the end of the stream counted as one, show that the first line is
complete or exceeds the budget. -/
def lineReach (s : Source) (budget : Nat) : Nat :=
  min (if s.rawLine.getLast? = some Bytes.lf then s.rawLine.length else s.rawLine.length + 1)
    (budget + 1)

/-- Takes off the next line, without its terminator, when there is one. The line with its
terminator may have `max` bytes less the `consumed` ones. A longer one is read one byte past
that and refused. A failure loses what was read of the line. -/
def readLine (max consumed : Nat) (s : Source) : Except RequestError (Option Bytes) × Source :=
  let budget := max - consumed
  let raw := s.rawLine
  let complete : Except RequestError (Option Bytes) × Source :=
    if raw = [] then (.ok none, s)
    else if budget < raw.length then
      (.error (.tooLarge (consumed + budget + 1) max), s.advance (budget + 1))
    else (.ok (some (Lines.content Bytes.lf Bytes.cr raw)), s.advance raw.length)
  match s.breakdown with
  | some b =>
    if b.after < s.lineReach budget then (.error (.transport b.reason), s.advance b.after)
    else complete
  | none => complete

/-- A line that was read is gone from the stream, with its terminator. -/
theorem readLine_unread {max consumed : Nat} {s t : Source} {line : Bytes}
    (h : s.readLine max consumed = (.ok (some line), t)) :
    s.rawLine ≠ [] ∧ t = s.advance s.rawLine.length := by
  unfold readLine at h
  simp only at h
  split at h
  · split at h
    · simp at h
    · split at h
      · simp at h
      · split at h
        · simp at h
        · simp only [Prod.mk.injEq] at h
          exact ⟨by assumption, h.2.symm⟩
  · split at h
    · simp at h
    · split at h
      · simp at h
      · simp only [Prod.mk.injEq] at h
        exact ⟨by assumption, h.2.symm⟩

theorem readLine_shortens {max consumed : Nat} {s t : Source} {line : Bytes}
    (h : s.readLine max consumed = (.ok (some line), t)) :
    t.unread.length < s.unread.length := by
  obtain ⟨hraw, rfl⟩ := readLine_unread h
  have hlen := Lines.length_next Bytes.lf s.unread
  have hpos : 0 < s.rawLine.length := List.length_pos_iff.2 hraw
  simp only [advance, List.length_drop]
  change s.rawLine.length + _ = _ at hlen
  omega

/-- ASCII white space. -/
def isSpace (b : UInt8) : Bool := b = 9 || b = 10 || b = 12 || b = 13 || b = 32

/-- Reads the next command line. Lines of white space are passed over. -/
def nextCommand (p : Protocol) (s : Source) : Except RequestError (Option CommandLine) × Source :=
  match _h : s.readLine p.maxBlockBytes 0 with
  | (.error e, t) => (.error e, t)
  | (.ok none, t) => (.ok none, t)
  | (.ok (some line), t) =>
    if line.all isSpace then nextCommand p t else ((CommandLine.parse line).map some, t)
termination_by s.unread.length
decreasing_by exact readLine_shortens ‹_›

/-- Reads the lines up to the end tag, of which `count` lines are already read and took `consumed`
bytes. A line counts for its bytes and one more. -/
def loadBlockFrom (p : Protocol) (consumed count : Nat) (s : Source) :
    Except RequestError (List Bytes) × Source :=
  match _h : s.readLine p.maxBlockBytes consumed with
  | (.error e, t) => (.error e, t)
  | (.ok none, t) => (.error (.unterminated count), t)
  | (.ok (some line), t) =>
    if line = Text.Utf8.encode p.endTag then (.ok [], t)
    else
      let (lines, rest) := loadBlockFrom p (consumed + line.length + 1) (count + 1) t
      (lines.map (line :: ·), rest)
termination_by s.unread.length
decreasing_by exact readLine_shortens ‹_›

/-- Reads the lines of a block and its end tag. -/
def loadBlock (p : Protocol) (s : Source) : Except RequestError (List Bytes) × Source :=
  loadBlockFrom p 0 0 s

/-! ## Reading never lengthens the stream -/

theorem readLine_length_le (max consumed : Nat) (s : Source) :
    (s.readLine max consumed).2.unread.length ≤ s.unread.length := by
  unfold readLine
  simp only
  split
  · split
    · simp [advance]
    · split
      · simp
      · split <;> simp [advance]
  · split
    · simp
    · split <;> simp [advance]

/-- What stops the reading of a line ends the connection. -/
theorem isFatal_of_readLine {max consumed : Nat} {s t : Source} {e : RequestError}
    (h : s.readLine max consumed = (.error e, t)) : e.isFatal = true := by
  unfold readLine at h
  simp only at h
  repeat' split at h
  all_goals
    simp only [Prod.mk.injEq, Except.error.injEq, reduceCtorEq, false_and] at h
  all_goals rw [← h.1]; rfl

/-- A command line is gone from the stream once it is read, also when it makes no sense. -/
theorem nextCommand_shortens {p : Protocol} {s t : Source}
    {r : Except RequestError (Option CommandLine)} (h : s.nextCommand p = (r, t))
    (hr : r ≠ .ok none) (he : ∀ e, r = .error e → e.isFatal = false) :
    t.unread.length < s.unread.length := by
  fun_induction nextCommand p s with
  | case1 s e t hl =>
    obtain ⟨rfl, rfl⟩ := Prod.mk.inj h
    exact absurd (isFatal_of_readLine hl) (by simp [he e rfl])
  | case2 s t hl =>
    exact absurd (Prod.mk.inj h).1.symm hr
  | case3 s line t hl _ ih => exact Nat.lt_trans (ih h) (readLine_shortens hl)
  | case4 s line t hl _ =>
    obtain ⟨-, rfl⟩ := Prod.mk.inj h
    exact readLine_shortens hl

theorem loadBlockFrom_length_le (p : Protocol) (consumed count : Nat) (s : Source) :
    (s.loadBlockFrom p consumed count).2.unread.length ≤ s.unread.length := by
  fun_induction loadBlockFrom p consumed count s with
  | case1 consumed _ s e t h => simpa [h] using readLine_length_le p.maxBlockBytes consumed s
  | case2 consumed _ s t h => simpa [h] using readLine_length_le p.maxBlockBytes consumed s
  | case3 _ _ s t h => exact Nat.le_of_lt (readLine_shortens h)
  | case4 _ _ s line t h _ _ _ hb ih =>
    exact Nat.le_trans (by simpa [hb] using ih) (Nat.le_of_lt (readLine_shortens h))

theorem loadBlock_length_le (p : Protocol) (s : Source) :
    (s.loadBlock p).2.unread.length ≤ s.unread.length := loadBlockFrom_length_le p 0 0 s

end Source
end DefinitionServer
