import DefinitionServer.Proofs.Breakdown

/-!
# Serving makes progress

Three loops read from one stream: serving goes from request to request, the search for a command
line passes over blank lines, and a block is read line by line. Each of their steps takes a line off
the stream, with the terminator that ends it, so each of them ends. Their runs are told here step by
step, with the number of lines that were read on the way. A connection gives at most one line more
than it has line feeds, and no more responses are sent on it than lines are read.

## Main definitions

* `Source.SeeksCommand`, `Source.LoadsBlock`, `Source.ReadsRequest`: runs of the loops that read,
  and how many lines they read.
* `Session.Serves`: a run of serving, how many lines it reads, and what it answers.
-/
namespace DefinitionServer

namespace Lines

variable {α : Type} [DecidableEq α] {lf : α}

theorem length_raw_le_cons (x : α) (l : List α) :
    (raw lf l).length ≤ (raw lf (x :: l)).length := by
  rw [raw]
  split
  · exact Nat.le_succ _
  · split <;> rename_i h <;> simp [h]

/-- The end of a list has no more lines than the list. -/
theorem length_raw_drop_le (n : Nat) (l : List α) :
    (raw lf (l.drop n)).length ≤ (raw lf l).length := by
  induction n generalizing l with
  | zero => exact Nat.le_refl _
  | succ n ih =>
    cases l with
    | nil => exact Nat.le_refl _
    | cons x l => exact Nat.le_trans (ih l) (length_raw_le_cons x l)

/-- There is a line for each line feed, and perhaps one after the last. -/
theorem length_raw_le_count (l : List α) : (raw lf l).length ≤ l.count lf + 1 := by
  induction l using rawInduction lf with
  | nil => exact Nat.zero_le _
  | last x hne hx => rw [raw_of_notMem hx hne]; simp
  | line x l hx ih =>
    rw [raw_append_lf hx, List.length_cons, List.count_append, List.count_cons_self,
      List.count_eq_zero_of_not_mem hx]
    omega

end Lines

/-- The name alone tells a definition from other commands. -/
theorem Command.eq_define_iff {line : CommandLine} {c : Command} (h : Command.parse line = .ok c) :
    c = .define ↔ line.name = Command.defineName := by
  unfold Command.parse Command.bare Command.functionOf at h
  repeat' split at h
  all_goals cases h
  all_goals simp_all

namespace Source

variable {p : Protocol} {s t : Source} {line : Bytes} {max consumed count n : Nat}

/-! ## One line -/

/-- A line was taken off a stream: at least one byte and no more than the limit, up to a line feed
or to the end. -/
structure Takes (max : Nat) (s t : Source) (taken : Bytes) : Prop where
  unread : s.unread = taken ++ t.unread
  pos : 0 < taken.length
  le : taken.length ≤ max
  ended : taken.getLast? = some Bytes.lf ∨ t.unread = []

theorem lines_of_readLine (h : s.readLine max consumed = (.ok (some line), t)) :
    s.lines = s.rawLine :: t.lines := by
  obtain ⟨hraw, rfl⟩ := readLine_unread h
  have hne : s.unread ≠ [] := by
    intro hnil
    rw [rawLine, hnil] at hraw
    exact hraw rfl
  have hlines : s.lines = s.rawLine :: Lines.raw Bytes.lf (Lines.next Bytes.lf s.unread).2 :=
    Lines.raw_eq_next hne
  rw [lines_advance hlines]
  exact hlines

theorem takes_of_readLine (h : s.readLine max consumed = (.ok (some line), t)) :
    s.Takes max t s.rawLine := by
  have hlines := lines_of_readLine h
  obtain ⟨-, hfit, -⟩ := readLine_eq_some h
  refine ⟨?_, Lines.length_pos_of_raw_cons hlines, by omega, ?_⟩
  · rw [← flatten_lines s, ← flatten_lines t, hlines, List.flatten_cons]
  · rcases Lines.raw_cons hlines with ⟨x, hx, -⟩ | ⟨-, -, hnil⟩
    · left
      rw [hx, List.getLast?_concat]
    · right
      exact Lines.raw_eq_nil_iff.1 hnil

theorem length_lines_advance_le (s : Source) (n : Nat) :
    (s.advance n).lines.length ≤ s.lines.length :=
  Lines.length_raw_drop_le n s.unread

/-- Also where reading fails no more lines are left than there were. -/
theorem length_lines_le_of_readLine {r : Except RequestError (Option Bytes)}
    (h : s.readLine max consumed = (r, t)) : t.lines.length ≤ s.lines.length := by
  obtain rfl := congrArg Prod.snd h
  unfold readLine
  simp only
  repeat' split
  all_goals first | exact Nat.le_refl _ | exact length_lines_advance_le s _

/-! ## The loops that read -/

/-- The search for a command line reads `n` lines and comes to a result: blank lines are passed
over up to the first that is not, or to where no line is read. -/
inductive SeeksCommand (p : Protocol) :
    Source → Nat → Except RequestError (Option CommandLine) × Source → Prop
  | ends {s t : Source} (h : s.readLine p.maxBlockBytes 0 = (.ok none, t)) :
    SeeksCommand p s 0 (.ok none, t)
  | fails {s t : Source} {e : RequestError} (h : s.readLine p.maxBlockBytes 0 = (.error e, t)) :
    SeeksCommand p s 0 (.error e, t)
  | blank {s t : Source} {line : Bytes} {n : Nat}
      {r : Except RequestError (Option CommandLine) × Source}
      (h : s.readLine p.maxBlockBytes 0 = (.ok (some line), t)) (hline : line.all isSpace = true)
      (hrest : SeeksCommand p t n r) : SeeksCommand p s (n + 1) r
  | found {s t : Source} {line : Bytes} (h : s.readLine p.maxBlockBytes 0 = (.ok (some line), t))
      (hline : line.all isSpace = false) :
    SeeksCommand p s 1 ((CommandLine.parse line).map some, t)

/-- The reading of a block, of which `count` lines with `consumed` bytes are there already, reads
`n` lines and comes to a result: lines are kept up to the end tag, or to where no line is read. -/
inductive LoadsBlock (p : Protocol) :
    Nat → Nat → Source → Nat → Except RequestError (List Bytes) × Source → Prop
  | ends {consumed count : Nat} {s t : Source}
      (h : s.readLine p.maxBlockBytes consumed = (.ok none, t)) :
    LoadsBlock p consumed count s 0 (.error (.unterminated count), t)
  | fails {consumed count : Nat} {s t : Source} {e : RequestError}
      (h : s.readLine p.maxBlockBytes consumed = (.error e, t)) :
    LoadsBlock p consumed count s 0 (.error e, t)
  | closed {consumed count : Nat} {s t : Source} {line : Bytes}
      (h : s.readLine p.maxBlockBytes consumed = (.ok (some line), t))
      (hline : line = Text.Utf8.encode p.endTag) : LoadsBlock p consumed count s 1 (.ok [], t)
  | kept {consumed count : Nat} {s t : Source} {line : Bytes} {n : Nat}
      {r : Except RequestError (List Bytes) × Source}
      (h : s.readLine p.maxBlockBytes consumed = (.ok (some line), t))
      (hline : line ≠ Text.Utf8.encode p.endTag)
      (hrest : LoadsBlock p (consumed + line.length + 1) (count + 1) t n r) :
    LoadsBlock p consumed count s (n + 1) (r.1.map (line :: ·), r.2)

/-- The search for a command line ends. -/
theorem exists_seeksCommand (p : Protocol) (s : Source) :
    ∃ n, SeeksCommand p s n (s.nextCommand p) := by
  fun_induction nextCommand p s with
  | case1 s e t h => exact ⟨0, .fails h⟩
  | case2 s t h => exact ⟨0, .ends h⟩
  | case3 s line t h hline ih =>
    obtain ⟨n, hrest⟩ := ih
    exact ⟨n + 1, .blank h hline hrest⟩
  | case4 s line t h hline => exact ⟨1, .found h (Bool.eq_false_iff.2 hline)⟩

/-- The reading of a block ends. -/
theorem exists_loadsBlock (p : Protocol) (consumed count : Nat) (s : Source) :
    ∃ n, LoadsBlock p consumed count s n (s.loadBlockFrom p consumed count) := by
  fun_induction loadBlockFrom p consumed count s with
  | case1 consumed count s e t h => exact ⟨0, .fails h⟩
  | case2 consumed count s t h => exact ⟨0, .ends h⟩
  | case3 consumed count s t h => exact ⟨1, .closed h rfl⟩
  | case4 consumed count s line t h hline r rest hload ih =>
    obtain ⟨n, hrest⟩ := ih
    rw [hload] at hrest
    exact ⟨n + 1, .kept h hline hrest⟩

/-- A run of the search has the result of the search. -/
theorem SeeksCommand.eq {r : Except RequestError (Option CommandLine) × Source}
    (h : SeeksCommand p s n r) : s.nextCommand p = r := by
  induction h with
  | ends h => rw [nextCommand_eq, h]
  | fails h => rw [nextCommand_eq, h]
  | blank h hline _ ih =>
    rw [nextCommand_eq, h, ← ih]
    exact if_pos hline
  | found h hline =>
    rw [nextCommand_eq, h]
    exact if_neg (Bool.eq_false_iff.1 hline)

/-- The lines that the search reads are gone from the stream. -/
theorem SeeksCommand.lines_le {r : Except RequestError (Option CommandLine) × Source}
    (h : SeeksCommand p s n r) : n + r.2.lines.length ≤ s.lines.length := by
  induction h with
  | ends h | fails h =>
    rw [Nat.zero_add]
    exact length_lines_le_of_readLine h
  | blank h _ _ ih =>
    rw [lines_of_readLine h, List.length_cons]
    omega
  | found h _ =>
    rw [lines_of_readLine h, List.length_cons, Nat.add_comm]

/-- The lines that the reading of a block reads are gone from the stream. -/
theorem LoadsBlock.lines_le {r : Except RequestError (List Bytes) × Source}
    (h : LoadsBlock p consumed count s n r) : n + r.2.lines.length ≤ s.lines.length := by
  induction h with
  | ends h | fails h =>
    rw [Nat.zero_add]
    exact length_lines_le_of_readLine h
  | closed h _ =>
    rw [lines_of_readLine h, List.length_cons, Nat.add_comm]
  | kept h _ _ ih =>
    rw [lines_of_readLine h, List.length_cons, Nat.add_right_comm]
    exact Nat.succ_le_succ ih

/-- A search that reads no line finds nothing, or cannot go on. -/
theorem SeeksCommand.of_zero {r : Except RequestError (Option CommandLine) × Source}
    (h : SeeksCommand p s 0 r) : r.1 = .ok none ∨ ∃ e, r.1 = .error e ∧ e.isFatal = true := by
  cases h with
  | ends => exact .inl rfl
  | fails h => exact .inr ⟨_, rfl, isFatal_of_readLine h⟩

/-! ## Requests -/

/-- What a command line takes off the stream: a block if it is that of a definition, and nothing
otherwise. -/
theorem source_ofLine (p : Protocol) (line : CommandLine) (s : Source) :
    (Query.ofLine p line s).2 =
      if line.name = Command.defineName then (s.loadBlock p).2 else s := by
  rw [Query.ofLine]
  split <;> rename_i hparse
  · rw [if_pos ((Command.eq_define_iff hparse).1 rfl)]
    rcases s.loadBlock p with ⟨_ | _, t⟩ <;> rfl
  · rw [if_neg (mt (Command.eq_define_iff hparse).2 (by simp))]
  · rw [if_neg (mt (Command.eq_define_iff hparse).2 (by simp))]
  · rw [if_neg (mt (Command.eq_define_iff hparse).2 (by simp))]
  · split
    · rcases s.loadBlock p with ⟨_ | _, t⟩ <;> rfl
    · rfl

/-- The reading of a request takes `n` lines and leaves a stream: those up to its command line and,
where that is the line of a definition, those of its block. -/
inductive ReadsRequest (p : Protocol) : Source → Nat → Source → Prop
  | bare {s t : Source} {r : Except RequestError (Option CommandLine)} {n : Nat}
      (h : SeeksCommand p s n (r, t))
      (hr : ∀ line, r = .ok (some line) → line.name ≠ Command.defineName) : ReadsRequest p s n t
  | block {s t u : Source} {line : CommandLine} {r : Except RequestError (List Bytes)} {n m : Nat}
      (h : SeeksCommand p s n (.ok (some line), t)) (hline : line.name = Command.defineName)
      (hload : LoadsBlock p 0 0 t m (r, u)) : ReadsRequest p s (n + m) u

/-- The reading of a request ends. -/
theorem exists_readsRequest (p : Protocol) (s : Source) :
    ∃ n, ReadsRequest p s n (s.nextDemand p).2 := by
  obtain ⟨n, hseeks⟩ := exists_seeksCommand p s
  rw [nextDemand]
  rcases hc : s.nextCommand p with ⟨e | _ | line, t⟩ <;> rw [hc] at hseeks
  · exact ⟨n, .bare hseeks (by simp)⟩
  · exact ⟨n, .bare hseeks (by simp)⟩
  · simp only [source_ofLine]
    split <;> rename_i hname
    · obtain ⟨m, hload⟩ := exists_loadsBlock p 0 0 t
      exact ⟨n + m, .block hseeks hname hload⟩
    · exact ⟨n, .bare hseeks fun line' h => by
        obtain rfl := Option.some.inj (Except.ok.inj h)
        exact hname⟩

theorem ReadsRequest.lines_le (h : ReadsRequest p s n t) :
    n + t.lines.length ≤ s.lines.length := by
  cases h with
  | bare h _ => exact h.lines_le
  | block h _ hload =>
    have hcommand := h.lines_le
    have hblock := hload.lines_le
    simp only at hcommand hblock
    omega

/-- What is asked for was read from a line at least. -/
theorem ReadsRequest.pos {d : Demand} (h : ReadsRequest p s n t)
    (hd : (s.nextDemand p).1 = .ok d) : 0 < n := by
  have hsearch : ∀ n r, SeeksCommand p s n r → 0 < n := by
    intro n r hr
    by_contra hn
    obtain rfl : n = 0 := by omega
    rw [nextDemand, hr.eq] at hd
    obtain ⟨result, u⟩ := r
    rcases hr.of_zero with rfl | ⟨e, rfl, hfatal⟩
    · simp at hd
    · simp [RequestError.verdict_of_fatal hfatal] at hd
  cases h with
  | bare h _ => exact hsearch _ _ h
  | block h _ _ => exact Nat.add_pos_left (hsearch _ _ h) _

end Source

namespace Session

variable {σ : Type} {I : Interpreter σ} {p : Protocol} {s t u : Session σ} {n : Nat}
  {bodies : List Text}

/-! ## Serving -/

/-- Serving reads `n` lines, answers with bodies and leaves a session. A round that goes on has sent
the response to a demand. The last has sent none, or could not send it whole. -/
inductive Serves (I : Interpreter σ) (p : Protocol) :
    Session σ → Nat → List Text → Session σ → Prop
  | silent {s t : Session σ} {n : Nat} (h : s.round I p = (.closes, t))
      (hread : Source.ReadsRequest p s.source n t.source) (hsink : t.sink = s.sink) :
    Serves I p s n [] t
  | cut {s t : Session σ} {n : Nat} {d : Demand} {body : Text} {e : RequestError}
      (h : s.round I p = (.closes, t)) (hread : Source.ReadsRequest p s.source n t.source)
      (hd : (s.source.nextDemand p).1 = .ok d)
      (hsend : s.sink.respond p body = (.error e, t.sink)) : Serves I p s n [body] t
  | answered {s t u : Session σ} {n m : Nat} {d : Demand} {body : Text} {bodies : List Text}
      (h : s.round I p = (.continues, t)) (hread : Source.ReadsRequest p s.source n t.source)
      (hd : (s.source.nextDemand p).1 = .ok d)
      (hsend : s.sink.respond p body = (.ok (), t.sink))
      (hrest : Serves I p t m bodies u) : Serves I p s (n + m) (body :: bodies) u

/-- The last round of serving. -/
theorem exists_serves_of_closes (h : s.round I p = (.closes, t)) :
    ∃ n bodies, Serves I p s n bodies t := by
  obtain ⟨n, hread⟩ := Source.exists_readsRequest p s.source
  obtain ⟨log, hround⟩ := round_eq I p s
  rw [h] at hround
  rcases hnext : s.source.nextDemand p with ⟨e | d, src⟩ <;>
    simp only [hnext, conclude] at hround hread
  · obtain rfl := (Prod.mk.inj hround).2
    exact ⟨n, [], .silent h hread rfl⟩
  have hd : (s.source.nextDemand p).1 = .ok d := congrArg Prod.fst hnext
  rcases hreply : I.reply d s.state with ⟨e | body, u⟩ <;> simp only [hreply] at hround
  · obtain rfl := (Prod.mk.inj hround).2
    exact ⟨n, [], .silent h hread rfl⟩
  rcases hrespond : s.sink.respond p body with ⟨e | _, k⟩ <;> simp only [hrespond] at hround
  · obtain rfl := (Prod.mk.inj hround).2
    exact ⟨n, [body], .cut h hread hd hrespond⟩
  · simp at hround

/-- Serving ends. -/
theorem exists_serves (I : Interpreter σ) (p : Protocol) (s : Session σ) :
    ∃ n bodies, Serves I p s n bodies (s.serve I p) := by
  fun_induction serve I p s with
  | case1 s t h ih =>
    obtain ⟨m, bodies, hrest⟩ := ih
    obtain ⟨d, body, hnext, -, hsend⟩ := exists_of_continues h
    obtain ⟨n, hread⟩ := Source.exists_readsRequest p s.source
    rw [hnext] at hread
    exact ⟨n + m, body :: bodies, .answered h hread (congrArg Prod.fst hnext) hsend hrest⟩
  | case2 s t h => exact exists_serves_of_closes h

/-- The lines that serving reads are gone from the stream. -/
theorem Serves.lines_le (h : Serves I p s n bodies u) :
    n + u.source.lines.length ≤ s.source.lines.length := by
  induction h with
  | silent _ hread _ => exact hread.lines_le
  | cut _ hread _ _ => exact hread.lines_le
  | answered _ hread _ _ _ ih =>
    have hlines := hread.lines_le
    omega

/-- Each response takes a line at least. -/
theorem Serves.length_le (h : Serves I p s n bodies u) : bodies.length ≤ n := by
  induction h with
  | silent => exact Nat.zero_le _
  | cut _ hread hd _ => exact hread.pos hd
  | answered _ hread hd _ _ ih =>
    have hn := hread.pos hd
    rw [List.length_cons]
    omega

/-- What serving writes are the frames of the responses, up to the first write that fails. -/
theorem Serves.sink_eq (h : Serves I p s n bodies u) :
    u.sink = (s.sink.sendAll (bodies.flatMap (Sink.pieces p))).2 := by
  induction h with
  | silent _ _ hsink => exact hsink
  | cut _ _ _ hsend =>
    rw [List.flatMap_singleton, ← Sink.respond_eq_sendAll, hsend]
  | answered _ _ _ hsend _ ih =>
    rw [List.flatMap_cons, Sink.sendAll_append, ← Sink.respond_eq_sendAll, hsend]
    exact ih

/-- **Serving makes progress.** Whatever is sent and whatever the limit is, a line that is read
takes a byte off the stream and no more than the limit, and ends with a line feed or with the
stream. The search for a command line, the reading of a block and serving come to an end after they
have read some lines, at most one more than there are line feeds. Serving writes the frames of no
more responses than it reads lines. -/
theorem serve_progresses (I : Interpreter σ) (p : Protocol) (s : Session σ) :
    (∀ (src t : Source) (consumed : Nat) (line : Bytes),
        src.readLine p.maxBlockBytes consumed = (.ok (some line), t) →
          ∃ taken, src.Takes p.maxBlockBytes t taken) ∧
      (∀ src : Source, ∃ n, src.SeeksCommand p n (src.nextCommand p) ∧
        n ≤ src.unread.count Bytes.lf + 1) ∧
      (∀ src : Source, ∃ n, Source.LoadsBlock p 0 0 src n (src.loadBlock p) ∧
        n ≤ src.unread.count Bytes.lf + 1) ∧
      ∃ n bodies, Serves I p s n bodies (s.serve I p) ∧
        n ≤ s.source.unread.count Bytes.lf + 1 ∧ bodies.length ≤ n ∧
        (s.serve I p).sink = (s.sink.sendAll (bodies.flatMap (Sink.pieces p))).2 := by
  have hlines (src : Source) : src.lines.length ≤ src.unread.count Bytes.lf + 1 :=
    Lines.length_raw_le_count src.unread
  refine ⟨fun src t consumed line h => ⟨_, Source.takes_of_readLine h⟩, fun src => ?_,
    fun src => ?_, ?_⟩
  · obtain ⟨n, hrun⟩ := src.exists_seeksCommand p
    have hle := hrun.lines_le
    exact ⟨n, hrun, Nat.le_trans (by omega) (hlines src)⟩
  · obtain ⟨n, hrun⟩ := src.exists_loadsBlock p 0 0
    have hle := hrun.lines_le
    exact ⟨n, hrun, Nat.le_trans (by omega) (hlines src)⟩
  · obtain ⟨n, bodies, hrun⟩ := exists_serves I p s
    have hle := hrun.lines_le
    exact ⟨n, bodies, hrun, Nat.le_trans (by omega) (hlines s.source), hrun.length_le,
      hrun.sink_eq⟩

end Session
end DefinitionServer
