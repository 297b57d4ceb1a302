import DefinitionServer.Proofs.Block
import DefinitionServer.Proofs.Rows
import DefinitionServer.Protocol.Session

/-!
# Conversations

The lines that a client sends decide by themselves what it asks for, in which order, and why the
asking ends. An interpreter then meets these demands one after the other until it fails. This is
what serving a connection comes to, said without streams, sessions or rounds.

## Main definitions

* `Protocol.PassesOver`: the line is blank, and no command is looked for on it.
* `Conversation.ofLines`: the demands on the lines of a connection, and what ends them.
* `Interpreter.run`: the bodies with which an interpreter meets demands, the calls it receives for
  them, and its state after them.
* `Interpreter.recorded`: the interpreter that also keeps the calls it receives.
-/
namespace DefinitionServer

/-! ## Demands -/

/-- What a client is owed a response to: a query, or a request that is in error. -/
abbrev Demand := Except RequestError Query

/-- What ends a conversation. -/
inductive Ending where
  /-- Nothing more is sent. -/
  | inputEnds
  /-- The client asks to close the connection. -/
  | quit
  /-- A line or a block is too long, or a block has no end tag. -/
  | fails (e : RequestError)
deriving DecidableEq

/-- What a client asks for over a connection. -/
structure Conversation where
  demands : List Demand
  ending : Ending

/-- The demand of a command line, and the lines that it leaves. The block of a definition goes
with it, also when the definition is rejected. -/
def CommandLine.demand (p : Protocol) (line : CommandLine) (ls : List Bytes) :
    Except Ending (Demand × List Bytes) :=
  match Command.parse line with
  | .ok .define =>
    match Block.read p ls with
    | .ok (block, after) => .ok (.ok (.define block), after)
    | .error e => .error (.fails e)
  | .ok (.function name) => .ok (.ok (.function name), ls)
  | .ok .functionList => .ok (.ok .functionList, ls)
  | .ok .quit => .error .quit
  | .error e =>
    if line.name = Command.defineName then
      match Block.read p ls with
      | .ok (_, after) => .ok (.error e, after)
      | .error e => .error (.fails e)
    else .ok (.error e, ls)

/-- The demand on a line that is not blank. One that makes no sense goes alone. -/
def Demand.ofLine (p : Protocol) (line : Bytes) (ls : List Bytes) :
    Except Ending (Demand × List Bytes) :=
  match CommandLine.parse line with
  | .ok command => command.demand p ls
  | .error e => .ok (.error e, ls)

/-- What a line asks for, and what it takes of the lines after it: it asks to quit, or takes none of
them, or takes a block. -/
theorem Demand.ofLine_cases (p : Protocol) (line : Bytes) :
    (∀ ls, ofLine p line ls = .error .quit) ∨ (∃ d, ∀ ls, ofLine p line ls = .ok (d, ls)) ∨
      ∃ ofBlock : List Bytes → Demand, ∀ ls, ofLine p line ls =
        match Block.read p ls with
        | .ok (block, after) => .ok (ofBlock block, after)
        | .error e => .error (.fails e) := by
  simp only [ofLine]
  cases CommandLine.parse line with
  | error e => exact .inr (.inl ⟨_, fun _ => rfl⟩)
  | ok command =>
    simp only [CommandLine.demand]
    cases Command.parse command with
    | error e =>
      by_cases hname : command.name = Command.defineName
      · simp only [if_pos hname]
        exact .inr (.inr ⟨_, fun _ => rfl⟩)
      · simp only [if_neg hname]
        exact .inr (.inl ⟨_, fun _ => rfl⟩)
    | ok command =>
      cases command with
      | define => exact .inr (.inr ⟨_, fun _ => rfl⟩)
      | function name => exact .inr (.inl ⟨_, fun _ => rfl⟩)
      | functionList => exact .inr (.inl ⟨_, fun _ => rfl⟩)
      | quit => exact .inl fun _ => rfl

/-- The lines after a demand are the last of the lines. -/
theorem Demand.ofLine_suffix {p : Protocol} {line : Bytes} {ls after : List Bytes} {d : Demand}
    (h : Demand.ofLine p line ls = .ok (d, after)) : after <:+ ls := by
  rcases ofLine_cases p line with hline | ⟨_, hline⟩ | ⟨_, hline⟩ <;> rw [hline] at h
  · cases h
  · obtain ⟨-, rfl⟩ := Prod.mk.inj (Except.ok.inj h)
    exact List.suffix_refl _
  · rcases hread : Block.read p ls with e | ⟨block, rest⟩ <;> rw [hread] at h
    · cases h
    · obtain ⟨-, rfl⟩ := Prod.mk.inj (Except.ok.inj h)
      obtain ⟨l, hsuffix⟩ := Block.suffix_of_read hread
      exact (List.suffix_cons l _).trans hsuffix

theorem Demand.read_of_define {p : Protocol} {line : Bytes} {ls block after : List Bytes}
    (h : Demand.ofLine p line ls = .ok (.ok (.define block), after)) :
    Block.read p ls = .ok (block, after) := by
  unfold Demand.ofLine CommandLine.demand at h
  repeat' split at h
  all_goals simp only [Except.ok.injEq, Prod.mk.injEq, reduceCtorEq, false_and,
    Query.define.injEq] at h
  obtain ⟨rfl, rfl⟩ := h
  assumption

/-- A demand is in error when its line is no command line or names no command with its arguments. -/
theorem Demand.error_cases {p : Protocol} {line : Bytes} {ls after : List Bytes} {e : RequestError}
    (h : Demand.ofLine p line ls = .ok (.error e, after)) :
    CommandLine.parse line = .error e ∨
      ∃ command, CommandLine.parse line = .ok command ∧ Command.parse command = .error e := by
  rw [Demand.ofLine] at h
  split at h
  · rename_i command hline
    refine .inr ⟨command, hline, ?_⟩
    rw [CommandLine.demand] at h
    repeat' split at h
    all_goals simp only [Except.ok.injEq, Prod.mk.injEq, reduceCtorEq, false_and,
      Except.error.injEq] at h
    all_goals
      obtain ⟨rfl, -⟩ := h
      assumption
  · rename_i e' hline
    simp only [Except.ok.injEq, Prod.mk.injEq, Except.error.injEq] at h
    exact .inl (h.1 ▸ hline)

/-- The line is within the limit and has nothing but white space. No command is looked for on it. -/
def Protocol.PassesOver (p : Protocol) (line : Bytes) : Prop :=
  line.length ≤ p.maxBlockBytes ∧ (Bytes.content line).all Source.isSpace = true

instance (p : Protocol) (line : Bytes) : Decidable (p.PassesOver line) :=
  inferInstanceAs (Decidable (_ ∧ _))

/-- The conversation that lines make. Blank lines say nothing, and a line over the limit ends it. -/
def Conversation.ofLines (p : Protocol) : List Bytes → Conversation
  | [] => ⟨[], .inputEnds⟩
  | l :: ls =>
    if p.maxBlockBytes < l.length then
      ⟨[], .fails (.tooLarge (p.maxBlockBytes + 1) p.maxBlockBytes)⟩
    else if (Bytes.content l).all Source.isSpace then ofLines p ls
    else
      match _h : Demand.ofLine p (Bytes.content l) ls with
      | .ok (d, after) => ⟨d :: (ofLines p after).demands, (ofLines p after).ending⟩
      | .error e => ⟨[], e⟩
termination_by ls => ls.length
decreasing_by
  all_goals simp only [List.length_cons]
  · omega
  · have := (Demand.ofLine_suffix _h).length_le
    omega

/-! ## Meeting demands -/

/-- A question as an interpreter hears it. -/
inductive Interpreter.Call where
  | define (v : Value)
  | names
  | source (name : Text)
deriving DecidableEq

/-- The call that a query makes. The lines of a definition become the vector of their texts. -/
def Query.call : Query → Interpreter.Call
  | .define lines => .define (.ofRows (lines.map Text.Utf8.decodeLossy))
  | .function name => .source name
  | .functionList => .names

/-- The calls that a demand makes. -/
def Demand.calls : Demand → List Interpreter.Call
  | .ok q => [q.call]
  | .error _ => []

namespace Interpreter

variable {σ : Type} (I : Interpreter σ)

/-- The text that shows the source of a function. A source without rows is no function's, and one
with more rows than memory holds is a fault. -/
def sourceText : Option Value → Except Fault Text
  | none => .ok Diagnostic.valueError.message
  | some v =>
    match v.rows with
    | .ok rows => .ok (Text.join '\n' rows)
    | .error .notText => .ok Diagnostic.valueError.message
    | .error .tooMany => .error .exhausted

/-- What an interpreter makes of a call: the body of a response, or a fault. -/
def perform : Call → σ → Except Fault Text × σ
  | .define v, s => ((I.define v s).1.map Token.canonical, (I.define v s).2)
  | .names, s => ((I.names s).1.map (Text.join '\n'), (I.names s).2)
  | .source name, s => ((I.source name s).1.bind sourceText, (I.source name s).2)

/-- The body of the response to a demand. A demand in error does not reach the interpreter. -/
def meet : Demand → σ → Except Fault Text × σ
  | .ok q, s => I.perform q.call s
  | .error e, s => (.ok (Sink.errorBody e), s)

/-- What comes of a list of demands. -/
structure Run (σ : Type) where
  /-- The bodies of the responses, in order. -/
  bodies : List Text
  /-- The calls that the interpreter has received, in order. -/
  calls : List Call
  state : σ

/-- Meets demands one after the other. A fault is the end of it. -/
def run : List Demand → σ → Run σ
  | [], s => ⟨[], [], s⟩
  | d :: ds, s =>
    match I.meet d s with
    | (.ok body, t) => ⟨body :: (run ds t).bodies, d.calls ++ (run ds t).calls, (run ds t).state⟩
    | (.error _, t) => ⟨[], d.calls, t⟩

section Run

variable {I} {d : Demand} {s t : σ}

theorem run_of_met {body : Text} (h : I.meet d s = (.ok body, t)) (ds : List Demand) :
    I.run (d :: ds) s =
      ⟨body :: (I.run ds t).bodies, d.calls ++ (I.run ds t).calls, (I.run ds t).state⟩ := by
  rw [run, h]

theorem run_of_fault {f : Fault} (h : I.meet d s = (.error f, t)) (ds : List Demand) :
    I.run (d :: ds) s = ⟨[], d.calls, t⟩ := by
  rw [run, h]

end Run

/-- The interpreter that also keeps the calls it receives, in order. -/
def recorded : Interpreter (σ × List Call) where
  define v s := ((I.define v s.1).1, ((I.define v s.1).2, s.2 ++ [.define v]))
  names s := ((I.names s.1).1, ((I.names s.1).2, s.2 ++ [.names]))
  source name s := ((I.source name s.1).1, ((I.source name s.1).2, s.2 ++ [.source name]))
  remarks v s := I.remarks v s.1

theorem meet_recorded (d : Demand) (s : σ) (calls : List Call) :
    I.recorded.meet d (s, calls) = ((I.meet d s).1, ((I.meet d s).2, calls ++ d.calls)) := by
  rcases d with e | _ | _ | _
  · simp [meet, Demand.calls]
  all_goals rfl

/-- An interpreter that keeps its calls runs as it did and has kept the calls of its run. -/
theorem run_recorded (ds : List Demand) (s : σ) (calls : List Call) :
    I.recorded.run ds (s, calls) =
      ⟨(I.run ds s).bodies, (I.run ds s).calls,
        ((I.run ds s).state, calls ++ (I.run ds s).calls)⟩ := by
  induction ds generalizing s calls with
  | nil => simp [run]
  | cons d ds ih =>
    rw [run, run, meet_recorded]
    rcases I.meet d s with ⟨_ | body, t⟩
    · rfl
    · simp [ih]

end Interpreter
end DefinitionServer
