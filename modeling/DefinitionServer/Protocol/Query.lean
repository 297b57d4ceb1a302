import DefinitionServer.Protocol.Remark
import DefinitionServer.Protocol.Source

/-!
# Queries

A command line, with the block that belongs to it, asks the interpreter one question. The answer
is a text, the body of the response.

## Main definitions

* `Query.ofLine`: the query that a command line opens. A rejected definition still takes its block
  off the stream, so that no line of it is read as a command.
* `Interpreter.answer`: the body that answers a query.
-/
namespace DefinitionServer

/-- A question for the interpreter. -/
inductive Query where
  /-- Define the function with these lines. -/
  | define (lines : List Bytes)
  /-- The source of the function. -/
  | function (name : Text)
  /-- The names of all functions. -/
  | functionList
deriving DecidableEq, Repr

/-- The query that a command line opens, with what it takes off the stream. Closing the connection
asks nothing. -/
def Query.ofLine (p : Protocol) (line : CommandLine) (s : Source) :
    Except RequestError (Option Query) × Source :=
  match Command.parse line with
  | .ok .define =>
    match s.loadBlock p with
    | (.ok lines, t) => (.ok (some (.define lines)), t)
    | (.error e, t) => (.error e, t)
  | .ok (.function name) => (.ok (some (.function name)), s)
  | .ok .functionList => (.ok (some .functionList), s)
  | .ok .quit => (.ok none, s)
  | .error e =>
    if line.name = Command.defineName then
      match s.loadBlock p with
      | (.ok _, t) => (.error e, t)
      | (.error blockError, t) => (.error blockError, t)
    else (.error e, s)

theorem Query.ofLine_length_le (p : Protocol) (line : CommandLine) (s : Source) :
    (Query.ofLine p line s).2.unread.length ≤ s.unread.length := by
  have hb := s.loadBlock_length_le p
  unfold Query.ofLine
  repeat' split
  all_goals simp_all

namespace Interpreter

variable {σ : Type}

/-- A question put to the interpreter, whose fault fails the request. -/
def ask {α : Type} (f : σ → Except Fault α × σ) (s : σ) : Except RequestError α × σ :=
  match f s with
  | (.ok a, s) => (.ok a, s)
  | (.error fault, s) => (.error (.interpreter fault), s)

/-- What comes of a query: the body of the response, the state after it, and what the log says. -/
structure Reply (σ : Type) where
  body : Except RequestError Text
  state : σ
  log : List Log.Record := []

/-- Defines a function from an array of rows. The body is the form of the token. -/
def invoke (I : Interpreter σ) (v : Value) (s : σ) : Reply σ :=
  match ask (I.define v) s with
  | (.ok token, t) => ⟨.ok token.canonical, t, I.remarks v s ++ [Remark.evaluated token]⟩
  | (.error e, t) => ⟨.error e, t, I.remarks v s⟩

/-- The rows of a source on lines of their own, or a diagnostic when there are none to show. -/
def sourceBody (source : Option Value) : Except RequestError Text :=
  match source.map Value.rows with
  | some (.ok rows) => .ok (Text.join '\n' rows)
  | some (.error .tooMany) => .error (.interpreter .exhausted)
  | some (.error .notText) | none => .ok Diagnostic.valueError.message

/-- Answers a query. -/
def answer (I : Interpreter σ) : Query → σ → Reply σ
  | .define lines, s =>
    let received := Remark.blockReceived lines.length
    match Value.ofLines lines with
    | .ok v =>
      let reply := I.invoke v s
      { reply with log := received :: reply.log }
    | .error e => ⟨.error (.invalidValue e), s, [received]⟩
  | .function name, s =>
    let (source, t) := ask (I.source name) s
    { body := source.bind sourceBody, state := t }
  | .functionList, s =>
    let (names, t) := ask I.names s
    { body := names.map (Text.join '\n'), state := t }

end Interpreter
end DefinitionServer
