import DefinitionServer.Client.Error

/-!
# Arguments of the client

The arguments of the client are flags that configure it, and then one command with its own
arguments. Whatever follows the first word that is no such flag belongs to the command.

## Main definitions

* `Client.splitArguments`: the arguments that configure and those of the command.
* `Client.Action.parse`: the command.
-/
namespace DefinitionServer.Client

/-! ## Flags and command -/

/-- The names of the flags that configure. -/
def flagNames : List Text := Flag.all.map Flag.name

/-- The text of an argument. Bytes that are no text have no part in telling flags. -/
def shown (argument : Bytes) : Text := Text.Utf8.decodeLossy argument

/-- The argument is a flag that configures, and whether its value comes as the next argument. -/
def flagWithNext? (argument : Bytes) : Option Bool :=
  match Text.cut '=' (shown argument) with
  | some (name, _) => if name ∈ flagNames then some false else none
  | none => if shown argument ∈ flagNames then some true else none

/-- The flags at the beginning of the arguments with their values, and the rest. -/
def spanFlags : List Bytes → List Bytes × List Bytes
  | [] => ([], [])
  | [a] => if (flagWithNext? a).isSome then ([a], []) else ([], [a])
  | a :: b :: rest =>
    match flagWithNext? a with
    | some true => (a :: b :: (spanFlags rest).1, (spanFlags rest).2)
    | some false => (a :: (spanFlags (b :: rest)).1, (spanFlags (b :: rest)).2)
    | none => ([], a :: b :: rest)

/-- The arguments that configure and the arguments of the command, both after the name of the
program. -/
def splitArguments : List Bytes → List Bytes × List Bytes
  | [] => ([], [])
  | program :: rest => (program :: (spanFlags rest).1, program :: (spanFlags rest).2)

/-! ## The command -/

/-- What the client is told to do. -/
inductive Action where
  /-- Define the function whose source is in a file. -/
  | define (file : Text)
  /-- Show the source of a function. -/
  | function (name : Text)
  /-- List the functions. -/
  | functionList
deriving DecidableEq, Repr

namespace Action

/-- The argument asks for help. -/
def asksForHelp (t : Text) : Bool := t = "--help".toList || ['-', 'h'].isPrefixOf t

/-- The argument looks like an option. -/
def isOption (t : Text) : Bool := t.head? = some '-' && 1 < t.length

/-- The operands of a command, of which there may be `max`, each of an accepted form. Options end at
two dashes. The first argument that does not fit decides. -/
def operands (accepts : Bytes → Bool) (max : Nat) (optionsEnded : Bool) :
    List Bytes → Except ClientError (List Bytes)
  | [] => .ok []
  | a :: rest =>
    let t := shown a
    if !optionsEnded && t = "--".toList then operands accepts max true rest
    else if !optionsEnded && asksForHelp t then .error .help
    else if !optionsEnded && isOption t then .error .usage
    else
      match max with
      | 0 => .error .usage
      | max + 1 =>
        if accepts a then do return a :: (← operands accepts max optionsEnded rest)
        else .error .usage

/-- The only operand of a command. -/
def operand (accepts : Bytes → Bool) (args : List Bytes) : Except ClientError Bytes := do
  match ← operands accepts 1 false args with
  | [a] => return a
  | _ => .error .usage

/-- The argument is a text. -/
def isText (a : Bytes) : Bool := (Text.Utf8.decode? a).toOption.isSome

/-- The command that the arguments after the program's name give. A file must have a name and the
name of a function must be a text. -/
def parse : List Bytes → Except ClientError Action
  | [] => .error .usage
  | a :: rest =>
    if asksForHelp (shown a) then .error .help
    else if shown a = "def".toList then do
      return .define (shown (← operand (· ≠ []) rest))
    else if shown a = "fn".toList then do
      return .function (shown (← operand isText rest))
    else if shown a = "fnlist".toList then do
      let _ ← operands (fun _ => true) 0 false rest
      return .functionList
    else .error .usage

end Action
end DefinitionServer.Client
