import DefinitionServer.Protocol.Error
import DefinitionServer.Text.LowerCase
import DefinitionServer.Text.Utf8

/-!
# Commands

A command line is a command name and arguments, parted by colons. The name is read without the
blanks around it and in lower case; the arguments are kept as they are.

## Main definitions

* `CommandLine.parse`: a line of bytes as a command line.
* `Command.parse`: a command line as one of the four commands.
-/
namespace DefinitionServer

/-- A command line taken apart. -/
structure CommandLine where
  name : Text
  arguments : List Text
deriving DecidableEq, Repr

/-- Reads a command line that has lost its terminator. -/
def CommandLine.parse (line : Bytes) : Except RequestError CommandLine :=
  match Text.Utf8.decode? line with
  | .error fault => .error (.malformed ("invalid UTF-8: ".toList ++ fault.message))
  | .ok text =>
    let parts := (Text.trim text).splitOn ':'
    let name := Text.toLower (Text.trim (parts.headD []))
    if name = [] then .error (.malformed "empty command name".toList) else .ok ⟨name, parts.tail⟩

/-- What a client can ask for. -/
inductive Command where
  /-- Define the function in the block that follows. -/
  | define
  /-- Send the source of a function. -/
  | function (name : Text)
  /-- Send the names of all functions. -/
  | functionList
  /-- Close the connection. -/
  | quit
deriving DecidableEq, Repr

namespace Command

/-- The command, for a line without arguments. -/
def bare (line : CommandLine) (c : Command) : Except RequestError Command :=
  if line.arguments = [] then .ok c
  else .error (.invalidArguments (line.name ++ " takes no arguments".toList))

/-- The request for one function, which the line's only argument names. -/
def functionOf : List Text → Except RequestError Command
  | [name] =>
    if Text.trim name = [] then .error (.invalidArguments needsName)
    else .ok (.function (Text.trim name))
  | _ => .error (.invalidArguments needsName)
where
  needsName : Text := "fn expects exactly one function name".toList

/-- The name of the command that a block follows. -/
def defineName : Text := "def".toList

/-- The command of a command line. -/
def parse (line : CommandLine) : Except RequestError Command :=
  if line.name = defineName then bare line .define
  else if line.name = "fnlist".toList then bare line .functionList
  else if line.name = "quit".toList then bare line .quit
  else if line.name = "fn".toList then functionOf line.arguments
  else .error (.unknownCommand line.name)

end Command
end DefinitionServer
