import DefinitionServer.Value.Rows

/-!
# Result tokens

What an interpreter says of a definition: the name it defined, a diagnostic, or a value. Every
token has a form on one line, which is what a client sees of it.
-/
namespace DefinitionServer

/-- The classes of mistakes in a definition or a request for one. -/
inductive Diagnostic where
  /-- The header is not of the form of a header. -/
  | syntaxError
  /-- No header, or a name bound twice. -/
  | defnError
  /-- Something other than characters. -/
  | domainError
  /-- Neither a vector nor a matrix. -/
  | rankError
  /-- No such function. -/
  | valueError
deriving DecidableEq, Repr

/-- The wording of a diagnostic. -/
def Diagnostic.message : Diagnostic → Text
  | syntaxError => "SYNTAX ERROR".toList
  | defnError => "DEFN ERROR".toList
  | domainError => "DOMAIN ERROR".toList
  | rankError => "RANK ERROR".toList
  | valueError => "VALUE ERROR".toList

/-- The outcome of a definition. -/
inductive Token where
  | defined (name : Text)
  | diagnostic (d : Diagnostic)
  | value (v : Value)
deriving DecidableEq

namespace Token

/-- The token reports a diagnostic. -/
def isDiagnostic : Token → Bool
  | diagnostic _ => true
  | _ => false

/-- A line break shows as a space. -/
def unbroken (c : Char) : Char := if c = '\n' ∨ c = '\r' then ' ' else c

/-- The form of the token that is sent. The line breaks of a value are made spaces. -/
def canonical : Token → Text
  | defined name => name
  | diagnostic d => d.message
  | value v => v.display.map unbroken

end Token
end DefinitionServer
