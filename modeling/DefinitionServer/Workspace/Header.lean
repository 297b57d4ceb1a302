import DefinitionServer.Text.Letter
import DefinitionServer.Workspace.Token

/-!
# Function headers

A header is a line `Z←A F B;L1;L2`: a result, a left argument, the function, a right argument and
local names. Only the function is needed, and a left argument only goes with a right one. Blanks
may stand around every part, and one del may stand before the whole.

The names that a header may bind begin with a letter or one of the signs `∆`, `⍙` and `_`, which any
of these, numerals and high minuses may follow.

## Main definitions

* `Name.isName`: the text is a name.
* `Header.parse`: reads a header line.
-/
namespace DefinitionServer

/-! ## Names -/

namespace Name

/-- The character may begin a name. -/
def begins (c : Char) : Bool := Text.isLetter c || c = '∆' || c = '⍙' || c = '_'

/-- The character may stand in a name after its first. -/
def continues (c : Char) : Bool := begins c || Text.isNumeral c || c = '¯'

/-- The text is a name. -/
def isName : Text → Bool
  | [] => false
  | c :: cs => begins c && cs.all continues

end Name

/-! ## Headers -/

/-- The names that a header line binds. -/
structure Header where
  name : Text
  result : Option Text
  left : Option Text
  right : Option Text
  locals : List Text
deriving DecidableEq, Repr

namespace Header

/-- All names bound, the function's first. -/
def names (h : Header) : List Text :=
  h.name :: (h.result.toList ++ h.left.toList ++ h.right.toList ++ h.locals)

/-- The text, if it is a name. -/
def named (t : Text) : Except Diagnostic Text :=
  if Name.isName t then .ok t else .error .syntaxError

/-- The result and the rest of a signature, parted by the first arrow. -/
def resultOf (signature : Text) : Except Diagnostic (Option Text × Text) :=
  match signature.cut '←' with
  | some (result, call) => (named result.trim).map fun z => (some z, call)
  | none => .ok (none, signature)

/-- The left argument, the function and the right argument of one to three words. -/
def callOf : List Text → Except Diagnostic (Option Text × Text × Option Text)
  | [name] => .ok (none, name, none)
  | [name, right] => .ok (none, name, some right)
  | [left, name, right] => .ok (some left, name, some right)
  | _ => .error .syntaxError

/-- The line without the blanks around it and one leading del. -/
def undelled (line : Text) : Text :=
  let line := line.trim
  (Text.after? ['∇'] line).getD line

/-- Reads a header line. A part that is no name is a syntax error; a name bound twice is a
definition error. -/
def parse (line : Text) : Except Diagnostic Header := do
  let sections := (undelled line).splitOn ';'
  let locals ← sections.tail.mapM fun part => named (Text.trim part)
  let (result, call) ← resultOf (sections.headD [])
  let words ← (Text.words call).mapM named
  let (left, name, right) ← callOf words
  let header : Header := ⟨name, result, left, right, locals⟩
  if header.names.Nodup then .ok header else .error .defnError

end Header
end DefinitionServer
