import DefinitionServer.Client.Error

/-!
# Responses

The client reads the lines that the server sends up to the end tag. What they say shows whether
the server has refused the request.

## Main definitions

* `Client.Response.read`: reads a response.
* `Client.Response.isFailure`: the response is a refusal.
-/
namespace DefinitionServer.Client

/-- What the server answers. -/
structure Response where
  body : Text
deriving DecidableEq, Repr

namespace Response

/-- A line without the carriage returns and the line feed that end it. -/
def trimLine (line : Text) : Text :=
  (line.reverse.dropWhile fun c => c = '\r' || c = '\n').reverse

/-- What is wrong with a line that is no text. -/
def notText : Text := "stream did not contain valid UTF-8".toList

/-- Reads lines up to the end tag: the lines before it, and the bytes after it. -/
def readLines (endTag : Text) (input : Bytes) : Except ClientError (List Text) × Bytes :=
  if _empty : input = [] then (.error .missingEndTag, [])
  else
    match Text.Utf8.decode? (Lines.next Bytes.lf input).1 with
    | .error _ => (.error (.read notText), (Lines.next Bytes.lf input).2)
    | .ok line =>
      if trimLine line = endTag then (.ok [], (Lines.next Bytes.lf input).2)
      else
        let (lines, rest) := readLines endTag (Lines.next Bytes.lf input).2
        (lines.map (trimLine line :: ·), rest)
termination_by input.length
decreasing_by
  have := Lines.length_next Bytes.lf input
  have := List.length_pos_iff.2 (Lines.next_ne_nil Bytes.lf _empty)
  omega

/-- Reads a response: what the server answers, and the bytes after it. -/
def read (endTag : Text) (input : Bytes) : Except ClientError Response × Bytes :=
  let (lines, rest) := readLines endTag input
  (lines.map fun ls => ⟨Text.join '\n' ls⟩, rest)

/-- The response reports an error, or is a diagnostic, which takes one line. -/
def isFailure (r : Response) : Bool :=
  "error:".toList.isPrefixOf r.body ||
    (!r.body.contains '\n' && " ERROR".toList.isSuffixOf r.body)

end Response
end DefinitionServer.Client
