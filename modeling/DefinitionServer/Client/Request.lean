import DefinitionServer.Client.Error
import DefinitionServer.Protocol.Source

/-!
# Requests of the client

A request is one frame of text: a command line and, for a definition, the lines of the source with
the end tag after them.

## Main definitions

* `Client.Request.ofSource`: the request that defines the function in a source file.
* `Client.Request.frame`: the frame of a request.
-/
namespace DefinitionServer.Client

/-- A request. -/
inductive Request where
  | define (lines : List Text)
  | function (name : Text)
  | functionList
deriving DecidableEq, Repr

/-- The lines of a source file. -/
def sourceLines (content : Bytes) : List Text :=
  Lines.split '\n' '\r' (Text.Utf8.decodeLossy content)

namespace Request

/-- The request that defines the function in a source file. No line of it may be the end tag. -/
def ofSource (endTag path : Text) (content : Bytes) : Except ClientError Request :=
  match (sourceLines content).findIdx? (· = endTag) with
  | some i => .error (.endTagInSource path (i + 1))
  | none => .ok (.define (sourceLines content))

/-- The frame of a request. -/
def frame (endTag : Text) : Request → Text
  | define lines =>
    "def\n".toList ++ lines.flatMap (· ++ ['\n']) ++ endTag ++ ['\n']
  | function name => "fn:".toList ++ name ++ ['\n']
  | functionList => "fnlist\n".toList

/-- The bytes of the frame. -/
def bytes (endTag : Text) (r : Request) : Bytes := Text.Utf8.encode (r.frame endTag)

end Request

/-- What a receiver takes of some bytes before it breaks down, and why it did. -/
def accept (limit : Option Breakdown) (data : Bytes) : Bytes × Except Text Unit :=
  match limit with
  | none => (data, .ok ())
  | some b => (data.take b.after, if b.after < data.length then .error b.reason else .ok ())

/-- Sends a request: the bytes that the receiver takes, and whether these were all. -/
def Request.send (endTag : Text) (limit : Option Breakdown) (r : Request) :
    Bytes × Except ClientError Unit :=
  let (taken, result) := accept limit (r.bytes endTag)
  (taken, result.mapError .send)

end DefinitionServer.Client
