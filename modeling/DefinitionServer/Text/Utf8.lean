import DefinitionServer.Bytes
import DefinitionServer.Text.Basic

/-!
# UTF-8

Characters written as bytes and read back. Reading cuts the bytes into pieces: characters, and
between them the ill-formed stretches, each the longest beginning of a character that the next
byte does not continue. Two readers are built on the pieces. One replaces every ill-formed
stretch; the other refuses the text and says where the first one stands.

## Main definitions

* `encode`: the bytes of a text.
* `pieces`: the bytes cut into characters and ill-formed stretches.
* `decodeLossy`, `decode?`: the two readers.
-/
namespace DefinitionServer.Text.Utf8

/-- The bytes of a text. -/
def encode (t : Text) : Bytes := t.flatMap String.utf8EncodeChar

/-- A stretch of bytes that belongs together. -/
inductive Piece
  /-- A whole character. -/
  | char (c : Char)
  /-- Bytes that the byte after them does not continue, or a byte that begins no character. -/
  | illFormed (width : Nat)
  /-- The beginning of a character that the end of the text cuts short. -/
  | truncated (width : Nat)
deriving DecidableEq, Repr

/-- The character that stands for an ill-formed stretch. -/
def replacement : Char := '\uFFFD'

/-- Where reading stands between two bytes. -/
inductive Progress
  /-- No character has begun. -/
  | between
  /-- `seen` bytes of a character are read and give `code`. Of the `left` further bytes the next
  lies in `lo` through `hi`. -/
  | within (seen left : Nat) (lo hi : UInt8) (code : Nat)
deriving DecidableEq, Repr

/-- Reads the first byte of a character. The bounds of the second byte keep out overlong forms,
surrogates and code points past the last one. -/
def begin (b : UInt8) : List Piece × Progress :=
  let n := b.toNat
  if n < 0x80 then ([.char (Char.ofNat n)], .between)
  else if n < 0xC2 then ([.illFormed 1], .between)
  else if n < 0xE0 then ([], .within 1 1 0x80 0xBF (n - 0xC0))
  else if n = 0xE0 then ([], .within 1 2 0xA0 0xBF 0)
  else if n = 0xED then ([], .within 1 2 0x80 0x9F 0xD)
  else if n < 0xF0 then ([], .within 1 2 0x80 0xBF (n - 0xE0))
  else if n = 0xF0 then ([], .within 1 3 0x90 0xBF 0)
  else if n < 0xF4 then ([], .within 1 3 0x80 0xBF (n - 0xF0))
  else if n = 0xF4 then ([], .within 1 3 0x80 0x8F 4)
  else ([.illFormed 1], .between)

/-- Reads one byte: the pieces it completes, and where reading stands after it. -/
def step : Progress → UInt8 → List Piece × Progress
  | .between, b => begin b
  | .within seen left lo hi code, b =>
    if lo ≤ b ∧ b ≤ hi then
      let code := code * 64 + (b.toNat - 0x80)
      if left ≤ 1 then ([.char (Char.ofNat code)], .between)
      else ([], .within (seen + 1) (left - 1) 0x80 0xBF code)
    else
      let (found, next) := begin b
      (.illFormed seen :: found, next)

/-- The pieces that the end of the text completes. -/
def finish : Progress → List Piece
  | .between => []
  | .within seen .. => [.truncated seen]

/-- The pieces of the bytes read from a given standing. -/
def piecesFrom : Progress → Bytes → List Piece
  | s, [] => finish s
  | s, b :: bs => (step s b).1 ++ piecesFrom (step s b).2 bs

/-- The bytes cut into characters and ill-formed stretches. -/
def pieces (bs : Bytes) : List Piece := piecesFrom .between bs

/-- The character that a piece shows as. -/
def Piece.shown : Piece → Char
  | .char c => c
  | _ => replacement

/-- The text of the bytes, with `replacement` for each ill-formed stretch. -/
def decodeLossy (bs : Bytes) : Text := (pieces bs).map Piece.shown

/-- Why bytes are not a text: where the first ill-formed stretch begins, and its width unless the
end of the bytes cuts it short. -/
structure Fault where
  index : Nat
  width : Option Nat
deriving DecidableEq, Repr

/-- The characters of the pieces, or the first that is none. `index` bytes precede them. -/
def assemble (index : Nat) : List Piece → Except Fault Text
  | [] => .ok []
  | .char c :: ps => (assemble (index + c.utf8Size) ps).map (c :: ·)
  | .illFormed width :: _ => .error ⟨index, some width⟩
  | .truncated _ :: _ => .error ⟨index, none⟩

/-- The text of the bytes, when every byte belongs to a character. -/
def decode? (bs : Bytes) : Except Fault Text := assemble 0 (pieces bs)

/-- The wording of a fault. -/
def Fault.message : Fault → Text
  | ⟨index, some width⟩ =>
    "invalid utf-8 sequence of ".toList ++ ofNat width ++ " bytes from index ".toList ++ ofNat index
  | ⟨index, none⟩ => "incomplete utf-8 byte sequence from index ".toList ++ ofNat index

end DefinitionServer.Text.Utf8
