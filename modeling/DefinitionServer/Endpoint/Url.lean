import DefinitionServer.Endpoint.Address
import DefinitionServer.Endpoint.Domain
import DefinitionServer.Text.Utf8

/-!
# URLs

The part of the URL standard that endpoints need: a URL is read into a scheme, a host, a port and
a path. Schemes other than the standard's special ones keep their host as it is written, with
controls and characters beyond ASCII percent-encoded. User information, query and fragment are
passed over.

## Main definitions

* `Url.parse`: reads a URL.
* `Url.segments`: the segments of a path with dot segments resolved.
-/
namespace DefinitionServer

/-- Why a text is no URL. -/
inductive UrlError where
  /-- No scheme stands at the beginning. -/
  | noScheme
  | invalidPort
  | emptyHost
  | invalidIpv6
  | invalidIpv4
  /-- The host of a special scheme is no domain. -/
  | invalidDomain
  /-- The host holds a character that hosts may not hold. -/
  | forbiddenHost
deriving DecidableEq, Repr

/-- The wording of the error. -/
def UrlError.message : UrlError → Text
  | noScheme => "relative URL without a base".toList
  | invalidPort => "invalid port number".toList
  | emptyHost => "empty host".toList
  | invalidIpv6 => "invalid IPv6 address".toList
  | invalidIpv4 => "invalid IPv4 address".toList
  | invalidDomain => "invalid international domain name".toList
  | forbiddenHost => "invalid domain character".toList

/-- A URL taken apart. -/
structure Url where
  scheme : Text
  host : Option Text
  port : Option Nat
  path : Text
deriving DecidableEq, Repr

namespace Url

/-! ## Percent-encoding -/

/-- An upper-case hexadecimal digit. -/
def hexDigit (n : Nat) : Char := (Nat.digitChar n).toUpper

/-- The bytes of the character, each after a percent sign. -/
def percent (c : Char) : Text :=
  (Text.Utf8.encode [c]).flatMap fun b => ['%', hexDigit (b.toNat / 16), hexDigit (b.toNat % 16)]

/-- The text with the characters of a set percent-encoded. -/
def encodeIn (set : Char → Bool) (t : Text) : Text :=
  t.flatMap fun c => if set c then percent c else [c]

/-- Controls and characters beyond ASCII. -/
def isControl (c : Char) : Bool := c.toNat < 0x20 || 0x7F ≤ c.toNat

/-- The characters that are percent-encoded in the segments of a path. -/
def isPathEncoded (c : Char) : Bool :=
  isControl c || c = ' ' || c = '"' || c = '#' || c = '<' || c = '>' || c = '?' || c = '\x60'
    || c = '\x7b' || c = '\x7d'

/-- The characters with each percent sign and two hexadecimal digits as the byte they stand for. -/
def percentDecode : Text → Bytes
  | [] => []
  | '%' :: a :: b :: rest =>
    match Digit.value? a, Digit.value? b with
    | some x, some y => UInt8.ofNat (x * 16 + y) :: percentDecode rest
    | _, _ => Text.Utf8.encode ['%'] ++ percentDecode (a :: b :: rest)
  | c :: rest => Text.Utf8.encode [c] ++ percentDecode rest

/-! ## Scheme -/

/-- The text without controls and spaces at its ends and without tabs and line breaks. -/
def cleaned (t : Text) : Text :=
  let outer (c : Char) : Bool := c.toNat ≤ 0x20
  ((t.dropWhile outer).reverse.dropWhile outer).reverse.filter fun c =>
    c ≠ '\t' && c ≠ '\n' && c ≠ '\r'

/-- The character may stand in a scheme after its first. -/
def isSchemeChar (c : Char) : Bool := c.isAlphanum || c = '+' || c = '-' || c = '.'

/-- The scheme in lower case, and what follows its colon. -/
def splitScheme (t : Text) : Option (Text × Text) :=
  match t.span isSchemeChar with
  | (c :: scheme, ':' :: rest) =>
    if c.isAlpha then some ((c :: scheme).map Char.toLower, rest) else none
  | _ => none

/-- The kinds of schemes, which are read differently. -/
inductive Kind where
  | special
  | file
  | other
deriving DecidableEq, Repr

/-- The kind of a scheme. -/
def Kind.ofScheme (scheme : Text) : Kind :=
  if scheme = "file".toList then .file
  else if ["http", "https", "ws", "wss", "ftp"].any (·.toList = scheme) then .special
  else .other

/-- The character parts the authority from the path. -/
def Kind.endsAuthority (k : Kind) (c : Char) : Bool :=
  c = '/' || c = '?' || c = '#' || (k ≠ .other && c = '\\')

/-! ## Host and port -/

/-- The character may not stand in a host. -/
def isForbidden (c : Char) : Bool :=
  "\x00\t\n\r #/:<>?@[\\]^|".toList.contains c

/-- The IPv6 address between brackets, in its short form. -/
def bracketed (host : Text) : Except UrlError Text :=
  if host.getLast? ≠ some ']' then .error .invalidIpv6
  else
    match Address.ipv6? host.tail.dropLast with
    | some groups => .ok ('[' :: (Address.showIpv6 groups ++ [']']))
    | none => .error .invalidIpv6

/-- A host that is no domain of the internet. -/
def opaqueHost (host : Text) : Except UrlError Text :=
  if host.head? = some '[' then bracketed host
  else if host.any isForbidden then .error .forbiddenHost
  else .ok (encodeIn isControl host)

/-- A part of a numeric host, which may have no digits after `0x`. -/
def numericPart (t : Text) : Option Nat :=
  if t.map Char.toLower = ['0', 'x'] then some 0 else Address.part? t

/-- The host is meant as an IPv4 address: its last part is a number. -/
def endsInNumber (host : Text) : Bool :=
  let parts := host.splitOn '.'
  let last := if parts.getLast? = some [] then parts.dropLast.getLast? else parts.getLast?
  match last with
  | some part => part ≠ [] && (part.all Char.isDigit ||
      ((part.take 2).map Char.toLower = ['0', 'x'] && (numericPart part).isSome))
  | none => false

/-- The numbers of an IPv4 host make an address. -/
def isIpv4 (host : Text) : Bool :=
  let parts := host.splitOn '.'
  let parts := if 1 < parts.length && parts.getLast? = some [] then parts.dropLast else parts
  ((parts.mapM numericPart).bind Address.bytes?).isSome

/-- The host of a special scheme. -/
def specialHost (host : Text) : Except UrlError Text :=
  if host.head? = some '[' then bracketed host
  else
    let isBad (c : Char) : Bool := isForbidden c || c.toNat ≤ 0x20 || c = '%' || c = '\x7F'
    match ((Text.Utf8.decode? (percentDecode host)).toOption.filter fun domain =>
        !domain.any isBad).bind Domain.normalize with
    | none => .error .invalidDomain
    | some [] => .error .emptyHost
    | some domain =>
      if endsInNumber domain && !isIpv4 domain then .error .invalidIpv4 else .ok domain

/-- The authority without user information, and whether there was any. Nothing may stand between
a bare at sign and the path. -/
def afterUser (k : Kind) (t : Text) : Except UrlError (Bool × Text) :=
  let (authority, rest) := t.span fun c => !k.endsAuthority c
  let host := (authority.reverse.takeWhile (· ≠ '@')).reverse
  if host.length = authority.length then .ok (false, t)
  else
    let user := authority.take (authority.length - host.length - 1)
    if user = [] ∧ host = [] ∧ rest ≠ [] then .error .emptyHost
    else .ok (!(user.all (· = ':') && user.length ≤ 1), host ++ rest)

/-- The host at the beginning of an authority: everything up to a colon outside brackets. -/
def spanHost (k : Kind) (inBrackets : Bool) : Text → Text × Text
  | [] => ([], [])
  | c :: rest =>
    if k.endsAuthority c || (c = ':' && !inBrackets) then ([], c :: rest)
    else
      let (host, rest) := spanHost k (c = '[' || (inBrackets && c ≠ ']')) rest
      (c :: host, rest)

/-- The port after a colon. Without digits there is none. -/
def readPort : Text → Except UrlError (Option Nat × Text)
  | ':' :: t =>
    let (digits, rest) := t.span Char.isDigit
    if 65535 < Digit.number 10 digits then .error .invalidPort
    else
      match rest.head? with
      | some c =>
        if c = '/' ∨ c = '\\' ∨ c = '?' ∨ c = '#' then .ok (found digits, rest)
        else .error .invalidPort
      | none => .ok (found digits, rest)
  | t => .ok (none, t)
where
  found (digits : Text) : Option Nat :=
    if digits = [] then none else some (Digit.number 10 digits)

/-! ## Path -/

/-- The path ends before a query or a fragment. -/
def pathPart (t : Text) : Text := t.takeWhile fun c => c ≠ '?' && c ≠ '#'

/-- The segment stands for the one before it. -/
def isDoubleDot (segment : Text) : Bool :=
  ["..", ".%2e", "%2e.", "%2e%2e"].any (·.toList = segment.map Char.toLower)

/-- The segment stands for itself. -/
def isSingleDot (segment : Text) : Bool :=
  [".", "%2e"].any (·.toList = segment.map Char.toLower)

/-- A letter with a colon or a bar. -/
def isDrive : Text → Bool
  | [c, d] => c.isAlpha && (d = ':' || d = '|')
  | _ => false

/-- The segment is a drive, perhaps with names after a backslash. Two dots do not step out of it. -/
def isFixed (segment : Text) : Bool := isDrive (segment.take 2) && (segment.drop 2).head?.all (· = '\\')

/-- The path one step up. -/
def shortened (path : List Text) : List Text :=
  match path.getLast? with
  | some segment => if isFixed segment then path else path.dropLast
  | none => path

/-- The segments of a path, which follow the segments `done`, with dot segments resolved. A dot
segment at the end leaves an empty segment. -/
def segmentsAfter (done : List Text) : List Text → List Text
  | [] => done
  | [last] =>
    if isDoubleDot last then shortened done ++ [[]]
    else if isSingleDot last then done ++ [[]]
    else done ++ [last]
  | segment :: rest =>
    if isDoubleDot segment then segmentsAfter (shortened done) rest
    else if isSingleDot segment then segmentsAfter done rest
    else segmentsAfter (done ++ [segment]) rest

/-- The segments of a path that begins with a slash, with dot segments resolved. -/
def segments (path : Text) : List Text :=
  segmentsAfter [] ((encodeIn (fun c => c ≠ '/' && isPathEncoded c) path).splitOn '/').tail

/-- The text of a path that begins with a slash. -/
def hierarchicalPath (path : Text) : Text := (segments path).flatMap ('/' :: ·)

/-- The path after an authority. -/
def pathAfterAuthority (t : Text) : Text :=
  match pathPart t with
  | [] => []
  | '/' :: path => hierarchicalPath ('/' :: path)
  | path => hierarchicalPath ('/' :: path)

/-! ## Reading a URL -/

/-- Reads the authority and the path of a URL, the two slashes being read. -/
def parseAuthority (k : Kind) (scheme t : Text) : Except UrlError Url := do
  let (hasUser, t) ← afterUser k t
  let (written, rest) := spanHost k false t
  if k = .special ∧ written = [] then .error .emptyHost
  let host ← if k = .other then opaqueHost written else specialHost written
  if host = [] ∧ rest.head? = some ':' then .error .emptyHost
  let (port, rest) ← readPort rest
  if host = [] ∧ hasUser then .error .emptyHost
  return { scheme, host := if host = [] then none else some host, port,
           path := pathAfterAuthority rest }

/-- Reads what follows the scheme of a file URL. Its host may be a drive, which is none. -/
def parseFile (scheme t : Text) : Except UrlError Url :=
  let isSlash (c : Char) : Bool := c = '/' || c = '\\'
  match t with
  | a :: b :: rest =>
    if isSlash a && isSlash b then
      let (host, path) := rest.span fun c => !Kind.file.endsAuthority c
      if host = [] || isDrive host then .ok ⟨scheme, none, none, pathAfterAuthority rest⟩
      else (specialHost host).map fun h => ⟨scheme, some h, none, pathAfterAuthority path⟩
    else .ok ⟨scheme, none, none, pathAfterAuthority t⟩
  | _ => .ok ⟨scheme, none, none, pathAfterAuthority t⟩

/-- Reads a URL. Without two slashes after the scheme there is no host, and without any slash the
path is kept as it stands. -/
def parse (t : Text) : Except UrlError Url :=
  match splitScheme (cleaned t) with
  | none => .error .noScheme
  | some (scheme, rest) =>
    match Kind.ofScheme scheme with
    | .file => parseFile scheme rest
    | .special => parseAuthority .special scheme (rest.dropWhile fun c => c = '/' || c = '\\')
    | .other =>
      match rest with
      | '/' :: '/' :: authority => parseAuthority .other scheme authority
      | '/' :: path => .ok ⟨scheme, none, none, hierarchicalPath (pathPart ('/' :: path))⟩
      | path => .ok ⟨scheme, none, none, encodeIn isControl (pathPart path)⟩

end Url
end DefinitionServer
