import DefinitionServer.Endpoint.Address
import DefinitionServer.Machine.SystemError

/-!
# Addresses on the net

What a machine makes of the name of a host. The machine is on no network: it knows no names but its
own, and it can listen on addresses that it can never reach.

## Main definitions

* `NetAddress.ofHost`: the address of a host.
* `NetAddress.clashes`: two listeners are in each other's way.
-/
namespace DefinitionServer

/-- An address of four bytes, or one of eight groups of two bytes. -/
inductive NetAddress where
  | v4 (bytes : List Nat)
  | v6 (groups : List Nat)
deriving DecidableEq, Repr

namespace NetAddress

/-- The machine itself. -/
def loopback : NetAddress := v4 [127, 0, 0, 1]

/-- The four bytes that an address stands for, in a long address perhaps behind a mark. -/
def bytes? : NetAddress → Option (List Nat)
  | v4 bytes => some bytes
  | v6 [0, 0, 0, 0, 0, 0xFFFF, a, b] => some [a / 256, a % 256, b / 256, b % 256]
  | v6 _ => none

/-- Four bytes with dots between them. -/
def dotted (bytes : List Nat) : Text := Text.join '.' (bytes.map Text.ofNat)

/-- The text of an address before a port. -/
def display : NetAddress → Text
  | v4 bytes => dotted bytes
  | v6 groups =>
    match bytes? (v6 groups) with
    | some bytes => "[::ffff:".toList ++ dotted bytes ++ [']']
    | none => '[' :: (Address.showIpv6 groups ++ [']'])

/-! ## Names -/

/-- The longest name of a host and the longest part of one, in characters. -/
def maxName : Nat := 253

@[inherit_doc maxName] def maxLabel : Nat := 63

/-- The name could be known somewhere. The last part may be empty. -/
def isName (host : Text) : Bool :=
  let parts := host.splitOn '.'
  let parts := if parts.getLast? = some [] then parts.dropLast else parts
  let isPart (part : Text) : Bool := part ≠ [] && part.length ≤ maxLabel
    && part.all fun c => c.isAlphanum || c = '-' || c = '_'
  host = ['.'] || (parts ≠ [] && parts.all isPart && host.head? ≠ some '-' && host.length ≤ maxName)

/-- What is said of a name that cannot be looked up. -/
def lookupFailure (reason : String) : Text :=
  ("failed to lookup address information: " ++ reason).toList

/-- The address of a host: the one that it writes, or the one that the machine knows its name
for. -/
def ofHost (host : Text) : Except Text NetAddress :=
  match Address.loose? host, Address.ipv6? host with
  | some bytes, _ => .ok (v4 bytes)
  | none, some groups => .ok (v6 groups)
  | none, none =>
    if host.contains '\x00' then .error SystemError.nullInPath.message
    else if host.map Char.toLower = "localhost".toList then .ok loopback
    else if isName host then .error (lookupFailure "Temporary failure in name resolution")
    else .error (lookupFailure "Name or service not known")

/-! ## Reaching and listening -/

/-- A long address is for use on one link only. -/
def isLinkLocal : NetAddress → Bool
  | v6 (first :: _) => 0xFE80 ≤ first && first < 0xFEC0
  | _ => false

/-- Why an address cannot be reached. -/
def unreachable (a : NetAddress) : SystemError :=
  if a.bytes?.isSome then .networkUnreachable
  else if a.isLinkLocal then .invalidArgument
  else .addressNotAvailable

/-- The address stands for all addresses of the machine. -/
def isWildcard (a : NetAddress) : Bool :=
  a.bytes? = some [0, 0, 0, 0] || a = v6 (List.replicate 8 0)

/-- Why an address cannot be listened on, even where no one else does. -/
def bindFault? (a : NetAddress) : Option SystemError :=
  if a.bytes?.isSome || a.isWildcard then none else some a.unreachable

/-- Two addresses cannot be listened on at one port. -/
def clashes (a b : NetAddress) : Bool :=
  a.isWildcard || b.isWildcard || a = b || (a.bytes?.isSome && a.bytes? = b.bytes?)

end NetAddress
end DefinitionServer
