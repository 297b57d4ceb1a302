import DefinitionServer.Text.Basic

/-!
# Addresses in hosts

The numeric hosts of a URL. An IPv6 address is eight groups of hexadecimal digits. One run of zero
groups may be left out, and the last two groups may be written as four decimal numbers.
-/
namespace DefinitionServer.Address

/-- A decimal number below 256 without leading zeros. -/
def octet? (t : Text) : Option Nat :=
  if t ≠ [] ∧ t.all Char.isDigit ∧ (t.length = 1 ∨ t.head? ≠ some '0') ∧ Digit.number 10 t < 256 then
    some (Digit.number 10 t)
  else none

/-- The two groups that four decimal numbers make. -/
def quad? (t : Text) : Option (List Nat) :=
  match (t.splitOn '.').mapM octet? with
  | some [a, b, c, d] => some [a * 256 + b, c * 256 + d]
  | _ => none

/-- A part of a loosely written address: decimal, octal after `0`, or hexadecimal after `0x`. -/
def part? (t : Text) : Option Nat :=
  let (base, digits) : Nat × Text := match t with
    | '0' :: 'x' :: ds | '0' :: 'X' :: ds => (16, ds)
    | '0' :: d :: ds => (8, d :: ds)
    | ds => (10, ds)
  if digits ≠ [] ∧ digits.all (Digit.isBelow base) then some (Digit.number base digits) else none

/-- The four bytes of an address in at most four parts: all but the last are bytes, and the last
fills the bytes that are left. -/
def bytes? (parts : List Nat) : Option (List Nat) :=
  let last := parts.getLast?.getD 0
  let left := 5 - parts.length
  if 0 < parts.length ∧ parts.length ≤ 4 ∧ parts.dropLast.all (· < 256) ∧ last < 1 <<< (8 * left) then
    some (parts.dropLast ++ (List.range left).reverse.map fun i => (last >>> (8 * i)) % 256)
  else none

/-- The four bytes of a loosely written address. -/
def loose? (t : Text) : Option (List Nat) := ((t.splitOn '.').mapM part?).bind bytes?

/-- The groups of an address from a place between two groups on, after the groups `done`. `gap`
is the place among the groups where zero groups are left out. One zero stands before it. -/
def groupsFrom? (done : List Nat) (gap : Option Nat) (t : Text) :
    Option (List Nat × Option Nat) :=
  if _empty : t = [] then some (done, gap)
  else if done.length = 8 then none
  else if t.head? = some ':' then
    if gap.isSome then none else groupsFrom? (done ++ [0]) (some (done.length + 1)) t.tail
  else
    let digits := (t.take 4).takeWhile (Digit.isBelow 16)
    let group := done ++ [Digit.number 16 digits]
    match _after : t.drop digits.length with
    | [] => some (group, gap)
    | [':'] => none
    | ':' :: c :: rest => groupsFrom? group gap (c :: rest)
    | '.' :: _ =>
      if digits = [] ∨ 6 < done.length then none
      else (quad? t).map fun pair => (done ++ pair, gap)
    | _ => none
termination_by t.length
decreasing_by
  all_goals
    have hpos : 0 < t.length := List.length_pos_iff.2 _empty
  · simp only [List.length_tail]; omega
  · have := congrArg List.length _after
    simp only [List.length_drop, List.length_cons] at this ⊢
    omega

/-- The eight groups of an IPv6 address. -/
def ipv6? (t : Text) : Option (List Nat) := do
  let (done, gap) ← match t with
    | ':' :: ':' :: rest => groupsFrom? [0] (some 1) rest
    | ':' :: _ => none
    | [] | [_] => none
    | _ => groupsFrom? [] none t
  match gap with
  | some g => some (done.take g ++ List.replicate (8 - done.length) 0 ++ done.drop g)
  | none => if done.length = 8 then some done else none

/-- The longest run of zeros of length at least two, the first of several: its start and its
length. -/
def longestZeros (groups : List Nat) : Option (Nat × Nat) :=
  let runs := (List.range groups.length).map fun i =>
    (i, ((groups.drop i).takeWhile (· = 0)).length)
  runs.foldl (fun best run =>
    if 2 ≤ run.2 ∧ (best.map (·.2)).getD 0 < run.2 then some run else best) none

/-- The groups in hexadecimal with colons between them. -/
def showGroups (groups : List Nat) : Text := Text.join ':' (groups.map (Nat.toDigits 16))

/-- The short form of an address, which leaves out the longest run of zero groups. -/
def showIpv6 (groups : List Nat) : Text :=
  match longestZeros groups with
  | some (start, len) =>
    showGroups (groups.take start) ++ [':', ':'] ++ showGroups (groups.drop (start + len))
  | none => showGroups groups

end DefinitionServer.Address
