import DefinitionServer.Text.Letter

/-!
# Patterns

A filter may compare the value of a field with a pattern: a regular expression with groups, sets in
brackets, repetitions and escapes. Which values match never matters here, only what is a pattern.
Word boundaries are no part of the language, and neither are back references or looks ahead.

## Main definitions

* `Pattern.isPattern`: the text is a pattern.
-/
namespace DefinitionServer.Log.Pattern

/-! ## Escapes -/

/-- What an escape stands for. -/
inductive Escape where
  | char (n : Nat)
  /-- One character out of many. -/
  | set
  /-- A place between characters. -/
  | place

/-- The character that so many hexadecimal digits number. -/
def hex? (count : Nat) (t : Text) : Option (Escape × Text) :=
  let digits := t.take count
  if digits.length = count ∧ digits.all (Digit.isBelow 16) ∧ (Digit.number 16 digits).isValidChar then
    some (.char (Digit.number 16 digits), t.drop count)
  else none

/-- Reads an escape after its backslash. -/
def escape? : Text → Option (Escape × Text)
  | [] => none
  | 'x' :: r => hex? 2 r
  | 'u' :: r => hex? 4 r
  | 'U' :: r => hex? 8 r
  | c :: r =>
    if c = 'p' ∨ c = 'P' then
      match r with
      | category :: r =>
        if "CLMNPSZ".toList.contains category.toUpper then some (.set, r) else none
      | [] => none
    else if "dswDSW".toList.contains c then some (.set, r)
    else if "Az".toList.contains c then some (.place, r)
    else
      match ("aftnrv".toList.zip [7, 12, 9, 10, 13, 11]).lookup c with
      | some n => some (.char n, r)
      | none =>
        if c.toNat < 0x80 && !c.isAlphanum && c ≠ '<' && c ≠ '>' then some (.char c.toNat, r)
        else none

/-! ## Sets -/

/-- The names of sets, which stand between colons in brackets of their own. -/
def setNames : List Text :=
  ["alnum", "alpha", "ascii", "blank", "cntrl", "digit", "graph", "lower", "print", "punct",
    "space", "upper", "word", "xdigit"].map String.toList

/-- Reads the name of a set after its opening bracket. -/
def namedSet? : Text → Option Text
  | ':' :: r =>
    let r := if r.head? = some '^' then r.tail else r
    let name := r.takeWhile (· ≠ ':')
    match r.drop name.length with
    | ':' :: ']' :: rest => if setNames.contains name then some rest else none
    | _ => none
  | _ => none

/-- What follows the beginning of a set: a caret, and then dashes or a bracket that stand for
themselves. -/
def opened (t : Text) : Text :=
  let t := if t.head? = some '^' then t.tail else t
  match t.head? with
  | some '-' => t.dropWhile (· = '-')
  | some ']' => t.tail
  | _ => t

/-- Reads one member of a set: an escape, or a character that stands for itself. -/
def member? : Text → Option (Escape × Text)
  | [] => none
  | '\\' :: r =>
    match escape? r with
    | some (.place, _) => none
    | found => found
  | c :: r => some (.char c.toNat, r)

/-- Reads a member or a range of a set. The ends of a range are characters in order. -/
def range? (t : Text) : Option Text := do
  let (low, rest) ← member? t
  match rest with
  | '-' :: c :: r =>
    if c = ']' ∨ c = '-' then return rest
    let (high, rest) ← member? (c :: r)
    match low, high with
    | .char a, .char b => if a ≤ b then return rest else none
    | _, _ => none
  | _ => return rest

/-- Reads on in a set with so many brackets open, up to the last closing bracket. Doubled signs
stand between sets. -/
def set? : Nat → Nat → Text → Option Text
  | 0, _, _ => none
  | _, _, [] => none
  | fuel + 1, depth, '[' :: r =>
    match namedSet? r with
    | some rest => set? fuel depth rest
    | none => set? fuel (depth + 1) (opened r)
  | fuel + 1, depth, ']' :: r => if depth ≤ 1 then some r else set? fuel (depth - 1) r
  | fuel + 1, depth, '&' :: '&' :: r => set? fuel depth r
  | fuel + 1, depth, '-' :: '-' :: r => set? fuel depth r
  | fuel + 1, depth, '~' :: '~' :: r => set? fuel depth r
  | fuel + 1, depth, t => (range? t).bind (set? fuel depth)

/-! ## Groups -/

/-- How a group begins. -/
inductive Opening where
  | group
  | named (name : Text)
  /-- It only sets flags, and ends at once. -/
  | flags

/-- Reads the name of a group. -/
def groupName? (t : Text) : Option (Opening × Text) :=
  let name := t.takeWhile (· ≠ '>')
  match name, t.drop name.length with
  | c :: cs, '>' :: rest =>
    if (c = '_' || Text.isLetter c)
        && cs.all fun d => "_.[]".toList.contains d || Text.isLetter d || Text.isNumeral d then
      some (.named name, rest)
    else none
  | _, _ => none

/-- The flags are known ones, each at most once, with at most one dash and none at the end. -/
def areFlags (t : Text) : Bool :=
  t.all ("-imsUuRx".toList.contains ·) && t.eraseDups.length = t.length && t.getLast? ≠ some '-'

/-- Reads the beginning of a group after its bracket. -/
def opening? : Text → Option (Opening × Text)
  | '?' :: 'P' :: '<' :: r => groupName? r
  | '?' :: '<' :: r => groupName? r
  | '?' :: r =>
    let flags := r.takeWhile fun c => c ≠ ':' && c ≠ ')'
    if areFlags flags then
      match r.drop flags.length with
      | ':' :: rest => some (.group, rest)
      | ')' :: rest => if flags = [] then none else some (.flags, rest)
      | _ => none
    else none
  | r => some (.group, r)

/-! ## Patterns -/

/-- The text ends a pattern that is inside so many groups. `isTail` says that something stands
before it that can be repeated, and `names` are the groups that have names. -/
def continues : Nat → Nat → Bool → List Text → Text → Bool
  | 0, _, _, _, _ => false
  | _ + 1, depth, _, _, [] => depth = 0
  | fuel + 1, depth, isTail, names, c :: r =>
    match c with
    | '(' =>
      match opening? r with
      | some (.group, rest) => continues fuel (depth + 1) false names rest
      | some (.named name, rest) =>
        !names.contains name && continues fuel (depth + 1) false (name :: names) rest
      | some (.flags, rest) => continues fuel depth false names rest
      | none => false
    | ')' => 0 < depth && continues fuel (depth - 1) true names r
    | '|' => continues fuel depth false names r
    | '*' | '+' | '?' => isTail && continues fuel depth true names r
    | '\x7b' => false
    | '[' => (set? (r.length + 1) 1 (opened r)).any (continues fuel depth true names)
    | '\\' => (escape? r).any fun (_, rest) => continues fuel depth true names rest
    | _ => continues fuel depth true names r

/-- The text is a pattern. A count in braces is never part of one, for its closing brace would end
the field. -/
def isPattern (t : Text) : Bool := continues (t.length + 1) 0 false [] t

end DefinitionServer.Log.Pattern
