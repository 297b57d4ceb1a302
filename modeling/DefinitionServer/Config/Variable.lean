import DefinitionServer.Data.Basic
import DefinitionServer.Data.Numeral
import DefinitionServer.Data.StringLiteral

/-!
# Variables that are settings

A variable of the environment can give a setting. Its name says which, and its value is read as
data: a list in brackets, a table in braces, a text in quotes or a single word.

## Main definitions

* `Variable.datum`: what the value of a variable stands for.
* `Variable.keys?`: the setting that a variable is for.
* `Variable.setting?`: the setting with its data.
-/
namespace DefinitionServer.Variable

/-! ## Values -/

/-- The blanks between the parts of a value. -/
def isSpace (c : Char) : Bool :=
  c = ' ' || c = '\t' || c = '\n' || c = '\r' || c = '\x0C'

/-- What follows blanks. -/
def spaces (t : Text) : Text := t.dropWhile isSpace

/-- A character that ends a word inside brackets. -/
def isSeparator (c : Char) : Bool :=
  c = ',' || c = '[' || c = ']' || c = '\x7b' || c = '\x7d'

/-- A truth value in any case, whatever comes right after it. -/
def truth? (t : Text) : Option (Bool × Text) :=
  if (t.take 4).map Char.toLower = "true".toList then some (true, t.drop 4)
  else if (t.take 5).map Char.toLower = "false".toList then some (false, t.drop 5)
  else none

/-- What a word stands for: a number or itself. A number with a point that is too large is
nothing. -/
def word (t : Text) : Data :=
  match (Numeral.decimal? t).filter fun _ => t.contains '.', Numeral.integer? t with
  | some d, _ => if d.overflows then .null else .real
  | none, some n => .int n
  | none, none => .text t

/-- The characters of a text that fit into so many bytes. -/
def clip : Nat → Text → Text
  | _, [] => []
  | n, c :: r => if c.utf8Size ≤ n then c :: clip (n - c.utf8Size) r else []

/-- A text in double quotes, whose opening quote has been read. When there are escapes in it, what
stands before the first keeps only as many bytes as it has characters. -/
def quoted (t : Text) : Option (Text × Text) := do
  let x ← StringLiteral.read false t
  let before := t.takeWhile fun c => c ≠ '"' && c ≠ '\\'
  if (t.drop before.length).head? = some '\\' then
    return (clip before.length before ++ x.value.drop before.length, x.rest)
  else return (x.value, x.rest)

/-- A key: a word, or a text in double quotes. -/
def key : Text → Option (Text × Text)
  | '"' :: r => quoted r
  | t =>
    let isKeyChar (c : Char) : Bool := c.isAlphanum || c = '_' || c = '-'
    if t.takeWhile isKeyChar = [] then none
    else some (t.takeWhile isKeyChar, t.dropWhile isKeyChar)

mutual

/-- Reads a value and the blanks around it. Single quotes hold one character. -/
def value : Nat → Text → Option (Data × Text)
  | 0, _ => none
  | fuel + 1, t => do
    let (d, rest) ← match spaces t with
      | '[' :: r => (items fuel r).map fun (items, rest) => (.list items, rest)
      | '\x7b' :: r => (entries fuel r).map fun (entries, rest) => (.table entries, rest)
      | '"' :: r => (quoted r).map fun (t, rest) => (.text t, rest)
      | '\'' :: c :: '\'' :: r => some (.text [c], r)
      | '\'' :: _ => none
      | t =>
        match truth? t with
        | some (b, rest) => some (.bool b, rest)
        | none => some (word (Text.trim (t.takeWhile (!isSeparator ·))),
            t.dropWhile (!isSeparator ·))
    return (d, spaces rest)

/-- Reads the items of a list after its opening bracket or after a comma. -/
def items : Nat → Text → Option (List Data × Text)
  | 0, _ => none
  | _, ']' :: r => some ([], r)
  | fuel + 1, t => do
    let (v, rest) ← value fuel t
    match rest with
    | ',' :: r => do
      let (vs, rest) ← items fuel r
      return (v :: vs, rest)
    | ']' :: r => return ([v], r)
    | _ => none

/-- Reads the entries of a table after its opening brace or after a comma. Of two entries with one
key the later counts. -/
def entries : Nat → Text → Option (List (Text × Data) × Text)
  | 0, _ => none
  | _, '\x7d' :: r => some ([], r)
  | fuel + 1, t => do
    let (key, rest) ← key (spaces t)
    let '=' :: rest := spaces rest | none
    let (v, rest) ← value fuel rest
    match rest with
    | ',' :: r => do
      let (es, rest) ← entries fuel r
      return (if (es.lookup key).isSome then es else (key, v) :: es, rest)
    | '\x7d' :: r => return ([(key, v)], r)
    | _ => none

end

/-- What the value of a variable stands for. Commas outside brackets and quotes part a list of
texts. A value that is not well formed is a text. -/
def datum (raw : Text) : Data :=
  let t := Text.trim raw
  let opens (c : Char) : Bool := c = '[' || c = '\x7b' || c = '"' || c = '\''
  if t.contains ',' && !t.head?.any opens then
    .list ((t.splitOn ',').map fun item => .text (Text.trim item))
  else
    match value (2 * t.length + 2) t with
    | some (d, []) => d
    | _ => .text t

/-! ## Names -/

/-- What begins the names of the variables that are settings, in any case. -/
def settingPrefix : Text := "glyph_".toList

/-- The name with a dot for every two underscores. -/
def dotted : Text → Text
  | '_' :: '_' :: rest => '.' :: dotted rest
  | c :: rest => c :: dotted rest
  | [] => []

/-- The keys, of tables inside each other, that lead to the setting of a name. Dots or double
underscores stand between them, and none is empty. -/
def keys? (name : Text) : Option (List Text) := do
  let name ← Text.after? settingPrefix ((Text.trim name).map Char.toLower)
  let keys := (Text.trim (dotted name)).splitOn '.'
  if keys.contains [] then none else return keys

/-- A table that holds the data under a path of keys, or the data itself. -/
def nest (d : Data) : List Text → Data
  | [] => d
  | key :: path => .table [(key, nest d path)]

/-- The setting that a variable gives, by its outermost key. -/
def setting? (name value : Text) : Option (Text × Data) :=
  match keys? name with
  | some (key :: path) => some (key, nest (datum value) path)
  | _ => none

end DefinitionServer.Variable
