import DefinitionServer.Data.Basic
import DefinitionServer.Data.Numeral
import DefinitionServer.Data.StringLiteral

/-!
# Keys and scalars in TOML

What stands between the punctuation of a settings file: blanks and comments, keys, texts, numbers
and dates.

The language of settings files has been laid down more than once. Each edition reads what those
before it read, and they differ in the limits that a reader sets.

## Main definitions

* `Toml.Edition`: what the editions differ in.
* `Toml.gap`: passes over blanks, line ends and comments.
* `Toml.key`: reads a key.
* `Toml.string`, `Toml.word`: read a scalar value.
-/
namespace DefinitionServer.Toml

/-! ## Editions -/

/-- What the editions differ in. -/
structure Edition where
  /-- A table in braces may go over several lines and end in a comma, there are more escapes, and a
  time may lack its seconds. -/
  isRelaxed : Bool
  /-- How deep values may stand inside each other, and how many parts a key may have. -/
  maxDepth : Nat
deriving DecidableEq, Repr

namespace Edition

/-- TOML 1.0. -/
def strict : Edition := ⟨false, 79⟩

/-- TOML 1.1. -/
def relaxed : Edition := ⟨true, 80⟩

end Edition

variable (e : Edition)

/-! ## Characters -/

/-- A file whose line ends are line feeds. Controls other than tabs stand nowhere in a file. -/
def normalized : Text → Option Text
  | [] => some []
  | '\r' :: '\n' :: r => (normalized r).map ('\n' :: ·)
  | c :: r => if StringLiteral.isControl c && c ≠ '\n' then none else (normalized r).map (c :: ·)

/-- Spaces and tabs. -/
def isSpace (c : Char) : Bool := c = ' ' || c = '\t'

/-- What follows spaces and tabs. -/
def spaces (t : Text) : Text := t.dropWhile isSpace

theorem length_spaces_le (t : Text) : (spaces t).length ≤ t.length :=
  (List.dropWhile_suffix isSpace).length_le

/-- What follows spaces, tabs, line ends and comments. -/
def gap : Text → Text
  | [] => []
  | c :: r =>
    if isSpace c || c = '\n' then gap r
    else if c = '#' then gap (r.dropWhile (· ≠ '\n'))
    else c :: r
termination_by t => t.length
decreasing_by
  · simp
  · have := (List.dropWhile_suffix (l := r) (· ≠ '\n')).length_le
    simp only [List.length_cons]
    omega

theorem length_gap_le (t : Text) : (gap t).length ≤ t.length := by
  fun_induction gap t with
  | case1 => simp
  | case2 c r _ ih => simp only [List.length_cons]; omega
  | case3 r _ ih =>
    have := (List.dropWhile_suffix (l := r) (· ≠ '\n')).length_le
    simp only [List.length_cons]
    omega
  | case4 => simp

/-- The line ends here, perhaps after a comment: what follows it. -/
def endLine (t : Text) : Option Text :=
  match spaces t with
  | [] => some []
  | '\n' :: r => some r
  | '#' :: r => some (r.dropWhile (· ≠ '\n'))
  | _ => none

/-! ## Strings -/

/-- A text in single quotes, whose opening quote has been read. Nothing is escaped in it. -/
def plain : (t : Text) → Option (Scanned Text t)
  | [] => none
  | '\'' :: r => some ⟨[], r, by simp⟩
  | c :: r => do
    if c = '\n' then none
    let tail ← plain r
    return tail.widen (c :: ·) (by simp)

/-- The end of a text of several lines: three quotes, before which two more may belong to the
text. -/
def closing (quote : Char) : (t : Text) → Option (Scanned Text t)
  | a :: b :: c :: r =>
    if a = quote ∧ b = quote ∧ c = quote then
      let more := (r.take 2).takeWhile (· = quote)
      some ⟨more, r.drop more.length, by
        simp only [List.length_drop, List.length_cons]
        omega⟩
    else none
  | _ => none

/-- A text of several lines in single quotes, whose opening quotes have been read. -/
def plainLines (t : Text) : Option (Scanned Text t) :=
  match closing '\'' t with
  | some done => some done
  | none =>
    match t with
    | [] => none
    | c :: r => (plainLines r).map (·.widen (c :: ·) (by simp))

/-- What follows a backslash at the end of a line: the next character that is no blank. -/
def continuation? (t : Text) : Option Text :=
  match spaces t with
  | '\n' :: r => some (r.dropWhile fun c => isSpace c || c = '\n')
  | _ => none

theorem length_continuation?_le {t r : Text} (h : continuation? t = some r) :
    r.length ≤ t.length := by
  have hs := length_spaces_le t
  rw [continuation?] at h
  split at h
  · rename_i line hline
    obtain rfl := Option.some.inj h
    have := (List.dropWhile_suffix (l := line) (fun c => isSpace c || c = '\n')).length_le
    rw [hline, List.length_cons] at hs
    omega
  · simp at h

/-- A text of several lines in double quotes, whose opening quotes have been read. A backslash at
the end of a line joins it to the next. -/
def quotedLines (t : Text) : Option (Scanned Text t) :=
  match closing '"' t with
  | some done => some done
  | none =>
    match t with
    | [] => none
    | '\\' :: r =>
      match _h : continuation? r with
      | some next =>
        (quotedLines next).map (·.widen id (Nat.le_succ_of_le (length_continuation?_le _h)))
      | none => do
        let c ← StringLiteral.escape e.isRelaxed r
        let tail ← quotedLines c.rest
        return tail.widen (c.value :: ·) (Nat.le_succ_of_le (Nat.le_of_lt c.shorter))
    | c :: r => (quotedLines r).map (·.widen (c :: ·) (Nat.le_add_right _ 1))
termination_by t.length
decreasing_by
  · exact Nat.lt_succ_of_le (length_continuation?_le _h)
  · exact Nat.lt_succ_of_lt c.shorter
  · exact Nat.lt_add_one _

/-- A line end right after the opening quotes of a text of several lines is no part of it. -/
def afterOpening : Text → Text
  | '\n' :: r => r
  | t => t

theorem length_afterOpening_le (t : Text) : (afterOpening t).length ≤ t.length := by
  unfold afterOpening
  split <;> simp

/-- A text in quotes of any kind. -/
def string : (t : Text) → Option (Scanned Text t)
  | '"' :: '"' :: '"' :: r => (quotedLines e (afterOpening r)).map (·.widen id (by
      have := length_afterOpening_le r; simp only [List.length_cons]; omega))
  | '\'' :: '\'' :: '\'' :: r => (plainLines (afterOpening r)).map (·.widen id (by
      have := length_afterOpening_le r; simp only [List.length_cons]; omega))
  | '"' :: r => (StringLiteral.read e.isRelaxed r).map (·.widen id (Nat.le_add_right _ 1))
  | '\'' :: r => (plain r).map (·.widen id (Nat.le_add_right _ 1))
  | _ => none

/-! ## Keys -/

/-- The characters of keys without quotes. -/
def isKeyChar (c : Char) : Bool := c.isAlphanum || c = '_' || c = '-'

/-- One part of a key: a word, or a text in quotes on one line. -/
def keyPart : (t : Text) → Option (Scanned Text t)
  | [] => none
  | '"' :: r => (StringLiteral.read e.isRelaxed r).map (·.widen id (Nat.le_add_right _ 1))
  | '\'' :: r => (plain r).map (·.widen id (Nat.le_add_right _ 1))
  | c :: r =>
    if isKeyChar c then
      some ⟨c :: r.takeWhile isKeyChar, r.dropWhile isKeyChar, by
        have := (List.dropWhile_suffix (l := r) isKeyChar).length_le
        simp only [List.length_cons]
        omega⟩
    else none

/-- The parts of a key, with dots between them. -/
def keyParts (t : Text) : Option (Scanned (List Text) t) := do
  let part ← keyPart e t
  match h : spaces part.rest with
  | '.' :: r =>
    let more ← keyParts (spaces r)
    return more.widen (part.value :: ·) (by
      have h₁ := part.shorter
      have h₂ := length_spaces_le part.rest
      have h₃ := length_spaces_le r
      rw [h, List.length_cons] at h₂
      omega)
  | _ => return part.widen ([·]) (Nat.le_refl _)
termination_by t.length
decreasing_by
  have h₁ := part.shorter
  have h₂ := length_spaces_le part.rest
  have h₃ := length_spaces_le r
  rw [h, List.length_cons] at h₂
  omega

/-- A key that is not too long. -/
def key (t : Text) : Option (Scanned (List Text) t) :=
  (keyParts e t).filter (·.value.length ≤ e.maxDepth)

/-! ## Numbers and dates -/

/-- The digits of a number without the underscores that may stand between two of them. -/
def digits? (isDigit : Char → Bool) (t : Text) : Option Text :=
  let parts := t.splitOn '_'
  if parts.all fun p => p ≠ [] && p.all isDigit then some parts.flatten else none

/-- The decimal digits of a number that begins with zero only if it is zero. -/
def wholeDigits? (t : Text) : Option Text :=
  (digits? Char.isDigit t).filter fun ds => ds.head? ≠ some '0' || ds.length = 1

/-- An integer, whatever its size. -/
def integer? : Text → Option Int
  | '0' :: 'x' :: r => natural 16 r
  | '0' :: 'o' :: r => natural 8 r
  | '0' :: 'b' :: r => natural 2 r
  | '+' :: r => (wholeDigits? r).map (Digit.number 10 ·)
  | '-' :: r => (wholeDigits? r).map fun ds => -(Digit.number 10 ds : Int)
  | r => (wholeDigits? r).map (Digit.number 10 ·)
where
  natural (base : Nat) (r : Text) : Option Int :=
    (digits? (Digit.isBelow base) r).map (Digit.number base ·)

/-- The text is a number with a fraction or an exponent. -/
def isFloat (t : Text) : Bool :=
  let t := Numeral.unsigned t
  let (mantissa, exponent) := match Text.cut 'e' t, Text.cut 'E' t with
    | some (m, e), _ | none, some (m, e) => (m, some e)
    | none, none => (t, none)
  let (whole, fraction) := match Text.cut '.' mantissa with
    | some (w, f) => (w, some f)
    | none => (mantissa, none)
  (wholeDigits? whole).isSome && (fraction.isSome || exponent.isSome)
    && fraction.all (fun f => (digits? Char.isDigit f).isSome)
    && exponent.all (fun e => (digits? Char.isDigit (Numeral.unsigned e)).isSome)

/-- The value of a number with a fraction or an exponent, which must not be too large. An infinity,
and what is no number at all, is nothing. -/
def float? (t : Text) : Option Data :=
  if ["inf", "nan"].any (·.toList = Numeral.unsigned t) then some .null
  else if isFloat t then
    ((Numeral.decimal? (t.filter (· ≠ '_'))).filter (!·.overflows)).map fun _ => .real
  else none

/-- The number of two digits, when it is in a range. -/
def twoDigits? (low high : Nat) (t : Text) : Option Nat :=
  if t.length = 2 ∧ t.all Char.isDigit ∧ low ≤ Digit.number 10 t ∧ Digit.number 10 t ≤ high then
    some (Digit.number 10 t)
  else none

/-- The days of a month. -/
def daysIn (year month : Nat) : Nat :=
  if month = 2 then if year % 4 = 0 ∧ (year % 100 ≠ 0 ∨ year % 400 = 0) then 29 else 28
  else if month = 4 ∨ month = 6 ∨ month = 9 ∨ month = 11 then 30
  else 31

/-- The text is a day of the calendar. -/
def isDate (t : Text) : Bool :=
  match t.splitOn '-' with
  | [y, m, d] =>
    match twoDigits? 1 12 m with
    | some month => y.length = 4 && y.all Char.isDigit
        && (twoDigits? 1 (daysIn (Digit.number 10 y) month) d).isSome
    | none => false
  | _ => false

/-- The text is a time of the day, to the minute or better. -/
def isTime (t : Text) : Bool :=
  let (time, fraction) := match Text.cut '.' t with
    | some (w, f) => (w, some f)
    | none => (t, none)
  fraction.all (fun f => f ≠ [] && f.all Char.isDigit) &&
    match time.splitOn ':' with
    | [h, m, s] => (twoDigits? 0 23 h).isSome && (twoDigits? 0 59 m).isSome
        && (twoDigits? 0 60 s).isSome
    | [h, m] => e.isRelaxed && fraction.isNone && (twoDigits? 0 23 h).isSome
        && (twoDigits? 0 59 m).isSome
    | _ => false

/-- The text is the distance of a local time from universal time. -/
def isOffset (t : Text) : Bool :=
  match t.splitOn ':' with
  | [h, m] => (twoDigits? 0 23 h).isSome && (twoDigits? 0 59 m).isSome
  | _ => false

/-- The text is a time of the day with or without its distance from universal time. -/
def isZonedTime (t : Text) : Bool :=
  isTime e t ||
    match t.getLast?.map Char.toLower with
    | some 'z' => isTime e t.dropLast
    | _ =>
      let (time, offset) := t.span fun c => c ≠ '+' && c ≠ '-'
      isTime e time && isOffset offset.tail

/-- The text is a date, a time, or both. -/
def isMoment (t : Text) : Bool :=
  isTime e t || isDate t ||
    match Text.cut 't' (t.map Char.toLower) with
    | some (date, time) => isDate date && isZonedTime e time
    | none => false

/-- The value of a word. A moment is no value that a setting could have, and it is read as a table
without entries. -/
def word? (t : Text) : Option Data :=
  if t = "true".toList then some (.bool true)
  else if t = "false".toList then some (.bool false)
  else
    match integer? t with
    | some n => if Int64.minValue.toInt ≤ n ∧ n ≤ Int64.maxValue.toInt then some (.int n) else none
    | none => if isMoment e t then some (.table []) else float? t

/-- The characters of numbers, dates and words. -/
def isWordChar (c : Char) : Bool := isKeyChar c || c = '+' || c = '.' || c = ':'

/-- A word, which may be a date and a time with a space between them. -/
def word (t : Text) : Option (Scanned Data t) :=
  match t with
  | [] => none
  | c :: r =>
    if isWordChar c then
      let first := c :: r.takeWhile isWordChar
      let rest := r.dropWhile isWordChar
      match h : rest with
      | ' ' :: d :: r' =>
        if isDate first && d.isDigit then
          (word? e (first ++ 'T' :: d :: r'.takeWhile isWordChar)).map
            (⟨·, r'.dropWhile isWordChar, by
              have h₁ := (List.dropWhile_suffix (l := r) isWordChar).length_le
              have h₂ := (List.dropWhile_suffix (l := r') isWordChar).length_le
              have h₃ := congrArg List.length h
              simp only [rest, List.length_cons] at *
              omega⟩)
        else (word? e first).map (⟨·, rest, by
          have := (List.dropWhile_suffix (l := r) isWordChar).length_le
          simp only [rest, List.length_cons]
          omega⟩)
      | _ => (word? e first).map (⟨·, rest, by
          have := (List.dropWhile_suffix (l := r) isWordChar).length_le
          simp only [rest, List.length_cons]
          omega⟩)
    else none

/-- A text in quotes or a word. -/
def scalar (t : Text) : Option (Scanned Data t) :=
  match t.head? with
  | some '"' | some '\'' => (string e t).map (·.widen .text (Nat.le_refl _))
  | _ => word e t

end DefinitionServer.Toml
