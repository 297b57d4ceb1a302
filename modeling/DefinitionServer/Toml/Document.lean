import DefinitionServer.Toml.Item
import DefinitionServer.Toml.Scalar

/-!
# TOML

Settings files are written in TOML. A file is a list of statements, each a key with its value or
the header of a table, from which the table of the whole file is put together.

## Main definitions

* `Toml.value`: reads a value.
* `Toml.statements`: reads the statements of a file.
* `Toml.parse`: reads a file.
-/
namespace DefinitionServer.Toml

variable (e : Edition)

/-- What follows the space between the parts of a table in braces. -/
def between (t : Text) : Text := if e.isRelaxed then gap t else spaces t

theorem length_between_le (t : Text) : (between e t).length ≤ t.length := by
  unfold between
  split
  · exact length_gap_le t
  · exact length_spaces_le t

mutual

/-- A value: a list, a table in braces or a scalar, with so many levels of them left. -/
def value (depth : Nat) (t : Text) : Option (Scanned Data t) :=
  match depth, t with
  | _, [] => none
  | 0, c :: r => if c = '[' ∨ c = '\x7b' then none else scalar e (c :: r)
  | depth + 1, '[' :: r => (items depth r).map (·.widen .list (by simp))
  | depth + 1, '\x7b' :: r => (entries depth true [] r).map (·.widen Entries.toData (by simp))
  | _ + 1, c :: r => scalar e (c :: r)
termination_by (t.length, 0)

/-- The items of a list after its opening bracket or after a comma. -/
def items (depth : Nat) (t : Text) : Option (Scanned (List Data) t) :=
  match _h : gap t with
  | ']' :: r => some ⟨[], r, by
      have := length_gap_le t
      rw [_h] at this
      simp only [List.length_cons] at *
      omega⟩
  | _ => do
    let v ← value depth (gap t)
    match _h' : gap v.rest with
    | ',' :: r =>
      let more ← items depth r
      return more.widen (v.value :: ·) (by
        have h₁ := length_gap_le t
        have h₂ := length_gap_le v.rest
        have h₃ := v.shorter
        rw [_h', List.length_cons] at h₂
        omega)
    | ']' :: r => return ⟨[v.value], r, by
        have h₁ := length_gap_le t
        have h₂ := length_gap_le v.rest
        have h₃ := v.shorter
        rw [_h', List.length_cons] at h₂
        omega⟩
    | _ => none
termination_by (t.length, 1)
decreasing_by
  · have := length_gap_le t
    rcases Nat.lt_or_eq_of_le this with h | h
    · exact Prod.Lex.left _ _ h
    · rw [h]; exact Prod.Lex.right _ (by omega)
  · have h₁ := length_gap_le t
    have h₂ := length_gap_le v.rest
    have h₃ := v.shorter
    rw [_h', List.length_cons] at h₂
    exact Prod.Lex.left _ _ (by omega)

/-- The entries of a table in braces that follow the entries `es`. The table may end here when
nothing is before it, or only a comma that may stand there. -/
def entries (depth : Nat) (isFirst : Bool) (es : Entries) (t : Text) :
    Option (Scanned Entries t) :=
  match _h : between e t with
  | '\x7d' :: r =>
    if isFirst || e.isRelaxed then
      some ⟨es, r, by
        have := length_between_le e t
        rw [_h, List.length_cons] at this
        exact this⟩
    else none
  | _ => do
    let k ← key e (between e t)
    match _h' : spaces k.rest with
    | '=' :: r =>
      let v ← value depth (spaces r)
      let es ← define v.value k.value es
      match _h'' : between e v.rest with
      | ',' :: r' =>
        let more ← entries depth false es r'
        return more.widen id (by
          have h₁ := length_between_le e t
          have h₂ := k.shorter
          have h₃ := length_spaces_le k.rest
          have h₄ := length_spaces_le r
          have h₅ := v.shorter
          have h₆ := length_between_le e v.rest
          rw [_h', List.length_cons] at h₃
          rw [_h'', List.length_cons] at h₆
          omega)
      | '\x7d' :: r' => return ⟨es, r', by
          have h₁ := length_between_le e t
          have h₂ := k.shorter
          have h₃ := length_spaces_le k.rest
          have h₄ := length_spaces_le r
          have h₅ := v.shorter
          have h₆ := length_between_le e v.rest
          rw [_h', List.length_cons] at h₃
          rw [_h'', List.length_cons] at h₆
          omega⟩
      | _ => none
    | _ => none
termination_by (t.length, 1)
decreasing_by
  all_goals
    have h₁ := length_between_le e t
    have h₂ := k.shorter
    have h₃ := length_spaces_le k.rest
    have h₄ := length_spaces_le r
    rw [_h', List.length_cons] at h₃
  · exact Prod.Lex.left _ _ (by omega)
  · have h₅ := v.shorter
    have h₆ := length_between_le e v.rest
    rw [_h'', List.length_cons] at h₆
    exact Prod.Lex.left _ _ (by omega)

end

/-! ## Statements -/

/-- One statement of a file. -/
inductive Statement where
  | header (path : List Text)
  /-- The header of one more table in a list. -/
  | nextHeader (path : List Text)
  | pair (path : List Text) (d : Data)

/-- Reads one statement up to the end of its line. -/
def statement (t : Text) : Option (Statement × Text) :=
  match t with
  | '[' :: '[' :: r => do
    let k ← key e (spaces r)
    match spaces k.rest with
    | ']' :: ']' :: r => return (.nextHeader k.value, ← endLine r)
    | _ => none
  | '[' :: r => do
    let k ← key e (spaces r)
    match spaces k.rest with
    | ']' :: r => return (.header k.value, ← endLine r)
    | _ => none
  | t => do
    let k ← key e t
    match spaces k.rest with
    | '=' :: r =>
      let v ← value e e.maxDepth (spaces r)
      return (.pair k.value v.value, ← endLine v.rest)
    | _ => none

/-- Reads so many statements at most, after which nothing may be left. -/
def statementsWithin : Nat → Text → Option (List Statement)
  | fuel, t =>
    match fuel, gap t with
    | _, [] => some []
    | 0, _ => none
    | fuel + 1, t => do
      let (s, rest) ← statement e t
      return s :: (← statementsWithin fuel rest)

/-- Reads the statements of a file. There is one a line at most. -/
def statements (t : Text) : Option (List Statement) := statementsWithin e t.length t

/-- What a statement does to the table of the file, and the path of the table that is open after
it. -/
def Statement.apply (state : Entries × List Text) : Statement → Option (Entries × List Text)
  | header path => (reach openTable path state.1).map (·, path)
  | nextHeader path => (reach openNext path state.1).map (·, path)
  | pair path d =>
    if state.2 = [] then (define d path state.1).map (·, [])
    else (reach (inside (define d path)) state.2 state.1).map (·, state.2)

/-- Reads a settings file. -/
def parse (t : Text) : Option Data := do
  let lines ← normalized (if t.head? = some '\uFEFF' then t.tail else t)
  let (es, _) ← (← statements e lines).foldlM Statement.apply ([], [])
  return es.toData

end DefinitionServer.Toml
