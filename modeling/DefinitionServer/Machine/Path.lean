import DefinitionServer.Text.Basic

/-!
# Paths

A path is a text whose names are parted by slashes. One that begins with a slash starts at the
root, any other at the working directory.
-/
namespace DefinitionServer.Path

/-- The path starts at the root. -/
def isAbsolute (p : Text) : Bool := p.head? = some '/'

/-- The path `p` seen from the directory `base`. -/
def join (base p : Text) : Text :=
  if isAbsolute p then p
  else if base = [] ∨ base.getLast? = some '/' then base ++ p
  else base ++ '/' :: p

/-- The names on a path. A dot stands for the directory it is in and is passed over. -/
def names (p : Text) : List Text := (p.splitOn '/').filter fun n => n ≠ [] && n ≠ ['.']

/-- The path means a directory by its form. -/
def endsInDirectory (p : Text) : Bool :=
  match (p.splitOn '/').getLast? with
  | some last => p.contains '/' && (last = [] || last = ['.'])
  | none => false

/-- The last name on the path is a dot. -/
def endsInDot (p : Text) : Bool := ((p.splitOn '/').filter (· ≠ [])).getLast? = some ['.']

/-- A path, given back to front, without the slashes and dots that end it. The root stays. -/
def trimBack : Text → Text
  | [] => []
  | ['/'] => ['/']
  | '/' :: c :: rest => trimBack (c :: rest)
  | '.' :: '/' :: rest => trimBack ('/' :: rest)
  | c :: rest => c :: rest

/-- The path without its last name. The root has none, and neither has the empty path. -/
def parent? (p : Text) : Option Text :=
  match trimBack p.reverse with
  | [] => none
  | ['/'] => none
  | _ :: rest => some (trimBack (rest.dropWhile (· ≠ '/'))).reverse

theorem length_trimBack_le (t : Text) : (trimBack t).length ≤ t.length := by
  fun_induction trimBack t <;> simp_all <;> omega

/-- Going up makes a path shorter. -/
theorem length_lt_of_parent? {p q : Text} (h : parent? p = some q) : q.length < p.length := by
  have hp := length_trimBack_le p.reverse
  rw [parent?] at h
  split at h
  · simp at h
  · simp at h
  · rename_i c rest _ ht
    obtain rfl := Option.some.inj h
    have h₁ := length_trimBack_le (rest.dropWhile (· ≠ '/'))
    have h₂ := (List.dropWhile_sublist (· ≠ '/') (l := rest)).length_le
    rw [ht, List.length_cons, List.length_reverse] at hp
    rw [List.length_reverse]
    exact Nat.lt_of_le_of_lt (Nat.le_trans h₁ h₂) (Nat.lt_of_succ_le hp)

end DefinitionServer.Path
