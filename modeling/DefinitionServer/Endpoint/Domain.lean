import DefinitionServer.Endpoint.HostCharacter
import DefinitionServer.Text.Direction
import DefinitionServer.Text.Joining
import DefinitionServer.Text.Punycode

/-!
# Domains

The name of a host on the internet: labels with dots between them. A label beyond ASCII can be given
as it is or in a code of letters, digits and dashes after a mark.

## Main definitions

* `Domain.normalize`: the name with each character replaced by what it stands for.
-/
namespace DefinitionServer.Domain

/-- What begins a label that is given in code. -/
def codeMark : Text := "xn--".toList

/-- The label that is meant. A code must be of ASCII and write characters that stand for themselves,
some of them beyond ASCII. -/
def meant? (label : Text) : Option Text :=
  match Text.after? codeMark label with
  | none => some label
  | some code =>
    if code.all (·.toNat < 0x80) then
      (Punycode.decode code).filter fun t =>
        t.all HostCharacter.isNormal && t.any (0x80 ≤ ·.toNat)
    else none

/-- The label begins with no mark, and its joiners stand where they may. -/
def isWellFormed (label : Text) : Bool := !label.head?.any Text.isMark && Text.joinersStand label

/-- The label is written in one direction, which its first letter shows. A label to the left has
digits of one kind, and no label ends in a sign. -/
def hasOneDirection (label : Text) : Bool :=
  let ds := label.map Text.direction
  let last? := (ds.filter (· ≠ .mark)).getLast?
  match ds.head? with
  | some .left =>
    ds.all (· ≠ .right) && (last?.any fun d => d ≠ .sign)
      && !(ds.contains .arabicDigit && ds.contains .digit)
  | some .right =>
    (ds.all fun d => d ≠ .left && d ≠ .arabicDigit) && (last?.any fun d => d ≠ .sign)
  | some _ => false
  | none => true

/-- Some label of the name is written to the left. -/
def isLeftward (labels : List Text) : Bool :=
  labels.any fun label => label.any fun c =>
    Text.direction c = .left || Text.direction c = .arabicDigit

/-- The name with each character replaced by what it stands for, if all its labels are good. Where
one is written to the left, each must have one direction. -/
def normalize (name : Text) : Option Text := do
  let name := (← name.mapM HostCharacter.normal?).flatten
  let labels ← (name.splitOn '.').mapM meant?
  if labels.all isWellFormed && (!isLeftward labels || labels.all hasOneDirection) then return name
  else none

end DefinitionServer.Domain
