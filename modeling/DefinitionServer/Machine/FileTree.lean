import DefinitionServer.Bytes
import DefinitionServer.Machine.SystemError
import DefinitionServer.Machine.Path
import DefinitionServer.Text.Utf8

/-!
# File trees

The files that a program can see, as a value: a finite tree of directories with files and sockets
in it, and the working directory. Programs read the tree and make directories and sockets in it.

## Main definitions

* `FileTree.node?`: what stands at a path.
* `FileTree.read`: the content of a file.
* `FileTree.makeDirectories`: makes a directory and those above it.
-/
namespace DefinitionServer

/-- What stands at a path. -/
inductive Node where
  | directory
  | file (content : Bytes)
  /-- A socket, and whether a program listens on it. -/
  | socket (live : Bool)
  /-- A link to nothing. -/
  | deadLink
deriving DecidableEq, Repr

/-- The tree below the root. A place in it is the list of the names that lead there. -/
structure FileTree where
  entries : List (List Text × Node)
  workingDirectory : List Text
deriving Repr

namespace FileTree

variable (t : FileTree)

/-- What stands at a place. -/
def at? (place : List Text) : Option Node :=
  if place = [] then some .directory else t.entries.lookup place

/-- The tree with something put at a place. -/
def put (place : List Text) (n : Node) : FileTree :=
  { t with entries := (place, n) :: t.entries.filter (·.1 ≠ place) }

/-- The tree without what stands at a place. -/
def remove (place : List Text) : FileTree :=
  { t with entries := t.entries.filter (·.1 ≠ place) }

/-- The longest name that a directory can hold, in bytes. -/
def maxName : Nat := 255

/-- The place that names lead to from a place. Every place on the way must be a directory. -/
def walk (place : List Text) : List Text → Except SystemError (List Text)
  | [] => .ok place
  | name :: rest =>
    match t.at? place with
    | none | some .deadLink => .error .notFound
    | some .directory =>
      if maxName < (Text.Utf8.encode name).length then .error .nameTooLong
      else walk (if name = ['.', '.'] then place.dropLast else place ++ [name]) rest
    | some _ => .error .notDirectory

/-- The longest path that the system takes, in bytes. -/
def maxPath : Nat := 4095

/-- The place of a path. -/
def place (p : Text) : Except SystemError (List Text) :=
  if p.contains '\x00' then .error .nullInPath
  else if p = [] then .error .notFound
  else if maxPath < (Text.Utf8.encode p).length then .error .nameTooLong
  else t.walk (if Path.isAbsolute p then [] else t.workingDirectory) (Path.names p)

/-- What stands at a path, where nothing has gone wrong on the way there. A dead link leads to
nothing. -/
def node (p : Text) : Except SystemError Node := do
  match t.at? (← t.place p) with
  | none | some .deadLink => .error .notFound
  | some .directory => return .directory
  | some n => if Path.endsInDirectory p then .error .notDirectory else return n

/-- The path leads to a directory. -/
def isDirectory (p : Text) : Bool := (t.node p).toOption = some .directory

/-- The content of the file at a path. -/
def read (p : Text) : Except SystemError Bytes := do
  match ← t.node p with
  | .file content => return content
  | .directory => .error .isDirectory
  | .socket _ => .error .noDevice
  | .deadLink => .error .notFound

/-- Makes a directory in one that exists. -/
def makeDirectory (p : Text) : Except SystemError FileTree := do
  let place ← t.place p
  match t.at? place with
  | some _ => .error .alreadyExists
  | none => return t.put place .directory

/-- Makes a directory and those above it, as far as they are missing. -/
def makeDirectories (t : FileTree) (p : Text) : Except SystemError FileTree :=
  match _h : Path.parent? p with
  | none => .ok t
  | some parent =>
    match t.makeDirectory p with
    | .ok t => .ok t
    | .error .notFound => do
      let t ← makeDirectories t parent
      if t.isDirectory p then return t else t.makeDirectory p
    | .error e => if t.isDirectory p then .ok t else .error e
termination_by p.length
decreasing_by exact Path.length_lt_of_parent? _h

/-- The tree with a file put at a place and the directories that lead there. -/
def putFile (place : List Text) (content : Bytes) : FileTree :=
  (((List.range place.length).map (place.take ·)).foldl
    (fun t above => if (t.at? above).isNone then t.put above .directory else t) t).put place
      (.file content)

end FileTree
end DefinitionServer
