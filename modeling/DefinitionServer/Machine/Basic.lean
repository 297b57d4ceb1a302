import DefinitionServer.Machine.FileTree
import DefinitionServer.Machine.NetAddress

/-!
# Machines

What programs on one machine share: its files, and the addresses on which some program listens.

## Main definitions

* `Machine.connectSocket`: connects to a socket.
-/
namespace DefinitionServer

/-- A machine. -/
structure Machine where
  files : FileTree
  /-- The addresses and ports that programs listen on. -/
  listening : List (NetAddress × Nat) := []

namespace Machine

/-- The longest path of a socket, in bytes. -/
def maxSocketPath : Nat := 107

/-- Connects to the socket at a path. A path that begins with a null character names a socket that
has no file, and no one listens on those. Any other path ends before its first null character. -/
def connectSocket (m : Machine) (path : Text) : Except SystemError Unit := do
  let size := (Text.Utf8.encode path).length
  match path with
  | [] => .error .invalidArgument
  | '\x00' :: _ =>
    if maxSocketPath + 1 < size then .error .socketPathTooLong else .error .connectionRefused
  | path =>
    if maxSocketPath < size then .error .socketPathTooLong
    match ← m.files.node (path.takeWhile (· ≠ '\x00')) with
    | .socket true => return ()
    | _ => .error .connectionRefused

end Machine
end DefinitionServer
