import DefinitionServer.Text.Basic

/-!
# Errors of the operating system

What the system says when a file cannot be used or an address cannot be reached.
-/
namespace DefinitionServer

/-- An answer of the operating system that is no success. -/
inductive SystemError where
  | notFound
  /-- The file is a socket, which can only be connected to. -/
  | noDevice
  | alreadyExists
  | notDirectory
  | isDirectory
  | invalidArgument
  | nameTooLong
  | addressInUse
  | addressNotAvailable
  | networkUnreachable
  | connectionRefused
  /-- The path holds a null character. -/
  | nullInPath
  /-- The path of a socket to be made holds a null character. -/
  | nullInSocketPath
  /-- The path is too long for a socket. -/
  | socketPathTooLong
deriving DecidableEq, Repr

namespace SystemError

/-- What the system calls the error and its number. -/
def numbered (label : String) (n : Nat) : Text :=
  label.toList ++ " (os error ".toList ++ Text.ofNat n ++ ")".toList

/-- The wording of the error. -/
def message : SystemError → Text
  | notFound => numbered "No such file or directory" 2
  | noDevice => numbered "No such device or address" 6
  | alreadyExists => numbered "File exists" 17
  | notDirectory => numbered "Not a directory" 20
  | isDirectory => numbered "Is a directory" 21
  | invalidArgument => numbered "Invalid argument" 22
  | nameTooLong => numbered "File name too long" 36
  | addressInUse => numbered "Address already in use" 98
  | addressNotAvailable => numbered "Cannot assign requested address" 99
  | networkUnreachable => numbered "Network is unreachable" 101
  | connectionRefused => numbered "Connection refused" 111
  | nullInPath => "file name contained an unexpected NUL byte".toList
  | nullInSocketPath => "paths must not contain interior null bytes".toList
  | socketPathTooLong => "path must be shorter than SUN_LEN".toList

end SystemError
end DefinitionServer
