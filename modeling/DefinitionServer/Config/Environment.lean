import DefinitionServer.Config.Basic
import DefinitionServer.Config.Variable
import DefinitionServer.Machine.Path

/-!
# Environment

The environment variables of a program: where it finds its directories, and settings that are given
as variables.

## Main definitions

* `Environment.settings`: the table of the settings that are given as variables.
* `Config.default`: the configuration where nothing is set.
-/
namespace DefinitionServer

/-- The environment of a program. -/
structure Environment where
  bindings : List (Text × Text)
  /-- The number of the user. -/
  user : Text
deriving Repr

namespace Environment

/-- The value of a variable. -/
def get? (env : Environment) (name : String) : Option Text := env.bindings.lookup name.toList

/-- The table of the settings that are given as variables. Of two variables for one outermost key
the later counts, with all that is under the key. -/
def settings (env : Environment) : Data :=
  .table ((env.bindings.filterMap fun v => Variable.setting? v.1 v.2).foldl
    (fun entries e => Data.insert e.1 e.2 entries) [])

/-! ## Directories -/

/-- The directory for what is thrown away. -/
def temporaryDirectory (env : Environment) : Text := (env.get? "TMPDIR").getD "/tmp".toList

/-- The directory for what lives as long as the user's session, when there is one. -/
def runtimeDirectory? (env : Environment) : Option Text :=
  (env.get? "XDG_RUNTIME_DIR").filter Path.isAbsolute

/-- The socket of a server that is not told where to listen: in the user's runtime directory or,
without one, in a directory of the user's own among the temporary files. -/
def defaultEndpoint (env : Environment) : Endpoint :=
  let base := env.runtimeDirectory?.getD
    (Path.join env.temporaryDirectory ("glyph-uid-".toList ++ env.user))
  .unix (Path.join (Path.join base "glyph".toList) "glyphd.sock".toList)

end Environment

/-- The configuration where nothing is set. -/
def Config.default (env : Environment) : Config where
  endpoint := env.defaultEndpoint
  logFilter := "info".toList
  logFormat := .json
  endTag := "APL_NATIVE_END_TAG".toList
  maxBlockBytes := 1024 * 1024

end DefinitionServer
