import DefinitionServer.Config.Environment
import DefinitionServer.Config.Flags
import DefinitionServer.Machine.FileTree
import DefinitionServer.Toml.Document

/-!
# Loading the configuration

The configuration is what the flags say, over what the environment says, over what the settings
file says, over the defaults. The settings file is the first of several that exists, and it may
name another file that it extends.

## Main definitions

* `ConfigFile.layers`: the tables of a settings file and of the files it extends.
* `ConfigFile.find`: the first settings file that exists.
* `Config.load`: the configuration of a program.
-/
namespace DefinitionServer

/-- Why there is no configuration. -/
inductive ConfigError where
  /-- The arguments are no flags. -/
  | flags
  /-- A settings file is missing or cannot be read. -/
  | file (path : Text)
  /-- A settings file is not written in the edition that settings are taken from. -/
  | edition (path : Text)
  /-- A settings file extends itself. -/
  | cycle (path : Text)
  /-- The settings do not make a configuration. -/
  | settings
deriving DecidableEq, Repr

/-- The wording of the error. -/
def ConfigError.message : ConfigError → Text
  | flags => "the flags are not understood".toList
  | file path => "the settings file '".toList ++ path ++ "' cannot be read".toList
  | edition path => "the settings file '".toList ++ path ++ "' needs a newer edition".toList
  | cycle path => "the settings file '".toList ++ path ++ "' extends itself".toList
  | settings => "the settings do not make a configuration".toList

namespace ConfigFile

/-- The part of a file's name after its last dot, in lower case. -/
def extension? (path : Text) : Option Text :=
  match ((Path.names path).getLast?.getD []).reverse.span (· ≠ '.') with
  | (reversed, '.' :: _ :: _) => some (reversed.reverse.map Char.toLower)
  | _ => none

/-- The names of other formats, which are not read. -/
def otherFormats : List Text := ["json", "json5", "yaml", "yml"].map String.toList

/-- The table in a settings file. The file must be well formed by the newer edition of its language,
and then by the older one, by which it is read. -/
def table (path : Text) (content : Bytes) : Except ConfigError Data :=
  let t? := if (extension? path).any otherFormats.contains then none
    else (Text.Utf8.decode? content).toOption.filter fun t => (Toml.parse .relaxed t).isSome
  match t? with
  | none => .error (.file path)
  | some t =>
    match Toml.parse .strict t with
    | some d => .ok d
    | none => .error (.edition path)

/-- The file that a table extends, seen from the directory of the table's own file. -/
def base? (path : Text) (table : Data) : Except ConfigError (Option Text) :=
  match table.get? "extends".toList with
  | none => .ok none
  | some (.text base) => .ok (some (Path.join ((Path.parent? path).getD []) base))
  | some _ => .error (.file path)

/-- The tables of a settings file and of those it extends, the last of which come first. A chain
longer than there are files comes back to a file that it has passed. Where there is no file there
are no tables. -/
def layers (files : FileTree) : Nat → Text → Except ConfigError (List Data)
  | 0, path => .error (.cycle path)
  | fuel + 1, path =>
    match files.read path with
    | .ok content => do
      let table ← table path content
      let some base ← base? path table | return [table]
      match ← layers files fuel base with
      | [] => .error (.file base)
      | below => return below ++ [table]
    | .error .notFound => .ok []
    | .error _ => .error (.file path)

/-- The settings files in a directory for settings. -/
def inDirectory (base : Text) : List Text :=
  [Path.join base "glyph/config.toml".toList, Path.join base ".glyph.toml".toList]

/-- The working directory. -/
def workingDirectory (files : FileTree) : Text :=
  files.workingDirectory.flatMap ('/' :: ·)

/-- The settings files that are looked for, in this order. -/
def candidates (env : Environment) (files : FileTree) : List Text :=
  (env.get? "GLYPH_CONFIG_PATH").toList
    ++ (env.get? "XDG_CONFIG_HOME").toList.flatMap inDirectory
    ++ (directories ((env.get? "XDG_CONFIG_DIRS").getD [])).flatMap inDirectory
    ++ (env.get? "HOME").toList.flatMap (fun home =>
        inDirectory (Path.join home ".config".toList) ++ [Path.join home ".glyph.toml".toList])
    ++ [Path.join (workingDirectory files) ".glyph.toml".toList]
where
  /-- The directories of a list with colons between them. -/
  directories (t : Text) : List Text :=
    match (t.splitOn ':').filter (· ≠ []) with
    | [] => ["/etc/xdg".toList]
    | ds => ds

/-- The tables of the first of several files that exists and can be read, and what is wrong with
those before it. -/
def first (files : FileTree) : List Text → List Data × List ConfigError
  | [] => ([], [])
  | path :: rest =>
    match layers files (files.entries.length + 1) path with
    | .ok [] => first files rest
    | .ok ds => (ds, [])
    | .error e =>
      let (ds, es) := first files rest
      (ds, e :: es)

/-- The tables of the settings file, and what is wrong. The file that a flag names must exist. When
it does not, and for the other files, the first that can be read will do, and only when there is
none are the others at fault. -/
def find (env : Environment) (files : FileTree) (named : Option Text) :
    List Data × List ConfigError :=
  let others (seen : List Text) : List Data × List ConfigError :=
    let (ds, es) := first files ((candidates env files).eraseDups.filter (!seen.contains ·))
    (ds, if ds.isEmpty then es else [])
  match named with
  | none => others []
  | some path =>
    match layers files (files.entries.length + 1) path with
    | .ok [] =>
      let (ds, es) := others [path]
      (ds, .file path :: es)
    | .ok ds => (ds, [])
    | .error e =>
      let (ds, es) := others [path]
      (ds, e :: es)

end ConfigFile

/-- Loads the configuration. Whatever is wrong with the flags, the settings file and the settings
as a whole is reported together. -/
def Config.load (env : Environment) (files : FileTree) (args : List Text) :
    Except (List ConfigError) Config :=
  let flags := Flags.parse args
  let (tables, fileErrors) := ConfigFile.find env files (flags.bind (·.configPath))
  let layers := tables ++ [env.settings] ++ (flags.map (·.layer (Config.default env))).toList
  let errors := (if flags.isNone then [.flags] else []) ++ fileErrors
  match Config.ofData? (layers.foldl Data.overlay (Config.default env).toData), errors with
  | some c, [] => .ok c
  | some _, errors => .error errors
  | none, errors => .error (errors ++ [.settings])

end DefinitionServer
