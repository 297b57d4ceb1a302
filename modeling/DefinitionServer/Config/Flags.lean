import DefinitionServer.Config.Basic

/-!
# Flags

The flags of the command line that configure the server and its client. Each may be given once,
with its value after an equals sign or as the next argument.

## Main definitions

* `Flag`: the flags.
* `Flags.parse`: reads the arguments.
-/
namespace DefinitionServer

/-- A flag that configures. -/
inductive Flag where
  /-- Names the settings file. -/
  | configPath
  | setting (s : Config.Setting)
deriving DecidableEq, Repr

namespace Flag

/-- The flags. -/
def all : List Flag := configPath :: Config.Setting.all.map setting

/-- The name of a flag: two dashes, and dashes for the underscores of a setting. -/
def name : Flag → Text
  | configPath => "--config-path".toList
  | setting s => "--".toList ++ s.key.map fun c => if c = '_' then '-' else c

/-- The flag of a name. -/
def ofName? (t : Text) : Option Flag := all.find? (·.name = t)

end Flag

/-- What the flags of a command line say. -/
structure Flags where
  configPath : Option Text := none
  settings : List (Text × Data) := []

namespace Flags

/-- The data of a setting that is given as a flag. -/
def datum? : Config.Setting → Text → Option Data
  | .endpoint, t => (Endpoint.parse t).toOption.map Endpoint.toData
  | .logFilter, t | .endTag, t => some (.text t)
  | .logFormat, t => (Log.Format.parse? t).map fun f => .text f.name
  | .maxBlockBytes, t => (Numeral.size? t).map fun n => .int n

/-- The flags with one more, which must not have been given before. -/
def add (f : Flag) (t : Text) (flags : Flags) : Option Flags :=
  match f with
  | .configPath =>
    if flags.configPath.isSome ∨ t = [] then none else some { flags with configPath := some t }
  | .setting s =>
    if (flags.settings.lookup s.key).isSome then none
    else (datum? s t).map fun d => { flags with settings := (s.key, d) :: flags.settings }

/-- The argument can be the value of the flag before it. -/
def isValue (t : Text) : Bool := t.head? ≠ some '-' || t = ['-']

/-- Reads the flags that follow those in `flags`. -/
def parseAfter (flags : Flags) : List Text → Option Flags
  | [] => some flags
  | [a] =>
    if a = "--".toList then some flags
    else do
      let (name, t) ← Text.cut '=' a
      add (← Flag.ofName? name) t flags
  | a :: b :: rest =>
    match Text.cut '=' a with
    | some (name, t) => do parseAfter (← add (← Flag.ofName? name) t flags) (b :: rest)
    | none => do
      let f ← Flag.ofName? a
      if isValue b then parseAfter (← add f b flags) rest else none

/-- Reads the arguments of a command line. Anything but flags with good values is refused. Two
dashes may end the arguments. -/
def parse (args : List Text) : Option Flags := parseAfter {} args

/-- The settings that the flags lay over all others. Flags that only repeat the defaults lay
nothing, unless they also name the settings file. -/
def layer (default : Config) (flags : Flags) : Data :=
  if flags.configPath.isNone ∧ Config.ofData? (.table flags.settings) = some default then .table []
  else .table flags.settings

end Flags
end DefinitionServer
