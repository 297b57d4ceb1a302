import DefinitionServer.Log.Line
import DefinitionServer.Server.Launch

/-!
# The programs

The server and its client on standard streams. With `serve` as its first argument the program is
the server: it serves standard input as one connection. Otherwise it is the client, which sends its
request to standard output, reads the response from standard input and shows it as an error.
-/
namespace DefinitionServer.Main

/-- The variables that the programs look at. -/
def variableNames : List String :=
  ["HOME", "TMPDIR", "XDG_RUNTIME_DIR", "XDG_CONFIG_HOME", "XDG_CONFIG_DIRS", "GLYPH_CONFIG_PATH",
    "GLYPH_DAEMON_SOCKET", "GLYPH_LOG_FILTER", "GLYPH_LOG_FORMAT", "GLYPH_END_TAG",
    "GLYPH_MAX_BLOCK_BYTES"]

/-- The environment of the program. -/
def environment : IO Environment := do
  let bindings ← variableNames.filterMapM fun name => do
    return (← IO.getEnv name).map fun value => (name.toList, value.toList)
  return ⟨bindings, ((← IO.getEnv "UID").getD "0").toList⟩

/-- The tree with the file at a path, if there is one that can be read. -/
def withFile (files : FileTree) (path : Text) : IO FileTree := do
  let start := if Path.isAbsolute path then [] else files.workingDirectory
  try
    let content ← IO.FS.readBinFile ⟨String.ofList path⟩
    return files.putFile (start ++ Path.names path) content.toList
  catch _ => return files

/-- The tree with a settings file and the files that it extends, up to so many. -/
def withSettings : Nat → FileTree → Text → IO FileTree
  | 0, files, _ => return files
  | fuel + 1, files, path => do
    let files ← withFile files path
    match (files.read path).toOption.map (ConfigFile.table path) with
    | none | some (.error _) => return files
    | some (.ok table) =>
      match ConfigFile.base? path table with
      | .ok (some base) => withSettings fuel files base
      | _ => return files

/-- The files that the program may read: settings and sources. -/
def snapshot (env : Environment) (args : List Text) : IO FileTree := do
  let files : FileTree := ⟨[], Path.names (toString (← IO.currentDir)).toList⟩
  let files := files.put files.workingDirectory .directory
  let named := ((Flags.parse args).bind (·.configPath)).toList
  let files ← (named ++ ConfigFile.candidates env files).foldlM (withSettings 16) files
  args.foldlM withFile files

/-- Writes a text. -/
def say (stream : IO.FS.Stream) (t : Text) : IO Unit := do
  stream.putStr (String.ofList t)
  stream.flush

/-- Writes bytes. -/
def send (stream : IO.FS.Stream) (data : Bytes) : IO Unit := do
  stream.write ⟨data.toArray⟩
  stream.flush

/-- All of standard input. -/
def received : IO Bytes := return (← (← IO.getStdin).readBinToEnd).toList

/-- The server. -/
def serve (args : List Text) : IO UInt32 := do
  let env ← environment
  let files ← snapshot env args
  let start := Startup.run files (Config.load env files args)
  let stderr ← IO.getStderr
  match start.outcome with
  | .error e =>
    say stderr ("glyphd: ".toList ++ (LaunchError.startup e).message ++ ['\n'])
    return 1
  | .ok c =>
    let session := c.session (← received) Workspace.empty
    for r in start.log ++ start.admitted session.log do
      say stderr (r.line c.logFormat ++ ['\n'])
    send (← IO.getStdout) session.sink.accepted
    return 0

/-- The client. -/
def ask (args : List String) : IO UInt32 := do
  let env ← environment
  let files ← snapshot env (args.map String.toList)
  let stderr ← IO.getStderr
  match Client.prepare env files ([] :: args.map (·.toUTF8.toList)) with
  | .error e =>
    say stderr (e.message ++ ['\n'])
    return e.status.toUInt32
  | .ok call =>
    send (← IO.getStdout) (call.request.bytes call.config.endTag)
    match (Client.Response.read call.config.endTag (← received)).1 with
    | .error e =>
      say stderr (e.message ++ ['\n'])
      return e.status.toUInt32
    | .ok r =>
      say stderr (r.body ++ ['\n'])
      return if r.isFailure then 1 else 0

end DefinitionServer.Main

open DefinitionServer in
/-- Runs the program. -/
def main : List String → IO UInt32
  | "serve" :: args => Main.serve (args.map String.toList)
  | args => Main.ask args
