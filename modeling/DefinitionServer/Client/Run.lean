import DefinitionServer.Client.Arguments
import DefinitionServer.Client.Request
import DefinitionServer.Client.Response
import DefinitionServer.Machine.Basic

/-!
# Running the client

The client reads its command and its configuration, sends one request and shows the response. A
response that refuses the request is shown as an error.

## Main definitions

* `Client.prepare`: everything that happens before the server is called.
* `Client.exchange`: the request and the response.
* `Client.run`: the whole run.
-/
namespace DefinitionServer.Client

/-- What the client knows when it calls the server. -/
structure Call where
  config : Config
  request : Request

/-- The request that an action makes. -/
def Request.ofAction (files : FileTree) (endTag : Text) : Action → Except ClientError Request
  | .define file =>
    match files.read file with
    | .ok content => ofSource endTag file content
    | .error e => .error (.readSource file e.message)
  | .function name => .ok (.function name)
  | .functionList => .ok .functionList

/-- The arguments as texts. -/
def texts? (args : List Bytes) : Option (List Text) :=
  args.mapM fun a => (Text.Utf8.decode? a).toOption

/-- Reads the command, the configuration and the source. -/
def prepare (env : Environment) (files : FileTree) (args : List Bytes) :
    Except ClientError Call := do
  let (flags, command) := splitArguments args
  let action ← Action.parse command.tail
  let config ← match texts? flags.tail with
    | some ts => (Config.load env files ts).mapError .configuration
    | none => .error (.configuration [.flags])
  return ⟨config, ← Request.ofAction files config.endTag action⟩

/-- Calls the server at an endpoint. -/
def dial (m : Machine) (e : Endpoint) : Except ClientError Unit :=
  match e with
  | .unix path => (m.connectSocket path).mapError fun err => .connect e.display err.message
  | .tcp host _ =>
    match NetAddress.ofHost host with
    | .ok address => .error (.connect e.display address.unreachable.message)
    | .error reason => .error (.resolve e.display reason)

/-- What a run of the client leaves behind. -/
structure Outcome where
  status : Nat
  /-- What it wrote as its result. -/
  output : Bytes
  /-- What it wrote as an error. -/
  complaint : Text
  /-- What it sent to a server, if it reached one. -/
  sent : Option Bytes
  /-- The error that ended it. -/
  error : Option ClientError

/-- The outcome of a run that an error ended. -/
def Outcome.ofError (sent : Option Bytes) (output : Bytes) (e : ClientError) : Outcome :=
  ⟨e.status, output, e.message ++ ['\n'], sent, some e⟩

/-- Shows a response. What writes the result may break down. -/
def Outcome.ofResponse (sent : Bytes) (limit : Option Breakdown) (r : Response) : Outcome :=
  if r.isFailure then ⟨1, [], r.body ++ ['\n'], some sent, none⟩
  else
    match accept limit (Text.Utf8.encode (r.body ++ ['\n'])) with
    | (taken, .ok ()) => ⟨0, taken, [], some sent, none⟩
    | (taken, .error reason) => ofError (some sent) taken (.forward reason)

/-- Runs the client with its arguments, the first of which is its name. `server` is what the server
sends when it receives a request. -/
def run (env : Environment) (m : Machine) (server : Bytes → Bytes) (limit : Option Breakdown)
    (args : List Bytes) : Outcome :=
  match prepare env m.files args with
  | .error e => .ofError none [] e
  | .ok call =>
    match dial m call.config.endpoint with
    | .error e => .ofError none [] e
    | .ok () =>
      let sent := call.request.bytes call.config.endTag
      match (Response.read call.config.endTag (server sent)).1 with
      | .ok r => .ofResponse sent limit r
      | .error e => .ofError (some sent) [] e

end DefinitionServer.Client
