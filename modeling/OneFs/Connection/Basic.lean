import OneFs.Config
import OneFs.Http.Send

/-!
# Connections

A `Connection` holds the settings for one cluster. It keeps no state: every call is a plan of its
own, made of single requests.

- `Connection.ofConfig`, `Connection.connect`: a connection for a configuration, the second of
  which asks the cluster for its version if none is configured;
- `Connection.url`: the URL of a resource;
- `Connection.query`: one request, judged by its status, with the reply read;
- `Connection.execute`: one request of which only the status counts.
-/

namespace OneFs

open Json

/-- The settings for one cluster. The endpoint has no slash at its end. -/
structure Connection where
  options : Http.Options
  endpoint : String
  username : String
  group : Option String
  authorization : String
  volumesPath : String
  version : Version
  deriving DecidableEq, Inhabited

/-- What to ask of a cluster: a method on a resource, which may have an id below its path. -/
structure Ask where
  method : String
  path : String
  id : Option String := none
  params : List (String × String) := []
  headers : List (String × String) := []
  body : Option Value := none

namespace Connection

/-- The connection for a configuration, in version 1 unless another is configured. -/
def ofConfig (c : Config) : Except Failure Connection := do
  c.validate
  pure {
    options := ⟨c.insecure, c.timeout⟩
    endpoint := String.ofList (Text.trimEnd (· == '/') c.endpoint.toList)
    username := c.username
    group := c.owningGroup
    authorization := Http.basicAuth c.username c.password
    volumesPath := c.directory
    version := c.version.getD .v1 }

/-- The path in URLs of the directory that holds the volumes. -/
def namespacePath (c : Connection) : String :=
  OneFs.namespacePath c.volumesPath

/-- Where the contents of the snapshot `name` appear. -/
def snapshotPath (c : Connection) (name : String) : String :=
  c.version.snapshotPath c.namespacePath name

/-- The connection taken apart, without what authorizes it. -/
def detail (c : Connection) : String :=
  "ApiClient \x7b endpoint: " ++ Text.quoted c.endpoint ++ ", username: " ++
    Text.quoted c.username ++ ", group: " ++ Text.optionDetail Text.quoted c.group ++
    ", volumes_path: " ++ Text.quoted c.volumesPath ++ ", version: " ++ c.version.detail ++
    ", .. \x7d"

/-- The text of the URL of a resource, before its parameters. -/
def rawUrl (c : Connection) (path : String) (id : Option String) : String :=
  let base := c.endpoint ++ "/" ++ String.ofList (path.toList.dropWhile (· == '/'))
  match id with
  | some id => if id.isEmpty then base else base ++ "/" ++ id
  | none => base

/-- The URL of a resource, with parameters. -/
def url (c : Connection) (path : String) (id : Option String) (params : List (String × String)) :
    Except Failure Url :=
  let raw := c.rawUrl path id
  match Url.parse raw with
  | .ok url => .ok (url.withPairs params)
  | .error fault => .error (.config ("Invalid URL " ++ raw ++ ": " ++ fault.message))

/-- What the body of a reply holds. -/
def decoded {α : Type} (r : Reader α) (body : String) : Except Failure α :=
  match r.decode body with
  | .ok a => .ok a
  | .error fault => .error (.json fault (r.place? body fault))

/-- What a reply holds: a failure unless it reports success, and nothing if it is blank. -/
def judged {α : Type} (r : Reader α) (reply : Http.Reply) : Exchange (Option α) :=
  if reply.isSuccess then
    if reply.isEmpty then pure none
    else do
      let a ← Exchange.ofExcept (decoded r reply.body)
      pure (some a)
  else do
    let rejection := Rejection.ofBody reply.status reply.body
    Exchange.note (.refusal rejection)
    Exchange.fail (.rejected rejection)

/-- Tell that a request with a body, if it has one, is about to be sent. -/
def announce (method : String) (url : Url) (body : Option String) : Exchange Unit := do
  Exchange.note (.request method url)
  match body with
  | some body => Exchange.note (.requestBody body)
  | none => pure ()

/-- Tell what reply came. -/
def report (method : String) (reply : Http.Reply) : Exchange Unit := do
  Exchange.note (.response method reply.status reply.body.utf8ByteSize)
  Exchange.note (.responseBody reply.body)

/-- Send a request and read its reply; `none` if a reply that reports success is blank. -/
def query {α : Type} (c : Connection) (ask : Ask) (r : Reader α) : Exchange (Option α) := do
  let url ← Exchange.ofExcept (c.url ask.path ask.id ask.params)
  let body := ask.body.map Value.text
  announce ask.method url body
  let reply ← Http.send c.options ask.method url c.authorization ask.headers
    (body.map Text.Utf8.bytes)
  report ask.method reply
  judged r reply

/-- Send a request of which only the status of the reply counts. -/
def execute (c : Connection) (ask : Ask) : Exchange Unit := do
  let _ ← c.query ask ignored
  pure ()

/-- The latest version in the reply of a cluster. -/
def latest : Reader String :=
  record "struct LatestVersion" .dropped (requiredField "latest" string)

/-- The version for a cluster that reports `latest` as its latest. -/
def versionFor (latest : String) : Except Failure Version :=
  match Text.word32? (Text.trim latest) with
  | some n => .ok (Version.ofLatest n)
  | none => .error (.config ("Unexpected platform version: " ++ latest))

/-- Ask the cluster for its latest version. -/
def detectVersion (c : Connection) : Exchange Version := do
  let reply ← c.query { method := "GET", path := latestPath } latest
  let latest ← Exchange.ofOption .invalidResponse reply
  Exchange.ofExcept (versionFor latest)

/-- A connection for a configuration, in the version that the cluster speaks if none is
configured. -/
def connect (config : Config) : Exchange Connection := do
  let c ← Exchange.ofExcept (ofConfig config)
  match config.version with
  | some _ => pure c
  | none =>
    let version ← c.detectVersion
    Exchange.note (.versionDetected version)
    pure { c with version }

/-- The failure of a call that lacks an argument. -/
def require (present : Bool) (what : String) : Exchange Unit :=
  if present then pure () else Exchange.fail (.invalidArgument what)

end Connection

end OneFs
