import OneFs.Version

/-!
# Configuration

What is needed to talk to a cluster. A configuration is put together from values, read from the
environment (`Config.ofEnvironment`) or from JSON (`Config.reader`).

- `Config.validate`: whether the settings that have no default are there;
- `Config.directory`: the directory that holds the volumes;
- `Config.owningGroup`: the group, unless it is empty;
- `Config.detail`: the configuration taken apart, without the password.
-/

namespace OneFs

open Json

/-- Milliseconds that a reply may take unless configured. -/
def usualTimeout : Nat :=
  60000

/-- Settings for a cluster. The timeout is in milliseconds. -/
structure Config where
  endpoint : String
  username : String
  password : String
  group : Option String
  volumesPath : String
  insecure : Bool
  timeout : Nat
  version : Option Version
  deriving DecidableEq, Inhabited

/-- The directory that a configured path names: a path below the root of the volumes. -/
def volumesDirectory (path : String) : String :=
  if path.isEmpty then volumesRoot
  else if path.toList.head? == some '/' then volumesRoot ++ path
  else volumesRoot ++ "/" ++ path

/-- Whether a flag in the environment is set. Unknown spellings are not. -/
def isSet (flag : String) : Bool :=
  flag ∈ ["1", "t", "T", "TRUE", "true", "True"]

/-- A number of milliseconds as a duration, in the largest unit that gives a whole part. -/
def durationText (ms : Nat) : String :=
  if ms = 0 then "0ns"
  else if ms < 1000 then toString ms ++ "ms"
  else
    let places := [ms / 100 % 10, ms / 10 % 10, ms % 10].map Nat.digitChar
    let places := Text.trimEnd (· == '0') places
    toString (ms / 1000) ++ (if places.isEmpty then "" else "." ++ String.ofList places) ++ "s"

namespace Config

/-- A configuration with only the settings that have no default. -/
def new (endpoint username password : String) : Config :=
  ⟨endpoint, username, password, none, "", false, usualTimeout, none⟩

/-- The configuration with another group. -/
def withGroup (c : Config) (group : String) : Config :=
  { c with group := some group }

/-- The configuration with another directory for the volumes. -/
def withVolumesPath (c : Config) (path : String) : Config :=
  { c with volumesPath := path }

/-- The configuration that accepts any certificate, or does not. -/
def withInsecure (c : Config) (insecure : Bool) : Config :=
  { c with insecure }

/-- The configuration with another timeout, in milliseconds. -/
def withTimeout (c : Config) (ms : Nat) : Config :=
  { c with timeout := ms }

/-- The configuration with a version, which then need not be asked for. -/
def withVersion (c : Config) (v : Version) : Config :=
  { c with version := some v }

/-- The timeout of the environment, in seconds. -/
def timeoutOf (s : String) : Except Failure (Option Nat) :=
  if s.isEmpty then .ok none
  else
    match Text.word64? s with
    | some seconds => .ok (some seconds)
    | none => .error (.config ("Invalid ISILON_TIMEOUT: " ++ s))

/-- The version of the environment. -/
def versionOf (s : String) : Except Failure (Option Version) :=
  if s.isEmpty then .ok none else (Version.parse s).map some

/-- The configuration of an environment, in which an unset variable counts as empty. -/
def ofEnvironment (env : String → Option String) : Except Failure Config := do
  let setting (name : String) : String := (env name).getD ""
  let group := setting "ISILON_GROUP"
  let timeout ← timeoutOf (setting "ISILON_TIMEOUT")
  let version ← versionOf (setting "ISILON_API_VERSION")
  pure {
    endpoint := setting "ISILON_ENDPOINT"
    username := setting "ISILON_USERNAME"
    password := setting "ISILON_PASSWORD"
    group := if group.isEmpty then none else some group
    volumesPath := setting "ISILON_VOLUMEPATH"
    insecure := isSet (setting "ISILON_INSECURE")
    timeout := (timeout.map (· * 1000)).getD usualTimeout
    version }

/-- A configuration in a text, with the timeout in seconds. -/
def reader : Reader Config :=
  record "struct ClientConfig" .dropped <|
    (fun endpoint username password group path insecure seconds version =>
      Config.mk endpoint username password group path insecure (seconds * 1000) version)
      <$> requiredField "endpoint" string
      <*> requiredField "username" string
      <*> requiredField "password" string
      <*> field? "group" string
      <*> fieldD "volumes_path" string ""
      <*> fieldD "insecure" boolean false
      <*> fieldD "timeout" word64 (usualTimeout / 1000)
      <*> field? "api_version" Version.reader

/-- Whether the settings that have no default are there. -/
def validate (c : Config) : Except Failure Unit :=
  if c.endpoint.isEmpty || c.username.isEmpty || c.password.isEmpty then
    .error (.config "Missing endpoint, username, or password")
  else .ok ()

/-- The directory that holds the volumes. -/
def directory (c : Config) : String :=
  volumesDirectory c.volumesPath

/-- The group that owns volumes; an empty one is none. -/
def owningGroup (c : Config) : Option String :=
  c.group.filter fun g => !g.isEmpty

/-- The configuration taken apart, without the password. -/
def detail (c : Config) : String :=
  "ClientConfig \x7b endpoint: " ++ Text.quoted c.endpoint ++ ", username: " ++
    Text.quoted c.username ++ ", password: \x22<redacted>\x22, group: " ++
    Text.optionDetail Text.quoted c.group ++ ", volumes_path: " ++ Text.quoted c.volumesPath ++
    ", insecure: " ++ toString c.insecure ++ ", timeout: " ++ durationText c.timeout ++
    ", api_version: " ++ Text.optionDetail Version.detail c.version ++ " \x7d"

end Config

end OneFs
