import OneFs.Failure
import OneFs.Version

/-!
# Log events

What calls tell about themselves while they run. An `Event` holds what it is about; its level, its
message and its fields as texts follow from that.
-/

namespace OneFs

/-- How important an event is. -/
inductive Level where
  | trace
  | debug
  | info
  | warn
  deriving DecidableEq, Inhabited

/-- The name of a level. -/
def Level.name : Level → String
  | .trace => "TRACE"
  | .debug => "DEBUG"
  | .info => "INFO"
  | .warn => "WARN"

/-- Something that happened during a call. -/
inductive Event where
  /-- A request is about to be sent. -/
  | request (method : String) (url : Url)
  /-- The body of that request. -/
  | requestBody (body : String)
  /-- A reply was received in full; its text has `bytes` bytes. -/
  | response (method : String) (status bytes : Nat)
  /-- The body of that reply. -/
  | responseBody (body : String)
  /-- The reply refuses the request. -/
  | refusal (r : Rejection)
  | versionDetected (v : Version)
  | volumeCreated (name : String)
  | volumeDeleted (name : String)
  | volumeCopied (source destination : String)
  | volumeAlreadyExported (name : String)
  | exportCreated (path : String) (id : Int64)
  | exportRemoved (id : Int64)
  | quotaSet (path : String) (hard : Option Int64)
  | quotaUpdated (path id : String) (hard : Option Int64)
  | snapshotCreated (path : String) (id : Int64) (name : String)
  | snapshotCopied (snapshot source destination : String)
  | snapshotRemoved (id : Int64)
  /-- No snapshot could be looked up by its id, so its name is tried. -/
  | snapshotLookupFailed (id : Int64) (name : String) (why : Failure)
  deriving BEq, Inhabited

namespace Event

/-- The level of an event. -/
def level : Event → Level
  | .request .. => .debug
  | .requestBody .. => .trace
  | .response .. => .debug
  | .responseBody .. => .trace
  | .refusal .. => .warn
  | .versionDetected .. => .debug
  | .volumeAlreadyExported .. => .debug
  | .snapshotLookupFailed .. => .debug
  | _ => .info

/-- The words for an event. -/
def message : Event → String
  | .request .. => "papi request"
  | .requestBody .. => "papi request body"
  | .response .. => "papi response"
  | .responseBody .. => "papi response body"
  | .refusal .. => "papi error"
  | .versionDetected .. => "detected platform API version"
  | .volumeCreated .. => "created volume"
  | .volumeDeleted .. => "deleted volume"
  | .volumeCopied .. => "copied volume"
  | .volumeAlreadyExported .. => "volume already exported"
  | .exportCreated .. => "created export"
  | .exportRemoved .. => "removed export"
  | .quotaSet .. => "set quota"
  | .quotaUpdated .. => "updated quota"
  | .snapshotCreated .. => "created snapshot"
  | .snapshotCopied .. => "copied snapshot"
  | .snapshotRemoved .. => "removed snapshot"
  | .snapshotLookupFailed .. => "snapshot id lookup failed, scanning by name"

/-- A limit in a log. -/
def limitText (hard : Option Int64) : String :=
  Text.optionDetail toString hard

/-- The fields of an event, by name. -/
def fields : Event → List (String × String)
  | .request method url => [("method", method), ("url", url.text)]
  | .requestBody body => [("body", body)]
  | .response method status bytes =>
    [("method", method), ("status", toString status), ("bytes", toString bytes)]
  | .responseBody body => [("body", body)]
  | .refusal r => [("status", toString r.status), ("code", r.code), ("error", r.message)]
  | .versionDetected v => [("version", v.text)]
  | .volumeCreated name => [("volume", name)]
  | .volumeDeleted name => [("volume", name)]
  | .volumeCopied source destination => [("source", source), ("destination", destination)]
  | .volumeAlreadyExported name => [("volume", name)]
  | .exportCreated path id => [("path", path), ("id", toString id)]
  | .exportRemoved id => [("id", toString id)]
  | .quotaSet path hard => [("path", path), ("hard", limitText hard)]
  | .quotaUpdated path id hard => [("path", path), ("id", id), ("hard", limitText hard)]
  | .snapshotCreated path id name => [("path", path), ("id", toString id), ("name", name)]
  | .snapshotCopied snapshot source destination =>
    [("snapshot", snapshot), ("source_volume", source), ("destination", destination)]
  | .snapshotRemoved id => [("id", toString id)]
  | .snapshotLookupFailed id name why =>
    [("id", toString id), ("name", name), ("error", why.message)]

end Event

end OneFs
