import OneFs.Export

/-!
# Quotas

A quota limits what a path may take, at three levels: advisory, soft and hard.

- `Quota`, `Thresholds`, `QuotaUsage`: what a cluster reports, with `reader` and `encode`;
- `QuotaThresholds`: the three levels as they are sent;
- `Quota.creation`, `Quota.change`: request bodies.
-/

namespace OneFs

open Json

/-- What a quota is scoped to. -/
inductive QuotaType where
  | directory
  | user
  | group
  | defaultUser
  | defaultGroup
  | other
  deriving DecidableEq, Inhabited

namespace QuotaType

/-- The name of a scope. -/
def name : QuotaType → String
  | .directory => "directory"
  | .user => "user"
  | .group => "group"
  | .defaultUser => "default-user"
  | .defaultGroup => "default-group"
  | .other => "other"

/-- The scope of a name; unknown names are other scopes. -/
def ofName (s : String) : QuotaType :=
  if s = "directory" then .directory
  else if s = "user" then .user
  else if s = "group" then .group
  else if s = "default-user" then .defaultUser
  else if s = "default-group" then .defaultGroup
  else .other

/-- A scope in a text. -/
def reader : Reader QuotaType :=
  unitVariant ofName

/-- A scope as a value. -/
def encode (t : QuotaType) : Value :=
  .str t.name

end QuotaType

/-- The levels of a quota and whether they are exceeded, as the cluster reports them. -/
structure Thresholds where
  advisory : Option Int64
  advisoryExceeded : Bool
  advisoryLastExceeded : Option Value
  soft : Option Int64
  softExceeded : Bool
  softLastExceeded : Option Value
  hard : Option Int64
  hardExceeded : Bool
  hardLastExceeded : Option Value
  extra : List (String × Value)
  deriving BEq, Inhabited

namespace Thresholds

/-- No level, nothing exceeded. -/
def blank : Thresholds :=
  ⟨none, false, none, none, false, none, none, false, none, []⟩

/-- Levels in a text. -/
def reader : Reader Thresholds :=
  record "struct Thresholds" .kept <|
    Thresholds.mk
      <$> field? "advisory" int64
      <*> fieldD "advisory_exceeded" boolean false
      <*> field? "advisory_last_exceeded" anything
      <*> field? "soft" int64
      <*> fieldD "soft_exceeded" boolean false
      <*> field? "soft_last_exceeded" anything
      <*> field? "hard" int64
      <*> fieldD "hard_exceeded" boolean false
      <*> field? "hard_last_exceeded" anything
      <*> otherMembers

/-- Levels as a value. -/
def encode (t : Thresholds) : Value :=
  .object ([
    ("advisory", .orNull .ofInt64 t.advisory),
    ("advisory_exceeded", .bool t.advisoryExceeded),
    ("advisory_last_exceeded", .orNull (fun v => v) t.advisoryLastExceeded),
    ("soft", .orNull .ofInt64 t.soft),
    ("soft_exceeded", .bool t.softExceeded),
    ("soft_last_exceeded", .orNull (fun v => v) t.softLastExceeded),
    ("hard", .orNull .ofInt64 t.hard),
    ("hard_exceeded", .bool t.hardExceeded),
    ("hard_last_exceeded", .orNull (fun v => v) t.hardLastExceeded)] ++ t.extra)

end Thresholds

/-- What is counted against a quota. -/
structure QuotaUsage where
  inodes : Int64
  logical : Int64
  physical : Int64
  deriving DecidableEq, Inhabited

namespace QuotaUsage

/-- Usage in a text. -/
def reader : Reader QuotaUsage :=
  record "struct QuotaUsage" .dropped <|
    QuotaUsage.mk
      <$> fieldD "inodes" int64 0
      <*> fieldD "logical" int64 0
      <*> fieldD "physical" int64 0

/-- Usage as a value. -/
def encode (u : QuotaUsage) : Value :=
  .object [("inodes", .ofInt64 u.inodes), ("logical", .ofInt64 u.logical),
    ("physical", .ofInt64 u.physical)]

end QuotaUsage

/-- The three levels as they are sent; a level that is not set goes out as `null`. -/
structure QuotaThresholds where
  advisory : Option Int64
  hard : Option Int64
  soft : Option Int64
  deriving DecidableEq, Inhabited

namespace QuotaThresholds

/-- No level. -/
def blank : QuotaThresholds :=
  ⟨none, none, none⟩

/-- Only a hard limit. -/
def ofHard (size : Int64) : QuotaThresholds :=
  { blank with hard := some size }

/-- The three levels in a text. -/
def reader : Reader QuotaThresholds :=
  record "struct QuotaThresholds" .dropped <|
    QuotaThresholds.mk
      <$> nullableField "advisory" int64
      <*> nullableField "hard" int64
      <*> nullableField "soft" int64

/-- The three levels as a value. -/
def encode (t : QuotaThresholds) : Value :=
  .object [("advisory", .orNull .ofInt64 t.advisory),
    ("hard", .orNull .ofInt64 t.hard), ("soft", .orNull .ofInt64 t.soft)]

end QuotaThresholds

/-- A quota on a path. -/
structure Quota where
  id : String
  path : String
  type : QuotaType
  enforced : Bool
  container : Bool
  includeSnapshots : Bool
  thresholds : Thresholds
  thresholdsIncludeOverhead : Bool
  usage : QuotaUsage
  ready : Bool
  notifications : Option String
  linked : Option Value
  persona : Option Value
  extra : List (String × Value)
  deriving BEq, Inhabited

namespace Quota

/-- A quota that says nothing. -/
def blank : Quota :=
  ⟨"", "", .directory, false, false, false, .blank, false, ⟨0, 0, 0⟩, false, none, none, none, []⟩

/-- The hard limit in bytes, if there is one. -/
def hardLimit (q : Quota) : Option Int64 :=
  q.thresholds.hard

/-- Whether the quota limits a directory as such. -/
def isDirectory (q : Quota) : Bool :=
  q.type = .directory

/-- A quota in a text. -/
def reader : Reader Quota :=
  record "struct Quota" .kept <|
    Quota.mk
      <$> fieldD "id" string ""
      <*> fieldD "path" string ""
      <*> fieldD "type" QuotaType.reader .directory
      <*> fieldD "enforced" boolean false
      <*> fieldD "container" boolean false
      <*> fieldD "include_snapshots" boolean false
      <*> fieldD "thresholds" Thresholds.reader .blank
      <*> fieldD "thresholds_include_overhead" boolean false
      <*> fieldD "usage" QuotaUsage.reader ⟨0, 0, 0⟩
      <*> fieldD "ready" boolean false
      <*> field? "notifications" string
      <*> field? "linked" anything
      <*> field? "persona" anything
      <*> otherMembers

/-- A quota as a value. -/
def encode (q : Quota) : Value :=
  .object ([
    ("id", .str q.id),
    ("path", .str q.path),
    ("type", q.type.encode),
    ("enforced", .bool q.enforced),
    ("container", .bool q.container),
    ("include_snapshots", .bool q.includeSnapshots),
    ("thresholds", q.thresholds.encode),
    ("thresholds_include_overhead", .bool q.thresholdsIncludeOverhead),
    ("usage", q.usage.encode),
    ("ready", .bool q.ready)] ++
    optionalMember "notifications" .str q.notifications ++
    optionalMember "linked" (fun v => v) q.linked ++
    optionalMember "persona" (fun v => v) q.persona ++
    q.extra)

/-- The quotas of a listing. -/
def listing : Reader (List Quota) :=
  record "struct QuotaList" .dropped (fieldD "quotas" (list reader) [])

/-- The body that creates an enforced directory quota; snapshots and overhead do not count. -/
def creation (path : String) (t : QuotaThresholds) : Value :=
  .obj [
    ("enforced", .bool true),
    ("include_snapshots", .bool false),
    ("path", .str path),
    ("thresholds", t.encode),
    ("thresholds_include_overhead", .bool false),
    ("type", QuotaType.directory.encode)]

/-- The body that changes the levels of a quota. -/
def change (t : QuotaThresholds) : Value :=
  .obj [
    ("enforced", .bool true),
    ("thresholds", t.encode),
    ("thresholds_include_overhead", .bool false)]

end Quota

end OneFs
