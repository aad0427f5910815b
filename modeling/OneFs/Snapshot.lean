import OneFs.Quota

/-!
# Snapshots

A snapshot is a read-only copy of a path at one point in time.

- `Snapshot`, `SnapshotList`: the records, with `reader` and `encode`;
- `Snapshot.creation`: the body that asks for one.
-/

namespace OneFs

open Json

/-- A read-only copy of a path. Times are seconds since 1970; one that does not expire has no
`expires`. -/
structure Snapshot where
  id : Int64
  name : String
  path : String
  created : Int64
  expires : Option Int64
  state : String
  size : Int64
  hasLocks : Bool
  pctFilesystem : Float
  pctReserve : Float
  schedule : Option String
  shadowBytes : Int64
  targetId : Option Int64
  targetName : Option String
  extra : List (String × Value)
  deriving BEq, Inhabited

namespace Snapshot

/-- A snapshot that says nothing. -/
def blank : Snapshot :=
  ⟨0, "", "", 0, none, "", 0, false, 0.0, 0.0, none, 0, none, none, []⟩

/-- Whether the snapshot can be used. -/
def isActive (s : Snapshot) : Bool :=
  s.state == "active"

/-- A snapshot in a text. -/
def reader : Reader Snapshot :=
  record "struct Snapshot" .kept <|
    Snapshot.mk
      <$> fieldD "id" int64 0
      <*> fieldD "name" string ""
      <*> fieldD "path" string ""
      <*> fieldD "created" int64 0
      <*> field? "expires" int64
      <*> fieldD "state" string ""
      <*> fieldD "size" int64 0
      <*> fieldD "has_locks" boolean false
      <*> fieldD "pct_filesystem" double 0.0
      <*> fieldD "pct_reserve" double 0.0
      <*> field? "schedule" string
      <*> fieldD "shadow_bytes" int64 0
      <*> field? "target_id" int64
      <*> field? "target_name" string
      <*> otherMembers

/-- A snapshot as a value. -/
def encode (s : Snapshot) : Value :=
  .object ([
    ("id", .ofInt64 s.id),
    ("name", .str s.name),
    ("path", .str s.path),
    ("created", .ofInt64 s.created),
    ("expires", .orNull .ofInt64 s.expires),
    ("state", .str s.state),
    ("size", .ofInt64 s.size),
    ("has_locks", .bool s.hasLocks),
    ("pct_filesystem", .num (.float s.pctFilesystem)),
    ("pct_reserve", .num (.float s.pctReserve)),
    ("schedule", .orNull .str s.schedule),
    ("shadow_bytes", .ofInt64 s.shadowBytes),
    ("target_id", .orNull .ofInt64 s.targetId),
    ("target_name", .orNull .str s.targetName)] ++ s.extra)

/-- The body that asks for a snapshot of a path, with a name unless it is empty. -/
def creation (path : String) (name : Option String) : Value :=
  .obj (("path", .str path) :: optionalMember "name" .str (name.filter (· != "")))

end Snapshot

/-- A listing of snapshots, also the reply to a look-up of one. -/
structure SnapshotList where
  snapshots : List Snapshot
  total : Int64
  resume : Option String
  deriving BEq, Inhabited

namespace SnapshotList

/-- A listing in a text. -/
def reader : Reader SnapshotList :=
  record "struct SnapshotList" .dropped <|
    SnapshotList.mk
      <$> fieldD "snapshots" (list Snapshot.reader) []
      <*> fieldD "total" int64 0
      <*> field? "resume" string

/-- A listing as a value. -/
def encode (l : SnapshotList) : Value :=
  .object [
    ("snapshots", .arr (l.snapshots.map Snapshot.encode)),
    ("total", .ofInt64 l.total),
    ("resume", .orNull .str l.resume)]

end SnapshotList

end OneFs
