import OneFs.Connection.Quotas
import OneFs.Connection.Volumes
import OneFs.Snapshot

/-!
# Snapshots of a cluster

Listing, looking up, taking, restoring and removing snapshots.
-/

namespace OneFs.Connection

open Json

/-- A snapshot must have an id. -/
def requireSnapshotId (id : Int64) : Exchange Unit :=
  require (id != 0) "no snapshot id set"

/-- All snapshots. -/
def snapshots (c : Connection) : Exchange (List Snapshot) := do
  let reply ← c.query { method := "GET", path := c.version.snapshotsPath } SnapshotList.reader
  pure ((reply.map SnapshotList.snapshots).getD [])

/-- The snapshot of an id. -/
def snapshot (c : Connection) (id : Int64) : Exchange Snapshot := do
  requireSnapshotId id
  let reply ← c.query
    { method := "GET", path := c.version.snapshotsPath, id := some (toString id) }
    SnapshotList.reader
  Exchange.ofOption (.notFound ("Snapshot not found: " ++ toString id))
    (reply.bind fun l => l.snapshots.head?)

/-- Take a snapshot of a path, under a name if one is given. -/
def createSnapshot (c : Connection) (path : String) (name : Option String) :
    Exchange Snapshot := do
  requirePath path
  let reply ← c.query
    { method := "POST", path := c.version.snapshotsPath,
      body := some (Snapshot.creation path name) }
    Snapshot.reader
  let s ← Exchange.ofOption .invalidResponse reply
  Exchange.note (.snapshotCreated path s.id s.name)
  pure s

/-- Copy what a snapshot holds of the volume `source` into a new volume. -/
def copySnapshot (c : Connection) (snapshot source destination : String) : Exchange Unit := do
  require (!snapshot.isEmpty && !source.isEmpty && !destination.isEmpty)
    "snapshot, source and destination names are required"
  c.execute {
    method := "PUT", path := c.namespacePath, id := some destination
    headers := [(copySource, "/" ++ c.snapshotPath snapshot ++ "/" ++ source ++ "/")] }
  Exchange.note (.snapshotCopied snapshot source destination)

/-- Remove a snapshot. -/
def removeSnapshot (c : Connection) (id : Int64) : Exchange Unit := do
  requireSnapshotId id
  c.execute { method := "DELETE", path := c.version.snapshotsPath, id := some (toString id) }
  Exchange.note (.snapshotRemoved id)

end OneFs.Connection
