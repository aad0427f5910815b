import OneFs.Connection.Snapshots

/-!
# Clients

A `Client` speaks of volumes by name. A name stands for a path below the volumes path, and what is
attached to a volume (its export, its quota, its snapshots) is found by that path.
-/

namespace OneFs

/-- A connection whose calls name volumes. -/
structure Client where
  api : Connection
  deriving DecidableEq, Inhabited

/-- A volume with the path under which it is published and the clients that may mount it. -/
structure VolumeExport where
  volume : Volume
  path : String
  clients : List String
  deriving BEq, Inhabited

/-- What follows the last slash of a path. -/
def nameFromPath (path : String) : String :=
  String.ofList (path.toList.reverse.takeWhile (· != '/')).reverse

namespace Client

/-- The client for a configuration. -/
def ofConfig (c : Config) : Except Failure Client := do
  let api ← Connection.ofConfig c
  pure ⟨api⟩

/-- The client for a configuration, in the version that the cluster speaks if none is
configured. -/
def connect (c : Config) : Exchange Client := do
  let api ← Connection.connect c
  pure ⟨api⟩

/-- The client for the configuration of an environment. -/
def ofEnvironment (env : String → Option String) : Exchange Client := do
  let config ← Exchange.ofExcept (Config.ofEnvironment env)
  connect config

/-- The client taken apart. -/
def detail (c : Client) : String :=
  "Client \x7b api: " ++ c.api.detail ++ " \x7d"

/-- The path of a volume. -/
def path (c : Client) (name : String) : String :=
  c.api.volumesPath ++ "/" ++ name

/-! ## Volumes -/

/-- The volume of an id, or else of a name. -/
def volume (c : Client) (id name : String) : Exchange Volume :=
  c.api.volume (if id.isEmpty then name else id)

/-- All volumes. -/
def volumes (c : Client) : Exchange (List Volume) :=
  c.api.volumes

/-- Create a volume. -/
def createVolume (c : Client) (name : String) : Exchange Volume := do
  c.api.createVolume name
  pure (Volume.named name)

/-- Delete a volume. -/
def deleteVolume (c : Client) (name : String) : Exchange Unit :=
  c.api.deleteVolume name

/-- Copy a volume, and look up the copy. -/
def copyVolume (c : Client) (source destination : String) : Exchange Volume := do
  c.api.copyVolume source destination
  c.volume destination destination

/-! ## Exports -/

/-- All exports. -/
def exports (c : Client) : Exchange (List Export) :=
  c.api.exports

/-- The first export that has the given id or publishes the volume. -/
def exportOf (c : Client) (id : Option Int64) (name : String) : Exchange (Option Export) := do
  let all ← c.exports
  pure (all.find? fun e => some e.id == id || e.hasPath (c.path name))

/-- Whether the volume is published. -/
def isExported (c : Client) (name : String) : Exchange Bool := do
  let all ← c.exports
  pure (all.any fun e => e.hasPath (c.path name))

/-- Publish the volume unless it is published. -/
def publish (c : Client) (name : String) : Exchange Unit := do
  if ← c.isExported name then Exchange.note (.volumeAlreadyExported name)
  else
    let _ ← c.api.createExport (c.path name)
    pure ()

/-- The clients that may mount the volume, if it is published. -/
def exportClients (c : Client) (name : String) : Exchange (Option (List String)) := do
  let found ← c.exportOf none name
  pure (found.map Export.allowed)

/-- Replace the clients that may mount the volume, if it is published. -/
def setExportClients (c : Client) (name : String) (clients : List String) : Exchange Unit := do
  match ← c.exportOf none name with
  | some e => c.api.setExportClients e.id clients
  | none => pure ()

/-- Open the volume to every client, if it is published. -/
def clearExportClients (c : Client) (name : String) : Exchange Unit :=
  c.setExportClients name []

/-- Stop publishing the volume, if it is published. -/
def unpublish (c : Client) (name : String) : Exchange Unit := do
  match ← c.exportOf none name with
  | some e => c.api.removeExport e.id
  | none => pure ()

/-- Publish the volume, by another name for it. -/
def publishVolume (c : Client) (name : String) : Exchange Unit :=
  c.publish name

/-- Stop publishing the volume, by another name for it. -/
def unpublishVolume (c : Client) (name : String) : Exchange Unit :=
  c.unpublish name

/-- The clients of a path by the last of the exports that publish it. -/
def clientsOfPath (exports : List Export) (path : String) : Option (List String) :=
  (exports.reverse.find? (·.hasPath path)).map Export.allowed

/-- A volume with the clients of its path, if some export publishes it. -/
def published (c : Client) (exports : List Export) (v : Volume) : Option VolumeExport :=
  (clientsOfPath exports (c.path v.name)).map fun clients => ⟨v, c.path v.name, clients⟩

/-- The volumes that are published, with their clients. -/
def volumeExports (c : Client) : Exchange (List VolumeExport) := do
  let exports ← c.exports
  let volumes ← c.volumes
  pure (volumes.filterMap (c.published exports))

/-! ## Quotas -/

/-- The quota on the volume. -/
def quota (c : Client) (name : String) : Exchange Quota :=
  c.api.quota (c.path name)

/-- Put a hard limit on the volume. -/
def setQuotaSize (c : Client) (name : String) (size : Int64) : Exchange Unit :=
  c.api.setQuotaHard (c.path name) size

/-- Put a quota on the volume. -/
def setQuota (c : Client) (name : String) (t : QuotaThresholds) : Exchange Unit :=
  c.api.setQuota (c.path name) t

/-- Change the hard limit on the volume. -/
def updateQuotaSize (c : Client) (name : String) (size : Int64) : Exchange Unit :=
  c.api.updateQuotaHard (c.path name) size

/-- Change the quota on the volume. -/
def updateQuota (c : Client) (name : String) (t : QuotaThresholds) : Exchange Unit :=
  c.api.updateQuota (c.path name) t

/-- Remove the quota on the volume. -/
def clearQuota (c : Client) (name : String) : Exchange Unit :=
  c.api.deleteQuota (c.path name)

/-! ## Snapshots -/

/-- All snapshots. -/
def snapshots (c : Client) : Exchange (List Snapshot) :=
  c.api.snapshots

/-- The snapshots of the volume. -/
def snapshotsOf (c : Client) (name : String) : Exchange (List Snapshot) := do
  let all ← c.snapshots
  pure (all.filter fun s => s.path == c.path name)

/-- The snapshot of an id. If there is none, whatever the reason, a name that is given is looked
for among all snapshots. -/
def snapshot (c : Client) (id : Int64) (name : String) : Exchange (Option Snapshot) := do
  match ← (c.api.snapshot id).attempt with
  | .ok s => pure (some s)
  | .error why =>
    if name.isEmpty then Exchange.fail why
    else
      Exchange.note (.snapshotLookupFailed id name why)
      let all ← c.snapshots
      pure (all.find? fun s => s.name == name)

/-- Take a snapshot of the volume. -/
def createSnapshot (c : Client) (volume name : String) : Exchange Snapshot :=
  c.api.createSnapshot (c.path volume) (some name)

/-- The snapshot of an id or a name, which must be there. -/
def requireSnapshot (c : Client) (id : Int64) (name : String) : Exchange Snapshot := do
  let found ← c.snapshot id name
  Exchange.ofOption
    (.notFound ("Snapshot doesn't exist: (" ++ toString id ++ ", " ++ name ++ ")")) found

/-- Remove a snapshot. -/
def removeSnapshot (c : Client) (id : Int64) (name : String) : Exchange Unit := do
  let s ← c.requireSnapshot id name
  c.api.removeSnapshot s.id

/-- Restore a snapshot into a new volume, and look that volume up. -/
def copySnapshot (c : Client) (id : Int64) (name destination : String) : Exchange Volume := do
  let s ← c.requireSnapshot id name
  c.api.copySnapshot s.name (nameFromPath s.path) destination
  c.volume destination destination

end Client

end OneFs
