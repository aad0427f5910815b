import OneFs.Client

/-!
# Calls as values

Every call of a connection and of a client as a value, so that statements about all calls can be
made, and every result as a JSON value.

- `ConnectionCall.run`, `ClientCall.run`, `Call.run`: what a call does.
-/

namespace OneFs

open Json

/-- A call of a connection. -/
inductive ConnectionCall where
  | detectVersion
  | query (ask : Ask)
  | volumes
  | createVolume (name : String)
  | volume (name : String)
  | deleteVolume (name : String)
  | copyVolume (source destination : String)
  | exports
  | exportById (id : Int64)
  | createExport (path : String)
  | setExportClients (id : Int64) (clients : List String)
  | removeExport (id : Int64)
  | quotas
  | quota (path : String)
  | setQuota (path : String) (t : QuotaThresholds)
  | setQuotaHard (path : String) (size : Int64)
  | updateQuota (path : String) (t : QuotaThresholds)
  | updateQuotaHard (path : String) (size : Int64)
  | deleteQuota (path : String)
  | snapshots
  | snapshot (id : Int64)
  | createSnapshot (path : String) (name : Option String)
  | copySnapshot (snapshot source destination : String)
  | removeSnapshot (id : Int64)

/-- A call of a client. -/
inductive ClientCall where
  | volume (id name : String)
  | volumes
  | createVolume (name : String)
  | deleteVolume (name : String)
  | copyVolume (source destination : String)
  | exports
  | exportOf (id : Option Int64) (name : String)
  | isExported (name : String)
  | publish (name : String)
  | publishVolume (name : String)
  | exportClients (name : String)
  | setExportClients (name : String) (clients : List String)
  | clearExportClients (name : String)
  | unpublish (name : String)
  | unpublishVolume (name : String)
  | volumeExports
  | quota (name : String)
  | setQuota (name : String) (t : QuotaThresholds)
  | setQuotaSize (name : String) (size : Int64)
  | updateQuota (name : String) (t : QuotaThresholds)
  | updateQuotaSize (name : String) (size : Int64)
  | clearQuota (name : String)
  | snapshots
  | snapshotsOf (name : String)
  | snapshot (id : Int64) (name : String)
  | createSnapshot (volume name : String)
  | copySnapshot (id : Int64) (name destination : String)
  | removeSnapshot (id : Int64) (name : String)

/-- A call. -/
inductive Call where
  | ofConnection (call : ConnectionCall)
  | ofClient (call : ClientCall)

/-- A published volume as a value. -/
def VolumeExport.encode (e : VolumeExport) : Value :=
  .object [("volume", e.volume.encode), ("export_path", .str e.path),
    ("clients", .ofTexts e.clients)]

/-- What a call of a connection does, with its result as a value. -/
def ConnectionCall.run (c : Connection) : ConnectionCall → Exchange Value
  | .detectVersion => (fun v => Value.int v.number) <$> c.detectVersion
  | .query ask => (Value.orNull fun v => .obj [("value", v)]) <$> c.query ask anything
  | .volumes => Value.ofList Volume.encode <$> c.volumes
  | .createVolume name => Value.ofUnit <$> c.createVolume name
  | .volume name => Volume.encode <$> c.volume name
  | .deleteVolume name => Value.ofUnit <$> c.deleteVolume name
  | .copyVolume source destination => Value.ofUnit <$> c.copyVolume source destination
  | .exports => Value.ofList Export.encode <$> c.exports
  | .exportById id => Export.encode <$> c.exportById id
  | .createExport path => Value.ofInt64 <$> c.createExport path
  | .setExportClients id clients => Value.ofUnit <$> c.setExportClients id clients
  | .removeExport id => Value.ofUnit <$> c.removeExport id
  | .quotas => Value.ofList Quota.encode <$> c.quotas
  | .quota path => Quota.encode <$> c.quota path
  | .setQuota path t => Value.ofUnit <$> c.setQuota path t
  | .setQuotaHard path size => Value.ofUnit <$> c.setQuotaHard path size
  | .updateQuota path t => Value.ofUnit <$> c.updateQuota path t
  | .updateQuotaHard path size => Value.ofUnit <$> c.updateQuotaHard path size
  | .deleteQuota path => Value.ofUnit <$> c.deleteQuota path
  | .snapshots => Value.ofList Snapshot.encode <$> c.snapshots
  | .snapshot id => Snapshot.encode <$> c.snapshot id
  | .createSnapshot path name => Snapshot.encode <$> c.createSnapshot path name
  | .copySnapshot name source destination =>
    Value.ofUnit <$> c.copySnapshot name source destination
  | .removeSnapshot id => Value.ofUnit <$> c.removeSnapshot id

/-- What a call of a client does, with its result as a value. -/
def ClientCall.run (c : Client) : ClientCall → Exchange Value
  | .volume id name => Volume.encode <$> c.volume id name
  | .volumes => Value.ofList Volume.encode <$> c.volumes
  | .createVolume name => Volume.encode <$> c.createVolume name
  | .deleteVolume name => Value.ofUnit <$> c.deleteVolume name
  | .copyVolume source destination => Volume.encode <$> c.copyVolume source destination
  | .exports => Value.ofList Export.encode <$> c.exports
  | .exportOf id name => Value.orNull Export.encode <$> c.exportOf id name
  | .isExported name => Value.bool <$> c.isExported name
  | .publish name => Value.ofUnit <$> c.publish name
  | .publishVolume name => Value.ofUnit <$> c.publishVolume name
  | .exportClients name => Value.orNull Value.ofTexts <$> c.exportClients name
  | .setExportClients name clients => Value.ofUnit <$> c.setExportClients name clients
  | .clearExportClients name => Value.ofUnit <$> c.clearExportClients name
  | .unpublish name => Value.ofUnit <$> c.unpublish name
  | .unpublishVolume name => Value.ofUnit <$> c.unpublishVolume name
  | .volumeExports => Value.ofList VolumeExport.encode <$> c.volumeExports
  | .quota name => Quota.encode <$> c.quota name
  | .setQuota name t => Value.ofUnit <$> c.setQuota name t
  | .setQuotaSize name size => Value.ofUnit <$> c.setQuotaSize name size
  | .updateQuota name t => Value.ofUnit <$> c.updateQuota name t
  | .updateQuotaSize name size => Value.ofUnit <$> c.updateQuotaSize name size
  | .clearQuota name => Value.ofUnit <$> c.clearQuota name
  | .snapshots => Value.ofList Snapshot.encode <$> c.snapshots
  | .snapshotsOf name => Value.ofList Snapshot.encode <$> c.snapshotsOf name
  | .snapshot id name => Value.orNull Snapshot.encode <$> c.snapshot id name
  | .createSnapshot v name => Snapshot.encode <$> c.createSnapshot v name
  | .copySnapshot id name destination => Volume.encode <$> c.copySnapshot id name destination
  | .removeSnapshot id name => Value.ofUnit <$> c.removeSnapshot id name

/-- What a call does. -/
def Call.run (c : Client) : Call → Exchange Value
  | .ofConnection call => call.run c.api
  | .ofClient call => call.run c

end OneFs
