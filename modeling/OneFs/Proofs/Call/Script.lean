import OneFs.Proofs.Call.Queries
import OneFs.Proofs.Exchange.Script

/-!
# What calls ask for

The script of every call, and that the call goes by it.

- `Script.exports`, `Script.snapshot` and others: what the parts of calls ask for, up to what comes
  next;
- `ConnectionCall.script`, `ClientCall.script`: what a call asks for; `ClientCall.scriptAfter`: what
  a call asks for once it has looked up a snapshot under an id and a name;
- `ConnectionCall.follows`, `ClientCall.follows`, `ClientCall.follows_lookup`: every call goes by
  its script.
-/

namespace OneFs

open Json Http Exchange

variable {α β σ : Type}

/-! ## Parts of calls -/

namespace Script

/-- Asking for the latest version that a cluster speaks. -/
def detectVersion : Script :=
  .once { method := "GET", path := latestPath } Connection.latest

/-- Connecting asks for the version of the cluster if none is configured. -/
def connect : Option Version → Script
  | some _ => .over
  | none => .detectVersion

variable (c : Connection)

/-- Asking for all exports. -/
def exports (next : List Export → Script) : Script :=
  .asked { method := "GET", path := c.version.exportsPath } ExportList.reader fun reply =>
    next ((reply.map ExportList.exports).getD [])

/-- Asking for all quotas. -/
def quotas (next : List Quota → Script) : Script :=
  .asked { method := "GET", path := c.version.quotasPath } Quota.listing fun reply =>
    next (reply.getD [])

/-- Asking for all snapshots. -/
def snapshots (next : List Snapshot → Script) : Script :=
  .asked { method := "GET", path := c.version.snapshotsPath } SnapshotList.reader fun reply =>
    next ((reply.map SnapshotList.snapshots).getD [])

/-- Asking for the volumes. -/
def volumes : Script :=
  .once { method := "GET", path := c.namespacePath } Volume.children

/-- Asking for the metadata of a volume. -/
def volume (name : String) : Script :=
  .given (!name.isEmpty) <| .once
    { method := "GET", path := c.namespacePath, id := some name, params := [("metadata", "")] }
    Volume.metadata

/-- Creating a volume takes two requests: one for the directory, and one for who owns it. -/
def createVolume (name : String) : Script :=
  .given (!name.isEmpty) <|
    .executed {
      method := "PUT", path := c.namespacePath, id := some name
      headers := [("x-isi-ifs-target-type", "container"),
        ("x-isi-ifs-access-control", "public_read_write")] } <|
    .executed {
      method := "PUT", path := c.namespacePath, id := some name, params := [("acl", "")]
      body := some (AclRequest.ownership c.username c.group).body } .over

/-- Copying a volume. -/
def copyVolume (source destination : String) (next : Script) : Script :=
  .given (!source.isEmpty) <| .given (!destination.isEmpty) <|
    .executed {
      method := "PUT", path := c.namespacePath, id := some destination
      headers := [("x-isi-ifs-copy-source", "/" ++ c.namespacePath ++ "/" ++ source)] } next

/-- Publishing a path. -/
def createExport (path : String) : Script :=
  .given (!path.isEmpty) <| .once
    { method := "POST", path := c.version.exportsPath, body := some (c.exportBody path) }
    Export.createdId

/-- Replacing the clients of an export. -/
def setExportClients (id : Int64) (clients : List String) : Script :=
  .given (id != 0) <| .executed {
    method := "PUT", path := c.version.exportsPath, id := some (toString id)
    body := some (Export.restriction clients) } .over

/-- Removing an export. -/
def removeExport (id : Int64) : Script :=
  .given (id != 0) <|
    .executed { method := "DELETE", path := c.version.exportsPath, id := some (toString id) } .over

/-- Publishing a path unless an export publishes it. -/
def publish (path : String) : Script :=
  .exports c fun all => if all.any fun e => e.hasPath path then .over else .createExport c path

/-- Replacing the clients of the first export that publishes a path, if there is one. -/
def restrict (path : String) (clients : List String) : Script :=
  .exports c fun all => (all.find? fun e => e.hasPath path).elim .over fun e =>
    .setExportClients c e.id clients

/-- Removing the first export that publishes a path, if there is one. -/
def unpublish (path : String) : Script :=
  .exports c fun all => (all.find? fun e => e.hasPath path).elim .over fun e =>
    .removeExport c e.id

/-- Putting a quota on a path. -/
def setQuota (path : String) (t : QuotaThresholds) : Script :=
  .given (!path.isEmpty) <| .executed {
    method := "POST", path := c.version.quotasPath, body := some (Quota.creation path t) } .over

/-- Changing the first quota on a path, if there is one. -/
def updateQuota (path : String) (t : QuotaThresholds) : Script :=
  .quotas c fun all => (all.find? fun q => q.path == path).elim .over fun q => .executed {
    method := "PUT", path := c.version.quotasPath, id := some q.id
    body := some (Quota.change t) } .over

/-- Removing the quota on a path. -/
def deleteQuota (path : String) : Script :=
  .given (!path.isEmpty) <|
    .executed { method := "DELETE", path := c.version.quotasPath, params := [("path", path)] } .over

/-- Asking for the snapshot of an id, and going on with it if there is one. -/
def snapshot (id : Int64) (next : Snapshot → Script) : Script :=
  .given (id != 0) <| .asked
    { method := "GET", path := c.version.snapshotsPath, id := some (toString id) }
    SnapshotList.reader fun reply => (reply.bind fun l => l.snapshots.head?).elim .over next

/-- Taking a snapshot of a path. -/
def createSnapshot (path : String) (name : Option String) : Script :=
  .given (!path.isEmpty) <| .once
    { method := "POST", path := c.version.snapshotsPath,
      body := some (Snapshot.creation path name) }
    Snapshot.reader

/-- Copying what a snapshot holds of a volume. -/
def copySnapshot (snapshot source destination : String) (next : Script) : Script :=
  .given (!snapshot.isEmpty && !source.isEmpty && !destination.isEmpty) <|
    .executed {
      method := "PUT", path := c.namespacePath, id := some destination
      headers := [("x-isi-ifs-copy-source",
        "/" ++ c.snapshotPath snapshot ++ "/" ++ source ++ "/")] } next

/-- Removing a snapshot. -/
def removeSnapshot (id : Int64) : Script :=
  .given (id != 0) <| .executed
    { method := "DELETE", path := c.version.snapshotsPath, id := some (toString id) } .over

/-- Restoring a snapshot and looking up the new volume. -/
def restore (destination : String) (s : Snapshot) : Script :=
  .copySnapshot c s.name (nameFromPath s.path) destination (.volume c destination)

/-- Going on with a snapshot that was looked up by its id, or else with the first of a name in a
listing of all. -/
def orNamed (name : String) (next : Snapshot → Script) : Except Failure Snapshot → Script
  | .ok s => next s
  | .error _ => .snapshots c fun all => (all.find? fun s => s.name == name).elim .over next

end Script

/-! ## Calls -/

/-- What a call of a connection asks for. -/
def ConnectionCall.script (c : Connection) : ConnectionCall → Script
  | .detectVersion => .detectVersion
  | .query ask => .once ask anything
  | .volumes => .volumes c
  | .createVolume name => .createVolume c name
  | .volume name => .volume c name
  | .deleteVolume name =>
    .given (!name.isEmpty) <| .executed {
      method := "DELETE", path := c.namespacePath, id := some name
      params := [("recursive", "true")] } .over
  | .copyVolume source destination => .copyVolume c source destination .over
  | .exports => .exports c fun _ => .over
  | .exportById id =>
    .given (id != 0) <| .once
      { method := "GET", path := c.version.exportsPath, id := some (toString id) }
      ExportList.reader
  | .createExport path => .createExport c path
  | .setExportClients id clients => .setExportClients c id clients
  | .removeExport id => .removeExport c id
  | .quotas => .quotas c fun _ => .over
  | .quota _ => .quotas c fun _ => .over
  | .setQuota path t => .setQuota c path t
  | .setQuotaHard path size => .setQuota c path (.ofHard size)
  | .updateQuota path t => .updateQuota c path t
  | .updateQuotaHard path size => .updateQuota c path (.ofHard size)
  | .deleteQuota path => .deleteQuota c path
  | .snapshots => .snapshots c fun _ => .over
  | .snapshot id => .snapshot c id fun _ => .over
  | .createSnapshot path name => .createSnapshot c path name
  | .copySnapshot name source destination => .copySnapshot c name source destination .over
  | .removeSnapshot id => .removeSnapshot c id

/-- What a call of a client asks for. Looking up a snapshot, it asks for that of the id only, as it
does without a name. -/
def ClientCall.script (c : Connection) : ClientCall → Script
  | .volume id name => .volume c (if id.isEmpty then name else id)
  | .volumes => .volumes c
  | .createVolume name => .createVolume c name
  | .deleteVolume name => (ConnectionCall.deleteVolume name).script c
  | .copyVolume source destination =>
    .copyVolume c source destination (.volume c destination)
  | .exports => .exports c fun _ => .over
  | .exportOf _ _ => .exports c fun _ => .over
  | .isExported _ => .exports c fun _ => .over
  | .publish name => .publish c (Client.path ⟨c⟩ name)
  | .publishVolume name => .publish c (Client.path ⟨c⟩ name)
  | .exportClients _ => .exports c fun _ => .over
  | .setExportClients name clients => .restrict c (Client.path ⟨c⟩ name) clients
  | .clearExportClients name => .restrict c (Client.path ⟨c⟩ name) []
  | .unpublish name => .unpublish c (Client.path ⟨c⟩ name)
  | .unpublishVolume name => .unpublish c (Client.path ⟨c⟩ name)
  | .volumeExports => .exports c fun _ => .volumes c
  | .quota _ => .quotas c fun _ => .over
  | .setQuota name t => .setQuota c (Client.path ⟨c⟩ name) t
  | .setQuotaSize name size => .setQuota c (Client.path ⟨c⟩ name) (.ofHard size)
  | .updateQuota name t => .updateQuota c (Client.path ⟨c⟩ name) t
  | .updateQuotaSize name size => .updateQuota c (Client.path ⟨c⟩ name) (.ofHard size)
  | .clearQuota name => .deleteQuota c (Client.path ⟨c⟩ name)
  | .snapshots => .snapshots c fun _ => .over
  | .snapshotsOf _ => .snapshots c fun _ => .over
  | .snapshot id _ => .snapshot c id fun _ => .over
  | .createSnapshot v name => .createSnapshot c (Client.path ⟨c⟩ v) (some name)
  | .copySnapshot id _ destination => .snapshot c id (.restore c destination)
  | .removeSnapshot id _ => .snapshot c id fun s => .removeSnapshot c s.id

/-- What a call asks for once it has looked up a snapshot by its id. Without one, it looks for the
name that it has been given. -/
def ClientCall.scriptAfter (c : Connection) (found : Except Failure Snapshot) :
    ClientCall → Script
  | .snapshot _ name => .orNamed c name (fun _ => .over) found
  | .copySnapshot _ name destination => .orNamed c name (.restore c destination) found
  | .removeSnapshot _ name => .orNamed c name (fun s => .removeSnapshot c s.id) found
  | _ => .over

/-- What a call asks for. -/
def Call.script (c : Connection) : Call → Script
  | .ofConnection call => call.script c
  | .ofClient call => call.script c

/-- What a call asks for once it has looked up a snapshot by its id. -/
def Call.scriptAfter (c : Connection) (found : Except Failure Snapshot) : Call → Script
  | .ofConnection _ => .over
  | .ofClient call => call.scriptAfter c found

/-! ## Calls go by their scripts -/

namespace Follows

variable {c : Connection}

theorem detectVersion : Follows c c.detectVersion .detectVersion := by
  refine .asked _ _ fun reply => ?_
  cases reply with
  | none => exact .failed _
  | some latest => exact .of_bind (.ofExcept _ fun v => .done v)

theorem exports {k : List Export → Exchange α} {next : List Export → Script}
    (h : ∀ all, Follows c (k all) (next all)) : Follows c (c.exports >>= k) (.exports c next) := by
  unfold Connection.exports
  rw [LawfulMonad.bind_assoc]
  exact .asked _ _ fun _ => h _

theorem quotas {k : List Quota → Exchange α} {next : List Quota → Script}
    (h : ∀ all, Follows c (k all) (next all)) : Follows c (c.quotas >>= k) (.quotas c next) := by
  unfold Connection.quotas
  rw [LawfulMonad.bind_assoc]
  exact .asked _ _ fun _ => h _

theorem snapshots {k : List Snapshot → Exchange α} {next : List Snapshot → Script}
    (h : ∀ all, Follows c (k all) (next all)) :
    Follows c (c.snapshots >>= k) (.snapshots c next) := by
  unfold Connection.snapshots
  rw [LawfulMonad.bind_assoc]
  exact .asked _ _ fun _ => h _

theorem volumes : Follows c c.volumes (.volumes c) :=
  .asked _ _ fun _ => .done _

theorem volume (name : String) : Follows c (c.volume name) (.volume c name) :=
  .require _ _ (.asked _ _ fun _ => .done _)

theorem createVolume (name : String) : Follows c (c.createVolume name) (.createVolume c name) :=
  .require _ _ (.execute _ (.execute _ (.noted _ (.done ()))))

theorem copyVolume (source destination : String) {k : Unit → Exchange α} {next : Script}
    (h : Follows c (k ()) next) :
    Follows c (c.copyVolume source destination >>= k) (.copyVolume c source destination next) := by
  unfold Connection.copyVolume
  simp only [LawfulMonad.bind_assoc]
  exact .require _ _ (.require _ _ (.execute _ (.note _ h)))

theorem createExport (path : String) : Follows c (c.createExport path) (.createExport c path) := by
  refine .require _ _ (.asked _ _ fun reply => ?_)
  cases reply with
  | none => exact .failed _
  | some id => exact .noted _ (.done id)

theorem setExportClients (id : Int64) (clients : List String) :
    Follows c (c.setExportClients id clients) (.setExportClients c id clients) :=
  .require _ _ (.of_bind (.execute _ (.done ())))

theorem removeExport (id : Int64) : Follows c (c.removeExport id) (.removeExport c id) :=
  .require _ _ (.execute _ (.noted _ (.done ())))

theorem setQuota (path : String) (t : QuotaThresholds) :
    Follows c (c.setQuota path t) (.setQuota c path t) :=
  .require _ _ (.execute _ (.noted _ (.done ())))

theorem quota (path : String) {k : Quota → Exchange α} {next : Quota → Script}
    (h : ∀ q, Follows c (k q) (next q)) :
    Follows c (c.quota path >>= k)
      (.quotas c fun all => (all.find? fun q => q.path == path).elim .over next) := by
  unfold Connection.quota
  rw [LawfulMonad.bind_assoc]
  exact .quotas fun _ => .ofOption _ _ h

theorem updateQuota (path : String) (t : QuotaThresholds) :
    Follows c (c.updateQuota path t) (.updateQuota c path t) :=
  .quota path fun _ => .execute _ (.noted _ (.done ()))

theorem deleteQuota (path : String) : Follows c (c.deleteQuota path) (.deleteQuota c path) :=
  .require _ _ (.of_bind (.execute _ (.done ())))

theorem snapshot (id : Int64) {k : Snapshot → Exchange α} {next : Snapshot → Script}
    (h : ∀ s, Follows c (k s) (next s)) :
    Follows c (c.snapshot id >>= k) (.snapshot c id next) := by
  unfold Connection.snapshot
  simp only [LawfulMonad.bind_assoc]
  exact .require _ _ (.asked _ _ fun _ => .ofOption _ _ h)

theorem createSnapshot (path : String) (name : Option String) :
    Follows c (c.createSnapshot path name) (.createSnapshot c path name) := by
  refine .require _ _ (.asked _ _ fun reply => ?_)
  cases reply with
  | none => exact .failed _
  | some s => exact .noted _ (.done s)

theorem copySnapshot (snapshot source destination : String) {k : Unit → Exchange α}
    {next : Script} (h : Follows c (k ()) next) :
    Follows c (c.copySnapshot snapshot source destination >>= k)
      (.copySnapshot c snapshot source destination next) := by
  unfold Connection.copySnapshot
  simp only [LawfulMonad.bind_assoc]
  exact .require _ _ (.execute _ (.note _ h))

theorem removeSnapshot (id : Int64) : Follows c (c.removeSnapshot id) (.removeSnapshot c id) :=
  .require _ _ (.execute _ (.noted _ (.done ())))

theorem publish (name : String) :
    Follows c (Client.publish ⟨c⟩ name) (.publish c (Client.path ⟨c⟩ name)) := by
  unfold Client.publish Client.isExported
  rw [LawfulMonad.bind_assoc]
  refine .exports fun all => ?_
  dsimp only
  rw [LawfulMonad.pure_bind]
  split
  · exact .noted _ (.done ())
  · exact (createExport _).bind_done _

/-- Going on with the first export of a volume, if there is one. -/
theorem exportOf (name : String) {k : Option Export → Exchange α} {next : Export → Script}
    (absent : Follows c (k none) .over) (present : ∀ e, Follows c (k (some e)) (next e)) :
    Follows c (Client.exportOf ⟨c⟩ none name >>= k) (.exports c fun all =>
      (all.find? fun e => e.hasPath (Client.path ⟨c⟩ name)).elim .over next) := by
  unfold Client.exportOf
  rw [LawfulMonad.bind_assoc]
  refine .exports fun all => ?_
  change Follows c (k (all.find? fun e => e.hasPath (Client.path ⟨c⟩ name))) _
  cases all.find? fun e => e.hasPath (Client.path ⟨c⟩ name) with
  | none => exact absent
  | some e => exact present e

theorem restrict (name : String) (clients : List String) :
    Follows c (Client.setExportClients ⟨c⟩ name clients)
      (.restrict c (Client.path ⟨c⟩ name) clients) :=
  .exportOf name (.done ()) fun e => .setExportClients e.id clients

theorem unpublish (name : String) :
    Follows c (Client.unpublish ⟨c⟩ name) (.unpublish c (Client.path ⟨c⟩ name)) :=
  .exportOf name (.done ()) fun e => .removeExport e.id

/-- A volume that goes by its name. -/
theorem volumeNamed (name : String) : Follows c (Client.volume ⟨c⟩ name name) (.volume c name) := by
  unfold Client.volume
  rw [ite_self]
  exact .volume name

/-- Restoring a snapshot that was found. -/
theorem restore (destination : String) (s : Snapshot) :
    Follows c (c.copySnapshot s.name (nameFromPath s.path) destination >>= fun _ =>
      Client.volume ⟨c⟩ destination destination) (.restore c destination s) :=
  .copySnapshot _ _ _ (.volumeNamed destination)

/-- Going on once the look-up by id is over. -/
theorem afterLookup (id : Int64) (name : String) (found : Except Failure Snapshot)
    {k : Option Snapshot → Exchange α} {next : Snapshot → Script}
    (absent : Follows c (k none) .over) (present : ∀ s, Follows c (k (some s)) (next s)) :
    Follows c (Client.afterLookup id name found c >>= k) (.orNamed c name next found) := by
  cases found with
  | ok s => exact present s
  | error why =>
    unfold Client.afterLookup Script.orNamed
    simp only [LawfulMonad.bind_assoc, LawfulMonad.pure_bind]
    refine .note _ (.snapshots fun all => ?_)
    cases all.find? fun s => s.name == name with
    | none => exact absent
    | some s => exact present s

/-- What begins with a look-up under an id and a name begins with that of the id. -/
theorem lookup {id : Int64} {name : String} (filled : name.isEmpty = false) {x : Exchange α}
    {k : Option Snapshot → Exchange α} {next : Snapshot → Script}
    (begins : x = Client.snapshot ⟨c⟩ id name >>= k) (absent : Follows c (k none) .over)
    (present : ∀ s, Follows c (k (some s)) (next s)) :
    ∃ l : Except Failure Snapshot → Exchange α, x = ((c.snapshot id).attempt >>= l) ∧
      ∀ found, Follows c (l found) (.orNamed c name next found) := by
  refine ⟨fun found => Client.afterLookup id name found c >>= k, ?_,
    fun found => .afterLookup id name found absent present⟩
  rw [begins, Client.snapshot_eq c id name filled, LawfulMonad.bind_assoc]

/-- The same for what goes on only with a snapshot. -/
theorem lookup_required {id : Int64} {name : String} (filled : name.isEmpty = false)
    {x : Exchange α} {k : Snapshot → Exchange α} {next : Snapshot → Script}
    (begins : x = Client.requireSnapshot ⟨c⟩ id name >>= k)
    (present : ∀ s, Follows c (k s) (next s)) :
    ∃ l : Except Failure Snapshot → Exchange α, x = ((c.snapshot id).attempt >>= l) ∧
      ∀ found, Follows c (l found) (.orNamed c name next found) :=
  lookup filled (begins.trans (LawfulMonad.bind_assoc _ _ _)) (.failed _) present

end Follows

/-- Every call of a connection goes by its script. -/
theorem ConnectionCall.follows (c : Connection) (call : ConnectionCall) :
    Follows c (call.run c) (call.script c) := by
  cases call with
  | detectVersion => exact .map _ .detectVersion
  | query ask => exact .map _ (.query ask anything)
  | volumes => exact .map _ .volumes
  | createVolume name => exact .map _ (.createVolume name)
  | volume name => exact .map _ (.volume name)
  | deleteVolume name => exact .map _ (.require _ _ (.execute _ (.noted _ (.done ()))))
  | copyVolume source destination =>
    exact .map _ (.of_bind (.copyVolume source destination (.done ())))
  | exports => exact .map _ (.of_bind (.exports fun all => .done all))
  | exportById id =>
    refine .map _ (.require _ _ (.asked _ _ fun reply => ?_))
    cases reply.bind fun l => l.exports.head? with
    | none => exact .failed _
    | some e => exact .done e
  | createExport path => exact .map _ (.createExport path)
  | setExportClients id clients => exact .map _ (.setExportClients id clients)
  | removeExport id => exact .map _ (.removeExport id)
  | quotas => exact .map _ (.of_bind (.quotas fun all => .done all))
  | quota path =>
    have listed : Follows c (c.quota path) (.quotas c fun _ => .over) := by
      unfold Connection.quota
      refine .quotas fun all => ?_
      cases all.find? fun q => q.path == path with
      | none => exact .failed _
      | some q => exact .done q
    exact .map _ listed
  | setQuota path t => exact .map _ (.setQuota path t)
  | setQuotaHard path size => exact .map _ (.setQuota path (.ofHard size))
  | updateQuota path t => exact .map _ (.updateQuota path t)
  | updateQuotaHard path size => exact .map _ (.updateQuota path (.ofHard size))
  | deleteQuota path => exact .map _ (.deleteQuota path)
  | snapshots => exact .map _ (.of_bind (.snapshots fun all => .done all))
  | snapshot id => exact .map _ (.of_bind (.snapshot id fun s => .done s))
  | createSnapshot path name => exact .map _ (.createSnapshot path name)
  | copySnapshot name source destination =>
    exact .map _ (.of_bind (.copySnapshot name source destination (.done ())))
  | removeSnapshot id => exact .map _ (.removeSnapshot id)

/-- Every call of a client that does not look up a snapshot under a name goes by its script. -/
theorem ClientCall.follows (c : Connection) (call : ClientCall) (h : call.lookup? = none) :
    Follows c (call.run ⟨c⟩) (call.script c) := by
  cases call with
  | volume id name => exact .map _ (.volume _)
  | volumes => exact .map _ .volumes
  | createVolume name => exact .map _ ((Follows.createVolume name).bind_done _)
  | deleteVolume name => exact .map _ (.require _ _ (.execute _ (.noted _ (.done ()))))
  | copyVolume source destination =>
    exact .map _ (.copyVolume source destination (.volumeNamed destination))
  | exports => exact .map _ (.of_bind (.exports fun all => .done all))
  | exportOf id name => exact .map _ (.exports fun all => .done _)
  | isExported name => exact .map _ (.exports fun all => .done _)
  | publish name => exact .map _ (.publish name)
  | publishVolume name => exact .map _ (.publish name)
  | exportClients name =>
    refine .map _ ?_
    unfold Client.exportClients Client.exportOf
    rw [LawfulMonad.bind_assoc]
    exact .exports fun all => .done _
  | setExportClients name clients => exact .map _ (.restrict name clients)
  | clearExportClients name => exact .map _ (.restrict name [])
  | unpublish name => exact .map _ (.unpublish name)
  | unpublishVolume name => exact .map _ (.unpublish name)
  | volumeExports => exact .map _ (.exports fun all => Follows.volumes.bind_done _)
  | quota name => exact (ConnectionCall.quota (Client.path ⟨c⟩ name)).follows c
  | setQuota name t => exact .map _ (.setQuota _ t)
  | setQuotaSize name size => exact .map _ (.setQuota _ (.ofHard size))
  | updateQuota name t => exact .map _ (.updateQuota _ t)
  | updateQuotaSize name size => exact .map _ (.updateQuota _ (.ofHard size))
  | clearQuota name => exact .map _ (.deleteQuota _)
  | snapshots => exact .map _ (.of_bind (.snapshots fun all => .done all))
  | snapshotsOf name => exact .map _ (.snapshots fun all => .done _)
  | createSnapshot v name => exact .map _ (.createSnapshot _ (some name))
  | snapshot id name =>
    refine .map _ ?_
    rw [Client.snapshot_eq_of_unnamed c id name (unnamed_of_lookup h)]
    exact .snapshot id fun s => .done (some s)
  | removeSnapshot id name =>
    refine .map _ ?_
    unfold Client.removeSnapshot
    rw [Client.requireSnapshot_eq_of_unnamed c id name (unnamed_of_lookup h)]
    exact .snapshot id fun s => .removeSnapshot s.id
  | copySnapshot id name destination =>
    refine .map _ ?_
    unfold Client.copySnapshot
    rw [Client.requireSnapshot_eq_of_unnamed c id name (unnamed_of_lookup h)]
    exact .snapshot id fun s => .restore destination s

/-- Every other call of a client looks up a snapshot by its id, and goes by its script after that,
whatever came of the look-up. -/
theorem ClientCall.follows_lookup (c : Connection) (call : ClientCall) (id : Int64)
    (h : call.lookup? = some id) :
    ∃ k : Except Failure Snapshot → Exchange Value,
      call.run ⟨c⟩ = ((c.snapshot id).attempt >>= k) ∧
        ∀ found, Follows c (k found) (call.scriptAfter c found) := by
  cases call with
  | snapshot i name =>
    obtain ⟨filled, rfl⟩ := named_of_lookup h
    exact Follows.lookup filled (map_eq_pure_bind _ _) (.done _) fun s => .done _
  | removeSnapshot i name =>
    obtain ⟨filled, rfl⟩ := named_of_lookup h
    exact Follows.lookup_required filled (map_bind _ _ _) fun s => .map _ (.removeSnapshot s.id)
  | copySnapshot i name destination =>
    obtain ⟨filled, rfl⟩ := named_of_lookup h
    exact Follows.lookup_required filled (map_bind _ _ _) fun s =>
      .map _ (.restore destination s)
  | _ => cases h

end OneFs
