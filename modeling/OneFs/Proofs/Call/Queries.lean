import OneFs.Call
import OneFs.Proofs.Exchange.Course

/-!
# Calls made of queries

Every call is made of queries, the same ones however the cluster is reached. The exception is the
look-up of a snapshot by id and name: it makes one query for the id, whatever comes of that, before
it goes on like the others.

- `MadeOfQueries`: that a call follows a course, with one lemma for each way of putting calls
  together;
- `ConnectionCall.madeOfQueries`, `ClientCall.madeOfQueries`: the calls that do;
- `LooksUp`, `ClientCall.looksUp`: the calls that look up a snapshot first;
- `Connection.settle`, `Connection.connect_eq`: connecting.
-/

namespace OneFs

open Json Http Exchange

variable {α β σ : Type}

/-- How a cluster is reached. -/
structure Access where
  options : Options
  endpoint : String
  authorization : String

/-- The connection with another way to reach the cluster. What is asked of the cluster stays. -/
def Connection.via (c : Connection) (a : Access) : Connection :=
  { c with options := a.options, endpoint := a.endpoint, authorization := a.authorization }

/-! ## Calls made of queries -/

/-- A call is made of queries: it follows one course, however the cluster is reached. -/
def MadeOfQueries (c : Connection) (p : Connection → Exchange α) : Prop :=
  ∃ course : Course α, ∀ a, p (c.via a) = course.exchange (c.via a)

namespace MadeOfQueries

variable {c : Connection}

protected theorem pure (v : Connection → α) (h : ∀ a, v (c.via a) = v c) :
    MadeOfQueries c fun c => pure (v c) :=
  ⟨.done (v c), fun a => congrArg Exchange.done (h a)⟩

protected theorem fail (f : Failure) : MadeOfQueries (α := α) c fun _ => Exchange.fail f :=
  ⟨.failed f, fun _ => rfl⟩

protected theorem note (e : Event) : MadeOfQueries c fun _ => Exchange.note e :=
  ⟨.noted e (.done ()), fun _ => rfl⟩

protected theorem query (ask : Connection → Ask) (r : Reader α) (h : ∀ a, ask (c.via a) = ask c) :
    MadeOfQueries c fun c => c.query (ask c) r := by
  refine ⟨.asked (ask c) r .done, fun a => ?_⟩
  change (c.via a).query (ask (c.via a)) r = _
  rw [h a]
  exact (Exchange.bind_done ((c.via a).query (ask c) r)).symm

protected theorem bind {p : Connection → Exchange α} {k : α → Connection → Exchange β}
    (hp : MadeOfQueries c p) (hk : ∀ v, MadeOfQueries c (k v)) :
    MadeOfQueries c fun c => p c >>= fun v => k v c := by
  obtain ⟨first, hp⟩ := hp
  obtain ⟨next, hk⟩ := Classical.axiomOfChoice hk
  refine ⟨first.bind next, fun a => ?_⟩
  rw [Course.exchange_bind, ← hp a]
  exact congrArg (p (c.via a) >>= ·) (funext fun v => hk v a)

protected theorem map (f : α → β) {p : Connection → Exchange α} (hp : MadeOfQueries c p) :
    MadeOfQueries c fun c => f <$> p c := by
  obtain ⟨course, hp⟩ := hp.bind fun v => .pure (fun _ => f v) fun _ => rfl
  exact ⟨course, fun a => (map_eq_pure_bind f (p (c.via a))).trans (hp a)⟩

protected theorem ofExcept (x : Except Failure α) :
    MadeOfQueries c fun _ => Exchange.ofExcept x := by
  cases x with
  | error f => exact .fail f
  | ok v => exact .pure (fun _ => v) fun _ => rfl

protected theorem ofOption (f : Failure) (x : Option α) :
    MadeOfQueries c fun _ => Exchange.ofOption f x := by
  cases x with
  | none => exact .fail f
  | some v => exact .pure (fun _ => v) fun _ => rfl

protected theorem require (present : Bool) (what : String) :
    MadeOfQueries c fun _ => Connection.require present what := by
  cases present with
  | false => exact .fail _
  | true => exact .pure (fun _ => ()) fun _ => rfl

protected theorem execute (ask : Connection → Ask) (h : ∀ a, ask (c.via a) = ask c) :
    MadeOfQueries c fun c => c.execute (ask c) :=
  .bind (.query ask ignored h) fun _ => .pure (fun _ => ()) fun _ => rfl

/-- The path of a volume does not depend on how the cluster is reached. -/
protected theorem atPath (name : String) {p : String → Connection → Exchange α}
    (hp : ∀ path, MadeOfQueries c (p path)) :
    MadeOfQueries c fun c => p (Client.path ⟨c⟩ name) c := by
  obtain ⟨course, eq⟩ := hp (Client.path ⟨c⟩ name)
  exact ⟨course, eq⟩

end MadeOfQueries

open MadeOfQueries

/-! ## Calls of a connection -/

namespace Connection

variable (c : Connection)

theorem detectVersion_madeOfQueries : MadeOfQueries c detectVersion :=
  .bind (.query _ latest fun _ => rfl) fun _ =>
    .bind (.ofOption _ _) fun _ => .ofExcept _

theorem volumes_madeOfQueries : MadeOfQueries c volumes :=
  .bind (.query _ Volume.children fun _ => rfl) fun _ => .pure _ fun _ => rfl

theorem createVolume_madeOfQueries (name : String) : MadeOfQueries c (·.createVolume name) :=
  .bind (.require _ _) fun _ => .bind (.execute _ fun _ => rfl) fun _ =>
    .bind (.execute _ fun _ => rfl) fun _ => .note _

theorem volume_madeOfQueries (name : String) : MadeOfQueries c (·.volume name) :=
  .bind (.require _ _) fun _ => .bind (.query _ Volume.metadata fun _ => rfl) fun _ =>
    .pure _ fun _ => rfl

theorem deleteVolume_madeOfQueries (name : String) : MadeOfQueries c (·.deleteVolume name) :=
  .bind (.require _ _) fun _ => .bind (.execute _ fun _ => rfl) fun _ => .note _

theorem copyVolume_madeOfQueries (source destination : String) :
    MadeOfQueries c (·.copyVolume source destination) :=
  .bind (.require _ _) fun _ => .bind (.require _ _) fun _ =>
    .bind (.execute _ fun _ => rfl) fun _ => .note _

theorem exports_madeOfQueries : MadeOfQueries c exports :=
  .bind (.query _ ExportList.reader fun _ => rfl) fun _ => .pure _ fun _ => rfl

theorem exportById_madeOfQueries (id : Int64) : MadeOfQueries c (·.exportById id) :=
  .bind (.require _ _) fun _ => .bind (.query _ ExportList.reader fun _ => rfl) fun _ =>
    .ofOption _ _

theorem createExport_madeOfQueries (path : String) : MadeOfQueries c (·.createExport path) :=
  .bind (.require _ _) fun _ => .bind (.query _ Export.createdId fun _ => rfl) fun _ =>
    .bind (.ofOption _ _) fun _ => .bind (.note _) fun _ => .pure _ fun _ => rfl

theorem setExportClients_madeOfQueries (id : Int64) (clients : List String) :
    MadeOfQueries c (·.setExportClients id clients) :=
  .bind (.require _ _) fun _ => .execute _ fun _ => rfl

theorem removeExport_madeOfQueries (id : Int64) : MadeOfQueries c (·.removeExport id) :=
  .bind (.require _ _) fun _ => .bind (.execute _ fun _ => rfl) fun _ => .note _

theorem quotas_madeOfQueries : MadeOfQueries c quotas :=
  .bind (.query _ Quota.listing fun _ => rfl) fun _ => .pure _ fun _ => rfl

theorem quota_madeOfQueries (path : String) : MadeOfQueries c (·.quota path) :=
  .bind (quotas_madeOfQueries c) fun _ => .ofOption _ _

theorem setQuota_madeOfQueries (path : String) (t : QuotaThresholds) :
    MadeOfQueries c (·.setQuota path t) :=
  .bind (.require _ _) fun _ => .bind (.execute _ fun _ => rfl) fun _ => .note _

theorem updateQuota_madeOfQueries (path : String) (t : QuotaThresholds) :
    MadeOfQueries c (·.updateQuota path t) :=
  .bind (quota_madeOfQueries c path) fun _ => .bind (.execute _ fun _ => rfl) fun _ => .note _

theorem deleteQuota_madeOfQueries (path : String) : MadeOfQueries c (·.deleteQuota path) :=
  .bind (.require _ _) fun _ => .execute _ fun _ => rfl

theorem snapshots_madeOfQueries : MadeOfQueries c snapshots :=
  .bind (.query _ SnapshotList.reader fun _ => rfl) fun _ => .pure _ fun _ => rfl

theorem snapshot_madeOfQueries (id : Int64) : MadeOfQueries c (·.snapshot id) :=
  .bind (.require _ _) fun _ => .bind (.query _ SnapshotList.reader fun _ => rfl) fun _ =>
    .ofOption _ _

theorem createSnapshot_madeOfQueries (path : String) (name : Option String) :
    MadeOfQueries c (·.createSnapshot path name) :=
  .bind (.require _ _) fun _ => .bind (.query _ Snapshot.reader fun _ => rfl) fun _ =>
    .bind (.ofOption _ _) fun _ => .bind (.note _) fun _ => .pure _ fun _ => rfl

theorem copySnapshot_madeOfQueries (snapshot source destination : String) :
    MadeOfQueries c (·.copySnapshot snapshot source destination) :=
  .bind (.require _ _) fun _ => .bind (.execute _ fun _ => rfl) fun _ => .note _

theorem removeSnapshot_madeOfQueries (id : Int64) : MadeOfQueries c (·.removeSnapshot id) :=
  .bind (.require _ _) fun _ => .bind (.execute _ fun _ => rfl) fun _ => .note _

end Connection

open Connection

/-- Every call of a connection is made of queries. -/
theorem ConnectionCall.madeOfQueries (c : Connection) (call : ConnectionCall) :
    MadeOfQueries c fun c => call.run c := by
  cases call with
  | detectVersion => exact (detectVersion_madeOfQueries c).map _
  | query ask => exact (MadeOfQueries.query (fun _ => ask) anything fun _ => rfl).map _
  | volumes => exact (volumes_madeOfQueries c).map _
  | createVolume name => exact (createVolume_madeOfQueries c name).map _
  | volume name => exact (volume_madeOfQueries c name).map _
  | deleteVolume name => exact (deleteVolume_madeOfQueries c name).map _
  | copyVolume source destination => exact (copyVolume_madeOfQueries c source destination).map _
  | exports => exact (exports_madeOfQueries c).map _
  | exportById id => exact (exportById_madeOfQueries c id).map _
  | createExport path => exact (createExport_madeOfQueries c path).map _
  | setExportClients id clients => exact (setExportClients_madeOfQueries c id clients).map _
  | removeExport id => exact (removeExport_madeOfQueries c id).map _
  | quotas => exact (quotas_madeOfQueries c).map _
  | quota path => exact (quota_madeOfQueries c path).map _
  | setQuota path t => exact (setQuota_madeOfQueries c path t).map _
  | setQuotaHard path size => exact (setQuota_madeOfQueries c path (.ofHard size)).map _
  | updateQuota path t => exact (updateQuota_madeOfQueries c path t).map _
  | updateQuotaHard path size => exact (updateQuota_madeOfQueries c path (.ofHard size)).map _
  | deleteQuota path => exact (deleteQuota_madeOfQueries c path).map _
  | snapshots => exact (snapshots_madeOfQueries c).map _
  | snapshot id => exact (snapshot_madeOfQueries c id).map _
  | createSnapshot path name => exact (createSnapshot_madeOfQueries c path name).map _
  | copySnapshot name source destination =>
    exact (copySnapshot_madeOfQueries c name source destination).map _
  | removeSnapshot id => exact (removeSnapshot_madeOfQueries c id).map _

/-! ## Looking up a snapshot -/

/-- To go on after a failure only to fail with it is not to go on. -/
theorem Exchange.attempt_bind (x : Exchange α) (k : Except Failure α → Exchange β)
    (h : ∀ f, k (.error f) = .failed f) : x.attempt >>= k = x >>= fun v => k (.ok v) := by
  induction x with
  | done _ => rfl
  | failed f => exact h f
  | noted e _ ih => exact congrArg (Exchange.noted e) ih
  | sent r _ ih => exact congrArg (Exchange.sent r) (funext ih)

/-- A call looks up a snapshot by its id, and then is made of queries, whatever came of that. -/
def LooksUp (id : Int64) (c : Connection) (p : Connection → Exchange α) : Prop :=
  ∃ k : Except Failure Snapshot → Connection → Exchange α,
    (∀ found, MadeOfQueries c (k found)) ∧
      ∀ a, p (c.via a) = ((c.via a).snapshot id).attempt >>= fun found => k found (c.via a)

theorem LooksUp.bind {id : Int64} {c : Connection} {p : Connection → Exchange α}
    {k : α → Connection → Exchange β} (hp : LooksUp id c p) (hk : ∀ v, MadeOfQueries c (k v)) :
    LooksUp id c fun c => p c >>= fun v => k v c := by
  obtain ⟨l, hl, hp⟩ := hp
  refine ⟨fun found c => l found c >>= fun v => k v c, fun found => (hl found).bind hk, fun a => ?_⟩
  change (p (c.via a) >>= fun v => k v (c.via a)) = _
  rw [hp a]
  exact Exchange.bind_assoc _ _ _

theorem LooksUp.map {id : Int64} {c : Connection} {p : Connection → Exchange α} (f : α → β)
    (hp : LooksUp id c p) : LooksUp id c fun c => f <$> p c := by
  obtain ⟨l, hl, eq⟩ := hp.bind fun v => .pure (fun _ => f v) fun _ => rfl
  exact ⟨l, hl, fun a => (map_eq_pure_bind f (p (c.via a))).trans (eq a)⟩

/-! ## Calls of a client -/

/-- The id that a call looks up before it goes on with a name, whether there is such an id or not.
-/
def ClientCall.lookup? : ClientCall → Option Int64
  | .snapshot id name => if name.isEmpty then none else some id
  | .removeSnapshot id name => if name.isEmpty then none else some id
  | .copySnapshot id name _ => if name.isEmpty then none else some id
  | _ => none

/-- The id that a call looks up before it goes on with a name; calls of a connection do not. -/
def Call.lookup? : Call → Option Int64
  | .ofConnection _ => none
  | .ofClient call => call.lookup?

namespace Client

variable (c : Connection)

theorem volume_madeOfQueries (id name : String) :
    MadeOfQueries c fun c => Client.volume ⟨c⟩ id name :=
  Connection.volume_madeOfQueries c _

theorem createVolume_madeOfQueries (name : String) :
    MadeOfQueries c fun c => Client.createVolume ⟨c⟩ name :=
  .bind (Connection.createVolume_madeOfQueries c name) fun _ => .pure _ fun _ => rfl

theorem copyVolume_madeOfQueries (source destination : String) :
    MadeOfQueries c fun c => Client.copyVolume ⟨c⟩ source destination :=
  .bind (Connection.copyVolume_madeOfQueries c source destination) fun _ =>
    volume_madeOfQueries c destination destination

theorem exportOf_madeOfQueries (id : Option Int64) (name : String) :
    MadeOfQueries c fun c => Client.exportOf ⟨c⟩ id name :=
  .bind (exports_madeOfQueries c) fun _ => .pure _ fun _ => rfl

theorem isExported_madeOfQueries (name : String) :
    MadeOfQueries c fun c => Client.isExported ⟨c⟩ name :=
  .bind (exports_madeOfQueries c) fun _ => .pure _ fun _ => rfl

theorem publish_madeOfQueries (name : String) :
    MadeOfQueries c fun c => Client.publish ⟨c⟩ name := by
  refine .bind (isExported_madeOfQueries c name) fun found => ?_
  cases found with
  | true => exact .note _
  | false =>
    exact .bind (.atPath name (createExport_madeOfQueries c)) fun _ => .pure _ fun _ => rfl

theorem exportClients_madeOfQueries (name : String) :
    MadeOfQueries c fun c => Client.exportClients ⟨c⟩ name :=
  .bind (exportOf_madeOfQueries c none name) fun _ => .pure _ fun _ => rfl

theorem setExportClients_madeOfQueries (name : String) (clients : List String) :
    MadeOfQueries c fun c => Client.setExportClients ⟨c⟩ name clients := by
  refine .bind (exportOf_madeOfQueries c none name) fun found => ?_
  cases found with
  | none => exact .pure _ fun _ => rfl
  | some e => exact Connection.setExportClients_madeOfQueries c e.id clients

theorem unpublish_madeOfQueries (name : String) :
    MadeOfQueries c fun c => Client.unpublish ⟨c⟩ name := by
  refine .bind (exportOf_madeOfQueries c none name) fun found => ?_
  cases found with
  | none => exact .pure _ fun _ => rfl
  | some e => exact removeExport_madeOfQueries c e.id

theorem volumeExports_madeOfQueries : MadeOfQueries c fun c => Client.volumeExports ⟨c⟩ :=
  .bind (exports_madeOfQueries c) fun _ => .bind (volumes_madeOfQueries c) fun _ =>
    .pure _ fun _ => rfl

theorem snapshotsOf_madeOfQueries (name : String) :
    MadeOfQueries c fun c => Client.snapshotsOf ⟨c⟩ name :=
  .bind (snapshots_madeOfQueries c) fun _ => .pure _ fun _ => rfl

/-- Without a name, the look-up by id is all. -/
theorem snapshot_eq_of_unnamed (id : Int64) (name : String) (h : name.isEmpty = true) :
    Client.snapshot ⟨c⟩ id name = c.snapshot id >>= fun s => pure (some s) := by
  simp only [Client.snapshot, h, if_true]
  exact Exchange.attempt_bind _ _ fun _ => rfl

theorem requireSnapshot_eq_of_unnamed (id : Int64) (name : String) (h : name.isEmpty = true) :
    Client.requireSnapshot ⟨c⟩ id name = c.snapshot id := by
  unfold Client.requireSnapshot
  rw [snapshot_eq_of_unnamed c id name h, LawfulMonad.bind_assoc]
  exact Exchange.bind_done (c.snapshot id)

theorem snapshot_madeOfQueries (id : Int64) (name : String) (h : name.isEmpty = true) :
    MadeOfQueries c fun c => Client.snapshot ⟨c⟩ id name := by
  obtain ⟨course, eq⟩ : MadeOfQueries c fun c => c.snapshot id >>= fun s => pure (some s) :=
    .bind (Connection.snapshot_madeOfQueries c id) fun _ => .pure _ fun _ => rfl
  exact ⟨course, fun a => (snapshot_eq_of_unnamed (c.via a) id name h).trans (eq a)⟩

/-- What is left to do once the look-up by id is over. -/
def afterLookup (id : Int64) (name : String) (found : Except Failure Snapshot) (c : Connection) :
    Exchange (Option Snapshot) :=
  match found with
  | .ok s => pure (some s)
  | .error why => do
    Exchange.note (.snapshotLookupFailed id name why)
    let all ← c.snapshots
    pure (all.find? fun s => s.name == name)

/-- With a name, the look-up by id may fail. -/
theorem snapshot_eq (id : Int64) (name : String) (h : name.isEmpty = false) :
    Client.snapshot ⟨c⟩ id name =
      (c.snapshot id).attempt >>= fun found => afterLookup id name found c := by
  refine congrArg ((c.snapshot id).attempt >>= ·) (funext fun found => ?_)
  cases found with
  | ok s => rfl
  | error why => simp only [h, Bool.false_eq_true, if_false, afterLookup, Client.snapshots]

theorem snapshot_looksUp (id : Int64) (name : String) (h : name.isEmpty = false) :
    LooksUp id c fun c => Client.snapshot ⟨c⟩ id name := by
  refine ⟨afterLookup id name, fun found => ?_, fun a => snapshot_eq (c.via a) id name h⟩
  cases found with
  | ok s => exact .pure (fun _ => some s) fun _ => rfl
  | error why =>
    exact .bind (.note _) fun _ => .bind (snapshots_madeOfQueries c) fun _ => .pure _ fun _ => rfl

theorem requireSnapshot_madeOfQueries (id : Int64) (name : String) (h : name.isEmpty = true) :
    MadeOfQueries c fun c => Client.requireSnapshot ⟨c⟩ id name :=
  .bind (snapshot_madeOfQueries c id name h) fun _ => .ofOption _ _

theorem requireSnapshot_looksUp (id : Int64) (name : String) (h : name.isEmpty = false) :
    LooksUp id c fun c => Client.requireSnapshot ⟨c⟩ id name :=
  .bind (snapshot_looksUp c id name h) fun _ => .ofOption _ _

/-- Restoring a snapshot that was found. -/
theorem restore_madeOfQueries (destination : String) (s : Snapshot) :
    MadeOfQueries c fun c => c.copySnapshot s.name (nameFromPath s.path) destination >>= fun _ =>
      Client.volume ⟨c⟩ destination destination :=
  .bind (Connection.copySnapshot_madeOfQueries c _ _ _) fun _ =>
    volume_madeOfQueries c destination destination

theorem removeSnapshot_madeOfQueries (id : Int64) (name : String) (h : name.isEmpty = true) :
    MadeOfQueries c fun c => Client.removeSnapshot ⟨c⟩ id name :=
  .bind (requireSnapshot_madeOfQueries c id name h) fun s =>
    Connection.removeSnapshot_madeOfQueries c s.id

theorem removeSnapshot_looksUp (id : Int64) (name : String) (h : name.isEmpty = false) :
    LooksUp id c fun c => Client.removeSnapshot ⟨c⟩ id name :=
  .bind (requireSnapshot_looksUp c id name h) fun s =>
    Connection.removeSnapshot_madeOfQueries c s.id

theorem copySnapshot_madeOfQueries (id : Int64) (name destination : String)
    (h : name.isEmpty = true) :
    MadeOfQueries c fun c => Client.copySnapshot ⟨c⟩ id name destination :=
  .bind (requireSnapshot_madeOfQueries c id name h) fun s => restore_madeOfQueries c destination s

theorem copySnapshot_looksUp (id : Int64) (name destination : String)
    (h : name.isEmpty = false) :
    LooksUp id c fun c => Client.copySnapshot ⟨c⟩ id name destination :=
  .bind (requireSnapshot_looksUp c id name h) fun s => restore_madeOfQueries c destination s

end Client

open Client

/-- Nothing is looked up just if there is no name. -/
theorem unnamed_of_lookup {id : Int64} {name : String}
    (h : (if name.isEmpty then none else some id) = none) : name.isEmpty = true := by
  cases empty : name.isEmpty with
  | true => rfl
  | false => simp [empty] at h

theorem named_of_lookup {id found : Int64} {name : String}
    (h : (if name.isEmpty then none else some id) = some found) :
    name.isEmpty = false ∧ id = found := by
  cases empty : name.isEmpty with
  | true => simp [empty] at h
  | false => simpa [empty] using h

/-- Every call of a client that does not look up a snapshot under a name is made of queries. -/
theorem ClientCall.madeOfQueries (c : Connection) (call : ClientCall) (h : call.lookup? = none) :
    MadeOfQueries c fun c => call.run ⟨c⟩ := by
  cases call with
  | volume id name => exact (Client.volume_madeOfQueries c id name).map _
  | volumes => exact (volumes_madeOfQueries c).map _
  | createVolume name => exact (Client.createVolume_madeOfQueries c name).map _
  | deleteVolume name => exact (deleteVolume_madeOfQueries c name).map _
  | copyVolume source destination =>
    exact (Client.copyVolume_madeOfQueries c source destination).map _
  | exports => exact (exports_madeOfQueries c).map _
  | exportOf id name => exact (exportOf_madeOfQueries c id name).map _
  | isExported name => exact (isExported_madeOfQueries c name).map _
  | publish name => exact (publish_madeOfQueries c name).map _
  | publishVolume name => exact (publish_madeOfQueries c name).map _
  | exportClients name => exact (exportClients_madeOfQueries c name).map _
  | setExportClients name clients =>
    exact (Client.setExportClients_madeOfQueries c name clients).map _
  | clearExportClients name => exact (Client.setExportClients_madeOfQueries c name []).map _
  | unpublish name => exact (unpublish_madeOfQueries c name).map _
  | unpublishVolume name => exact (unpublish_madeOfQueries c name).map _
  | volumeExports => exact (volumeExports_madeOfQueries c).map _
  | quota name => exact (MadeOfQueries.atPath name (quota_madeOfQueries c)).map _
  | setQuota name t =>
    exact (MadeOfQueries.atPath name fun path => setQuota_madeOfQueries c path t).map _
  | setQuotaSize name size =>
    exact (MadeOfQueries.atPath name fun path => setQuota_madeOfQueries c path (.ofHard size)).map _
  | updateQuota name t =>
    exact (MadeOfQueries.atPath name fun path => updateQuota_madeOfQueries c path t).map _
  | updateQuotaSize name size =>
    exact (MadeOfQueries.atPath name fun path =>
      updateQuota_madeOfQueries c path (.ofHard size)).map _
  | clearQuota name => exact (MadeOfQueries.atPath name (deleteQuota_madeOfQueries c)).map _
  | snapshots => exact (snapshots_madeOfQueries c).map _
  | snapshotsOf name => exact (snapshotsOf_madeOfQueries c name).map _
  | createSnapshot v name =>
    exact (MadeOfQueries.atPath v fun path =>
      createSnapshot_madeOfQueries c path (some name)).map _
  | snapshot id name => exact (Client.snapshot_madeOfQueries c id name (unnamed_of_lookup h)).map _
  | removeSnapshot id name =>
    exact (Client.removeSnapshot_madeOfQueries c id name (unnamed_of_lookup h)).map _
  | copySnapshot id name destination =>
    exact (Client.copySnapshot_madeOfQueries c id name destination (unnamed_of_lookup h)).map _

/-- Every other call of a client looks the snapshot up, and then is made of queries. -/
theorem ClientCall.looksUp (c : Connection) (call : ClientCall) (id : Int64)
    (h : call.lookup? = some id) : LooksUp id c fun c => call.run ⟨c⟩ := by
  cases call with
  | snapshot i name =>
    obtain ⟨filled, rfl⟩ := named_of_lookup h
    exact (snapshot_looksUp c i name filled).map _
  | removeSnapshot i name =>
    obtain ⟨filled, rfl⟩ := named_of_lookup h
    exact (removeSnapshot_looksUp c i name filled).map _
  | copySnapshot i name destination =>
    obtain ⟨filled, rfl⟩ := named_of_lookup h
    exact (copySnapshot_looksUp c i name destination filled).map _
  | _ => cases h

/-! ## Connecting -/

/-- Asking the cluster for its version, and telling it. -/
def Connection.askVersion (c : Connection) : Exchange Version := do
  let version ← c.detectVersion
  Exchange.note (.versionDetected version)
  pure version

/-- What there is to do once a connection is configured: to ask the cluster for its version, if
none is configured. -/
def Connection.settle : Option Version → Connection → Exchange Connection
  | some _, c => pure c
  | none, c => (fun version => { c with version }) <$> c.askVersion

theorem Connection.askVersion_madeOfQueries (c : Connection) : MadeOfQueries c askVersion :=
  .bind (detectVersion_madeOfQueries c) fun v => .bind (.note _) fun _ =>
    .pure (fun _ => v) fun _ => rfl

/-- To connect is to configure a connection and to settle its version. -/
theorem Connection.connect_eq (config : Config) :
    connect config = Exchange.ofExcept (ofConfig config) >>= settle config.version := by
  unfold connect
  refine congrArg (Exchange.ofExcept (ofConfig config) >>= ·) (funext fun c => ?_)
  cases config.version with
  | some v => rfl
  | none =>
    simp only [settle, askVersion, map_eq_pure_bind, LawfulMonad.bind_assoc,
      LawfulMonad.pure_bind]

end OneFs
