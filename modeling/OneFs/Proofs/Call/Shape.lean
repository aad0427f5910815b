import OneFs.Call
import OneFs.Proofs.Exchange.Rounds

/-!
# The shape of a call

Every call of a connection is made of queries for resources of its own, and tells at most what it
has done.

- `Connection.Owns`: what the calls of a connection ask for;
- `ConnectionCall.isTold`, `ConnectionCall.Tells`: the calls that tell what they have done, and the
  events by which they do;
- `ConnectionCall.concludes`: the shape of every call.
-/

namespace OneFs

open Json Http Exchange

/-- What the calls of a connection ask for: the directory of the volumes or something of the
platform, and with no authorization but that of the connection. -/
structure Connection.Owns (c : Connection) (ask : Ask) : Prop where
  place : ask.path = c.namespacePath ∨ ∃ rest, ask.path = "platform/" ++ rest
  plain : ∀ h ∈ ask.headers, Text.lower h.1 ≠ "authorization"

namespace Connection

variable (c : Connection)

/-! ## What calls ask for -/

theorem owns_platform {ask : Ask} {rest : String} (place : ask.path = "platform/" ++ rest)
    (plain : ask.headers = []) : c.Owns ask :=
  ⟨.inr ⟨rest, place⟩, by rw [plain]; exact List.forall_mem_nil _⟩

theorem owns_exports {ask : Ask} (place : ask.path = c.version.exportsPath)
    (plain : ask.headers = []) : c.Owns ask :=
  c.owns_platform (place.trans (String.append_assoc ..)) plain

theorem owns_quotas {ask : Ask} (place : ask.path = c.version.quotasPath)
    (plain : ask.headers = []) : c.Owns ask :=
  c.owns_platform (place.trans (String.append_assoc ..)) plain

theorem owns_snapshots {ask : Ask} (place : ask.path = c.version.snapshotsPath)
    (plain : ask.headers = []) : c.Owns ask :=
  c.owns_platform (place.trans (String.append_assoc ..)) plain

theorem owns_namespace {ask : Ask} (names : List String) (place : ask.path = c.namespacePath)
    (named : ask.headers.map Prod.fst = names)
    (plain : ∀ name ∈ names, Text.lower name ≠ "authorization") : c.Owns ask :=
  ⟨.inl place, fun h hh => plain h.1 (named ▸ List.mem_map_of_mem hh)⟩

/-! ## Calls that tell nothing of their own -/

theorem detectVersion_wordless : Wordless c c.Owns c.detectVersion := by
  have place : latestPath = "platform/" ++ "latest" := rfl
  refine (Wordless.query (c.owns_platform place rfl) latest).bind fun reply => ?_
  refine (Wordless.ofOption rfl reply).bind fun latest => ?_
  unfold versionFor
  cases Text.word32? (Text.trim latest) with
  | none => exact .failed rfl
  | some n => exact Wordless.done _

theorem volumes_wordless : Wordless c c.Owns c.volumes :=
  (Wordless.query (c.owns_namespace [] rfl rfl (by decide)) Volume.children).bind fun _ =>
    Wordless.done _

theorem volume_wordless (name : String) : Wordless c c.Owns (c.volume name) :=
  (Wordless.require _ _).bind fun _ =>
    (Wordless.query (c.owns_namespace [] rfl rfl (by decide)) Volume.metadata).bind fun _ =>
      Wordless.done _

theorem exports_wordless : Wordless c c.Owns c.exports :=
  (Wordless.query (c.owns_exports rfl rfl) ExportList.reader).bind fun _ => Wordless.done _

theorem exportById_wordless (id : Int64) : Wordless c c.Owns (c.exportById id) :=
  (Wordless.require _ _).bind fun _ =>
    (Wordless.query (c.owns_exports rfl rfl) ExportList.reader).bind fun _ =>
      Wordless.ofOption rfl _

theorem setExportClients_wordless (id : Int64) (clients : List String) :
    Wordless c c.Owns (c.setExportClients id clients) :=
  (Wordless.require _ _).bind fun _ => Wordless.execute (c.owns_exports rfl rfl)

theorem quotas_wordless : Wordless c c.Owns c.quotas :=
  (Wordless.query (c.owns_quotas rfl rfl) Quota.listing).bind fun _ => Wordless.done _

theorem quota_wordless (path : String) : Wordless c c.Owns (c.quota path) :=
  (quotas_wordless c).bind fun _ => Wordless.ofOption rfl _

theorem deleteQuota_wordless (path : String) : Wordless c c.Owns (c.deleteQuota path) :=
  (Wordless.require _ _).bind fun _ => Wordless.execute (c.owns_quotas rfl rfl)

theorem snapshots_wordless : Wordless c c.Owns c.snapshots :=
  (Wordless.query (c.owns_snapshots rfl rfl) SnapshotList.reader).bind fun _ => Wordless.done _

theorem snapshot_wordless (id : Int64) : Wordless c c.Owns (c.snapshot id) :=
  (Wordless.require _ _).bind fun _ =>
    (Wordless.query (c.owns_snapshots rfl rfl) SnapshotList.reader).bind fun _ =>
      Wordless.ofOption rfl _

/-! ## Calls that tell what they have done -/

theorem createVolume_concludes (name : String) :
    Concludes c c.Owns False (fun _ e => e = .volumeCreated name) (c.createVolume name) :=
  (Wordless.require _ _).bind fun _ => (Wordless.execute (c.owns_namespace
    ["x-isi-ifs-target-type", "x-isi-ifs-access-control"] rfl rfl (by decide))).bind fun _ =>
    (Wordless.execute (c.owns_namespace [] rfl rfl (by decide))).bind fun _ => .told rfl

theorem deleteVolume_concludes (name : String) :
    Concludes c c.Owns False (fun _ e => e = .volumeDeleted name) (c.deleteVolume name) :=
  (Wordless.require _ _).bind fun _ =>
    (Wordless.execute (c.owns_namespace [] rfl rfl (by decide))).bind fun _ => .told rfl

theorem copyVolume_concludes (source destination : String) :
    Concludes c c.Owns False (fun _ e => e = .volumeCopied source destination)
      (c.copyVolume source destination) :=
  (Wordless.require _ _).bind fun _ => (Wordless.require _ _).bind fun _ =>
    (Wordless.execute (c.owns_namespace [copySource] rfl rfl (by decide))).bind fun _ => .told rfl

theorem createExport_concludes (path : String) :
    Concludes c c.Owns False (fun id e => e = .exportCreated path id) (c.createExport path) :=
  (Wordless.require _ _).bind fun _ =>
    (Wordless.query (c.owns_exports rfl rfl) Export.createdId).bind fun _ =>
      (Wordless.ofOption rfl _).bind fun _ => .told rfl

theorem removeExport_concludes (id : Int64) :
    Concludes c c.Owns False (fun _ e => e = .exportRemoved id) (c.removeExport id) :=
  (Wordless.require _ _).bind fun _ =>
    (Wordless.execute (c.owns_exports rfl rfl)).bind fun _ => .told rfl

theorem setQuota_concludes (path : String) (t : QuotaThresholds) :
    Concludes c c.Owns False (fun _ e => e = .quotaSet path t.hard) (c.setQuota path t) :=
  (Wordless.require _ _).bind fun _ =>
    (Wordless.execute (c.owns_quotas rfl rfl)).bind fun _ => .told rfl

theorem updateQuota_concludes (path : String) (t : QuotaThresholds) :
    Concludes c c.Owns False (fun _ e => ∃ id, e = .quotaUpdated path id t.hard)
      (c.updateQuota path t) :=
  (quota_wordless c path).bind fun q =>
    (Wordless.execute (c.owns_quotas rfl rfl)).bind fun _ => .told ⟨q.id, rfl⟩

theorem createSnapshot_concludes (path : String) (name : Option String) :
    Concludes c c.Owns False (fun s e => e = .snapshotCreated path s.id s.name)
      (c.createSnapshot path name) :=
  (Wordless.require _ _).bind fun _ =>
    (Wordless.query (c.owns_snapshots rfl rfl) Snapshot.reader).bind fun _ =>
      (Wordless.ofOption rfl _).bind fun _ => .told rfl

theorem copySnapshot_concludes (snapshot source destination : String) :
    Concludes c c.Owns False (fun _ e => e = .snapshotCopied snapshot source destination)
      (c.copySnapshot snapshot source destination) :=
  (Wordless.require _ _).bind fun _ =>
    (Wordless.execute (c.owns_namespace [copySource] rfl rfl (by decide))).bind fun _ => .told rfl

theorem removeSnapshot_concludes (id : Int64) :
    Concludes c c.Owns False (fun _ e => e = .snapshotRemoved id) (c.removeSnapshot id) :=
  (Wordless.require _ _).bind fun _ =>
    (Wordless.execute (c.owns_snapshots rfl rfl)).bind fun _ => .told rfl

end Connection

open Connection

/-- Whether a call tells what it has done. Those that only read do not, nor do those that replace
the clients of an export or remove a quota. -/
def ConnectionCall.isTold : ConnectionCall → Bool
  | .createVolume _ | .deleteVolume _ | .copyVolume _ _ => true
  | .createExport _ | .removeExport _ => true
  | .setQuota _ _ | .setQuotaHard _ _ | .updateQuota _ _ | .updateQuotaHard _ _ => true
  | .createSnapshot _ _ | .copySnapshot _ _ _ | .removeSnapshot _ => true
  | _ => false

/-- The events by which a call tells what it has done, by the value that it ends in. -/
def ConnectionCall.Tells : ConnectionCall → Value → Event → Prop
  | .createVolume name, _, e => e = .volumeCreated name
  | .deleteVolume name, _, e => e = .volumeDeleted name
  | .copyVolume source destination, _, e => e = .volumeCopied source destination
  | .createExport path, v, e => ∃ id, v = .ofInt64 id ∧ e = .exportCreated path id
  | .removeExport id, _, e => e = .exportRemoved id
  | .setQuota path t, _, e => e = .quotaSet path t.hard
  | .setQuotaHard path size, _, e => e = .quotaSet path (some size)
  | .updateQuota path t, _, e => ∃ id, e = .quotaUpdated path id t.hard
  | .updateQuotaHard path size, _, e => ∃ id, e = .quotaUpdated path id (some size)
  | .createSnapshot path _, v, e =>
    ∃ s : Snapshot, v = s.encode ∧ e = .snapshotCreated path s.id s.name
  | .copySnapshot name source destination, _, e => e = .snapshotCopied name source destination
  | .removeSnapshot id, _, e => e = .snapshotRemoved id
  | _, _, _ => False

/-- What a call asks for: something of the connection's own, unless its user says what. -/
def ConnectionCall.MayAsk (c : Connection) : ConnectionCall → Ask → Prop
  | .query ask => (ask = ·)
  | _ => c.Owns

/-- Every call of a connection is made of queries and tells at most what it has done. -/
theorem ConnectionCall.concludes (c : Connection) (call : ConnectionCall) :
    Concludes c (call.MayAsk c) (call.isTold = false) call.Tells (call.run c) := by
  cases call with
  | detectVersion => exact (detectVersion_wordless c).map _ (fun _ => rfl) fun _ _ => id
  | query ask =>
    have queried : Wordless c (ask = ·) (c.query ask anything) := .query rfl _
    exact queried.map _ (fun _ => rfl) fun _ _ => id
  | volumes => exact (volumes_wordless c).map _ (fun _ => rfl) fun _ _ => id
  | createVolume name =>
    exact (createVolume_concludes c name).map _ False.elim (fun _ _ => id)
  | volume name => exact (volume_wordless c name).map _ (fun _ => rfl) fun _ _ => id
  | deleteVolume name =>
    exact (deleteVolume_concludes c name).map _ False.elim (fun _ _ => id)
  | copyVolume source destination =>
    exact (copyVolume_concludes c source destination).map _ False.elim (fun _ _ => id)
  | exports => exact (exports_wordless c).map _ (fun _ => rfl) fun _ _ => id
  | exportById id => exact (exportById_wordless c id).map _ (fun _ => rfl) fun _ _ => False.elim
  | createExport path =>
    exact (createExport_concludes c path).map _ False.elim (fun id _ tell => ⟨id, rfl, tell⟩)
  | setExportClients id clients =>
    exact (setExportClients_wordless c id clients).map _ (fun _ => rfl) fun _ _ => False.elim
  | removeExport id =>
    exact (removeExport_concludes c id).map _ False.elim (fun _ _ tell => tell)
  | quotas => exact (quotas_wordless c).map _ (fun _ => rfl) fun _ _ => id
  | quota path => exact (quota_wordless c path).map _ (fun _ => rfl) fun _ _ => id
  | setQuota path t =>
    exact (setQuota_concludes c path t).map _ False.elim (fun _ _ => id)
  | setQuotaHard path size =>
    exact (setQuota_concludes c path (.ofHard size)).map _ False.elim (fun _ _ => id)
  | updateQuota path t =>
    exact (updateQuota_concludes c path t).map _ False.elim (fun _ _ => id)
  | updateQuotaHard path size =>
    exact (updateQuota_concludes c path (.ofHard size)).map _ False.elim (fun _ _ => id)
  | deleteQuota path => exact (deleteQuota_wordless c path).map _ (fun _ => rfl) fun _ _ => id
  | snapshots => exact (snapshots_wordless c).map _ (fun _ => rfl) fun _ _ => id
  | snapshot id => exact (snapshot_wordless c id).map _ (fun _ => rfl) fun _ _ => False.elim
  | createSnapshot path name =>
    exact (createSnapshot_concludes c path name).map _ False.elim (fun s _ tell => ⟨s, rfl, tell⟩)
  | copySnapshot name source destination =>
    exact (copySnapshot_concludes c name source destination).map _ False.elim (fun _ _ => id)
  | removeSnapshot id =>
    exact (removeSnapshot_concludes c id).map _ False.elim (fun _ _ tell => tell)

theorem ConnectionCall.level_of_tells {call : ConnectionCall} {v : Value} {e : Event}
    (tells : call.Tells v e) : e.level = .info := by
  cases call <;> first
    | exact tells.elim
    | cases tells; rfl
    | obtain ⟨_, rfl⟩ := tells; rfl
    | obtain ⟨_, -, rfl⟩ := tells; rfl

/-- Calls with something of the connection's own to ask for do nothing but ask for that. -/
theorem ConnectionCall.does (c : Connection) (call : ConnectionCall)
    (own : call.MayAsk c = c.Owns) : (call.run c).Does (c.Does c.Owns) := by
  have shape := call.concludes c
  rw [own] at shape
  refine shape.does fun v e tells => ?_
  have level := level_of_tells tells
  cases e with
  | request method url => cases level
  | _ => trivial

/-! ## Calls of clients -/

namespace Client

variable (c : Connection)

theorem does_volume (id name : String) : (Client.volume ⟨c⟩ id name).Does (c.Does c.Owns) :=
  .of_map (ConnectionCall.does c (.volume _) rfl)

theorem does_exports : c.exports.Does (c.Does c.Owns) :=
  .of_map (ConnectionCall.does c .exports rfl)

theorem does_snapshots : c.snapshots.Does (c.Does c.Owns) :=
  .of_map (ConnectionCall.does c .snapshots rfl)

theorem does_exportOf (id : Option Int64) (name : String) :
    (Client.exportOf ⟨c⟩ id name).Does (c.Does c.Owns) :=
  (does_exports c).bind fun _ => .done _

theorem does_publish (name : String) : (Client.publish ⟨c⟩ name).Does (c.Does c.Owns) := by
  have found : (Client.isExported ⟨c⟩ name).Does (c.Does c.Owns) :=
    (does_exports c).bind fun _ => .done _
  refine found.bind fun found => ?_
  cases found with
  | true => exact .noted trivial (.done _)
  | false =>
    have created := ConnectionCall.does c (.createExport (Client.path ⟨c⟩ name)) rfl
    exact created.of_map.bind fun _ => .done _

theorem does_setExportClients (name : String) (clients : List String) :
    (Client.setExportClients ⟨c⟩ name clients).Does (c.Does c.Owns) := by
  refine (does_exportOf c none name).bind fun found => ?_
  cases found with
  | none => exact .done _
  | some e => exact .of_map (ConnectionCall.does c (.setExportClients e.id clients) rfl)

theorem does_unpublish (name : String) : (Client.unpublish ⟨c⟩ name).Does (c.Does c.Owns) := by
  refine (does_exportOf c none name).bind fun found => ?_
  cases found with
  | none => exact .done _
  | some e => exact .of_map (ConnectionCall.does c (.removeExport e.id) rfl)

theorem does_snapshot (id : Int64) (name : String) :
    (Client.snapshot ⟨c⟩ id name).Does (c.Does c.Owns) := by
  have looked := ConnectionCall.does c (.snapshot id) rfl
  refine looked.of_map.attempt.bind fun found => ?_
  cases found with
  | ok s => exact .done _
  | error why =>
    dsimp only
    split
    · exact .fail _
    · exact .bind (.noted trivial (.done _)) fun _ => (does_snapshots c).bind fun _ => .done _

theorem does_requireSnapshot (id : Int64) (name : String) :
    (Client.requireSnapshot ⟨c⟩ id name).Does (c.Does c.Owns) :=
  (does_snapshot c id name).bind fun _ => .ofOption _ _

end Client

open Client

/-- Every call of a client does nothing but ask for what is its connection's own. Most are calls of
the connection, with the path of a volume. -/
theorem ClientCall.does (c : Connection) (call : ClientCall) :
    (call.run ⟨c⟩).Does (c.Does c.Owns) := by
  let own (call : ConnectionCall) (same : call.MayAsk c = c.Owns) := call.does c same
  cases call with
  | volume id name => exact own (.volume _) rfl
  | volumes => exact own .volumes rfl
  | createVolume name =>
    exact .map _ ((own (.createVolume name) rfl).of_map.bind fun _ => .done _)
  | deleteVolume name => exact own (.deleteVolume name) rfl
  | copyVolume source destination =>
    exact .map _ ((own (.copyVolume source destination) rfl).of_map.bind fun _ =>
      does_volume c destination destination)
  | exports => exact own .exports rfl
  | exportOf id name => exact (does_exportOf c id name).map _
  | isExported name => exact .map _ ((does_exports c).bind fun _ => .done _)
  | publish name => exact (does_publish c name).map _
  | publishVolume name => exact (does_publish c name).map _
  | exportClients name => exact .map _ ((does_exportOf c none name).bind fun _ => .done _)
  | setExportClients name clients => exact (does_setExportClients c name clients).map _
  | clearExportClients name => exact (does_setExportClients c name []).map _
  | unpublish name => exact (does_unpublish c name).map _
  | unpublishVolume name => exact (does_unpublish c name).map _
  | volumeExports =>
    exact .map _ ((does_exports c).bind fun _ =>
      (own .volumes rfl).of_map.bind fun _ => .done _)
  | quota name => exact own (.quota _) rfl
  | setQuota name t => exact own (.setQuota _ t) rfl
  | setQuotaSize name size => exact own (.setQuotaHard _ size) rfl
  | updateQuota name t => exact own (.updateQuota _ t) rfl
  | updateQuotaSize name size => exact own (.updateQuotaHard _ size) rfl
  | clearQuota name => exact own (.deleteQuota _) rfl
  | snapshots => exact own .snapshots rfl
  | snapshotsOf name => exact .map _ ((does_snapshots c).bind fun _ => .done _)
  | snapshot id name => exact (does_snapshot c id name).map _
  | createSnapshot v name => exact own (.createSnapshot _ (some name)) rfl
  | copySnapshot id name destination =>
    refine .map _ ((does_requireSnapshot c id name).bind fun s => ?_)
    exact (own (.copySnapshot s.name (nameFromPath s.path) destination) rfl).of_map.bind fun _ =>
      does_volume c destination destination
  | removeSnapshot id name =>
    exact .map _ ((does_requireSnapshot c id name).bind fun s =>
      (own (.removeSnapshot s.id) rfl).of_map)

end OneFs
