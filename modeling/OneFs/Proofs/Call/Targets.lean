import OneFs.Call
import OneFs.Proofs.Exchange.Ends
import OneFs.Proofs.Volume.Address

/-!
# Calls without a target

A call that is given an empty name, an empty path or no id has nothing to act on. Most calls refuse
that and send nothing. The others do not look at what they are given: those of a client that go by
the path of a volume, since a path is never empty, and those of a connection that look for a quota.

- `Call.lacksTarget`: the calls without a target;
- `Call.unchecked?`: what those that do not look at their target begin with;
- `Exchange.Refused`, `Connection.Opens`: plans that fail at once over an argument, and plans that
  begin with a query, with one lemma for each way of putting plans together;
- `ConnectionCall.refused`, `ClientCall.refused`, `ConnectionCall.opens`, `ClientCall.opens`: the
  calls of either kind;
- `refused_iff_checked`: which calls without a target send nothing.
-/

namespace OneFs

open Json Http Exchange

variable {α β σ : Type}

/-! ## Targets -/

/-- Whether what a call of a connection is to act on is empty, or is the id zero. -/
def ConnectionCall.lacksTarget : ConnectionCall → Bool
  | .createVolume name => name.isEmpty
  | .volume name => name.isEmpty
  | .deleteVolume name => name.isEmpty
  | .copyVolume source destination => source.isEmpty || destination.isEmpty
  | .exportById id => id == 0
  | .createExport path => path.isEmpty
  | .setExportClients id _ => id == 0
  | .removeExport id => id == 0
  | .quota path => path.isEmpty
  | .setQuota path _ => path.isEmpty
  | .setQuotaHard path _ => path.isEmpty
  | .updateQuota path _ => path.isEmpty
  | .updateQuotaHard path _ => path.isEmpty
  | .deleteQuota path => path.isEmpty
  | .snapshot id => id == 0
  | .createSnapshot path _ => path.isEmpty
  | .copySnapshot name source destination =>
    name.isEmpty || source.isEmpty || destination.isEmpty
  | .removeSnapshot id => id == 0
  | _ => false

/-- Whether the volume that a call of a client is to act on has an empty name. -/
def ClientCall.lacksTarget : ClientCall → Bool
  | .volume id name => id.isEmpty && name.isEmpty
  | .createVolume name => name.isEmpty
  | .deleteVolume name => name.isEmpty
  | .copyVolume source destination => source.isEmpty || destination.isEmpty
  | .publish name => name.isEmpty
  | .publishVolume name => name.isEmpty
  | .exportClients name => name.isEmpty
  | .setExportClients name _ => name.isEmpty
  | .clearExportClients name => name.isEmpty
  | .unpublish name => name.isEmpty
  | .unpublishVolume name => name.isEmpty
  | .quota name => name.isEmpty
  | .setQuota name _ => name.isEmpty
  | .setQuotaSize name _ => name.isEmpty
  | .updateQuota name _ => name.isEmpty
  | .updateQuotaSize name _ => name.isEmpty
  | .clearQuota name => name.isEmpty
  | .createSnapshot v _ => v.isEmpty
  | _ => false

/-- Whether a call has nothing to act on. -/
def Call.lacksTarget : Call → Bool
  | .ofConnection call => call.lacksTarget
  | .ofClient call => call.lacksTarget

namespace Version

/-- Asking for all exports. -/
def askExports (v : Version) : Ask :=
  { method := "GET", path := v.exportsPath }

/-- Asking for all quotas. -/
def askQuotas (v : Version) : Ask :=
  { method := "GET", path := v.quotasPath }

/-- Putting a quota on a path. -/
def askQuotaOn (v : Version) (path : String) (t : QuotaThresholds) : Ask :=
  { method := "POST", path := v.quotasPath, body := some (Quota.creation path t) }

/-- Removing the quota on a path. -/
def askQuotaOff (v : Version) (path : String) : Ask :=
  { method := "DELETE", path := v.quotasPath, params := [("path", path)] }

/-- Taking a snapshot of a path. -/
def askSnapshotOf (v : Version) (path : String) (name : Option String) : Ask :=
  { method := "POST", path := v.snapshotsPath, body := some (Snapshot.creation path name) }

end Version

/-- What a call of a connection asks for first that does not look at what it is to act on. -/
def ConnectionCall.unchecked? (v : Version) : ConnectionCall → Option Ask
  | .quota _ => some v.askQuotas
  | .updateQuota _ _ => some v.askQuotas
  | .updateQuotaHard _ _ => some v.askQuotas
  | _ => none

/-- The same for a call of a client: all that go by the path of a volume. -/
def ClientCall.unchecked? (c : Client) : ClientCall → Option Ask
  | .publish _ => some c.api.version.askExports
  | .publishVolume _ => some c.api.version.askExports
  | .exportClients _ => some c.api.version.askExports
  | .setExportClients _ _ => some c.api.version.askExports
  | .clearExportClients _ => some c.api.version.askExports
  | .unpublish _ => some c.api.version.askExports
  | .unpublishVolume _ => some c.api.version.askExports
  | .quota _ => some c.api.version.askQuotas
  | .setQuota name t => some (c.api.version.askQuotaOn (c.path name) t)
  | .setQuotaSize name size => some (c.api.version.askQuotaOn (c.path name) (.ofHard size))
  | .updateQuota _ _ => some c.api.version.askQuotas
  | .updateQuotaSize _ _ => some c.api.version.askQuotas
  | .clearQuota name => some (c.api.version.askQuotaOff (c.path name))
  | .createSnapshot v name => some (c.api.version.askSnapshotOf (c.path v) (some name))
  | _ => none

/-- The same for any call. -/
def Call.unchecked? (c : Client) : Call → Option Ask
  | .ofConnection call => call.unchecked? c.api.version
  | .ofClient call => call.unchecked? c

/-! ## Plans that are refused -/

/-- The plan fails at once over an argument. -/
def Exchange.Refused (x : Exchange α) : Prop :=
  ∃ what, x = .failed (.invalidArgument what)

namespace Exchange.Refused

protected theorem bind {x : Exchange α} (h : x.Refused) (k : α → Exchange β) :
    (x >>= k).Refused := by
  obtain ⟨what, rfl⟩ := h
  exact ⟨what, rfl⟩

protected theorem map {x : Exchange α} (f : α → β) (h : x.Refused) : (f <$> x).Refused := by
  rw [map_eq_pure_bind]
  exact h.bind _

/-- What must be present and is not. -/
protected theorem require {present : Bool} (absent : present = false) (what : String) :
    (Connection.require present what).Refused := by
  rw [absent]
  exact ⟨what, rfl⟩

/-- Nothing happens in the run of such a plan. -/
theorem run_eq {x : Exchange α} (h : x.Refused) :
    ∃ what, ∀ (σ : Type) (answer : σ → Request → Delivery × σ) (server : σ),
      x.run answer server = ⟨.error (.invalidArgument what), [], server⟩ := by
  obtain ⟨what, rfl⟩ := h
  exact ⟨what, fun _ _ _ => rfl⟩

end Exchange.Refused

namespace Connection

theorem requireName_refused {name : String} (empty : name.isEmpty = true) :
    (requireName name).Refused :=
  .require (by rw [empty]; rfl) _

theorem requirePath_refused {path : String} (empty : path.isEmpty = true) :
    (requirePath path).Refused :=
  .require (by rw [empty]; rfl) _

theorem requireExportId_refused {id : Int64} (zero : (id == 0) = true) :
    (requireExportId id).Refused :=
  .require (by rw [bne, zero]; rfl) _

theorem requireSnapshotId_refused {id : Int64} (zero : (id == 0) = true) :
    (requireSnapshotId id).Refused :=
  .require (by rw [bne, zero]; rfl) _

theorem copyVolume_refused (c : Connection) {source destination : String}
    (empty : (source.isEmpty || destination.isEmpty) = true) :
    (c.copyVolume source destination).Refused := by
  unfold copyVolume
  cases absent : source.isEmpty with
  | true => exact (requireName_refused absent).bind _
  | false =>
    rw [absent, Bool.false_or] at empty
    have present : requireName source = .done () := by
      unfold requireName require
      rw [absent]
      rfl
    rw [present]
    exact (requireName_refused empty).bind _

theorem copySnapshot_refused (c : Connection) {snapshot source destination : String}
    (empty : (snapshot.isEmpty || source.isEmpty || destination.isEmpty) = true) :
    (c.copySnapshot snapshot source destination).Refused := by
  refine .bind (.require ?_ _) _
  rw [← Bool.not_or, ← Bool.not_or, empty]
  rfl

end Connection

/-! ## Plans that begin with a query -/

/-- The plan begins with asking. -/
def Connection.Opens (c : Connection) (ask : Ask) (x : Exchange α) : Prop :=
  ∃ (γ : Type) (r : Reader γ) (k : Option γ → Exchange α), x = c.query ask r >>= k

namespace Connection.Opens

variable {c : Connection} {ask : Ask}

protected theorem query (r : Reader α) : c.Opens ask (c.query ask r) :=
  ⟨α, r, .done, (bind_done _).symm⟩

protected theorem bind {x : Exchange α} (h : c.Opens ask x) (k : α → Exchange β) :
    c.Opens ask (x >>= k) := by
  obtain ⟨γ, r, l, rfl⟩ := h
  exact ⟨γ, r, fun o => l o >>= k, Exchange.bind_assoc _ _ _⟩

protected theorem map {x : Exchange α} (f : α → β) (h : c.Opens ask x) : c.Opens ask (f <$> x) := by
  rw [map_eq_pure_bind]
  exact h.bind _

protected theorem execute : c.Opens ask (c.execute ask) :=
  (Opens.query ignored).bind _

variable {x : Exchange α} (answer : σ → Request → Delivery × σ) (server : σ)

/-- The request for what is asked is the first that is sent. -/
theorem requests_eq (h : c.Opens ask x) {req : Request} (request : c.requestFor ask = .ok req) :
    ∃ later, requests (x.run answer server).steps = req :: later := by
  obtain ⟨γ, r, k, rfl⟩ := h
  have sent : requests ((c.query ask r).run answer server).steps = [req] := by
    rw [query_requests, request]
    rfl
  cases result : ((c.query ask r).run answer server).result with
  | error f => exact ⟨[], (Ends.requests_bind_error ⟨result, rfl⟩).trans sent⟩
  | ok o =>
    have all := Ends.requests_bind (k := k) ⟨result, rfl⟩
    rw [sent] at all
    exact ⟨_, all⟩

/-- If there is no such request, the plan fails for that reason. -/
theorem result_eq (h : c.Opens ask x) {f : Failure} (request : c.requestFor ask = .error f) :
    (x.run answer server).result = .error f := by
  obtain ⟨γ, r, k, rfl⟩ := h
  exact (query_unsent request).bind_error.result_eq

end Connection.Opens

/-- No argument is to blame for a request that cannot be made. -/
theorem Connection.requestFor_ne_invalidArgument (c : Connection) (ask : Ask) (what : String) :
    c.requestFor ask ≠ .error (.invalidArgument what) := by
  unfold requestFor url
  dsimp only
  cases Url.parse (c.rawUrl ask.path ask.id) with
  | error fault => exact fun h => by cases h
  | ok u =>
    dsimp only
    cases prepare c.options ask.method (u.withPairs ask.params) c.authorization ask.headers
        ((ask.body.map Value.text).map Text.Utf8.bytes) with
    | error fault => exact fun h => by cases h
    | ok r => exact fun h => by cases h

namespace Connection

variable (c : Connection)

theorem exports_opens : c.Opens c.version.askExports c.exports :=
  (Opens.query ExportList.reader).bind _

theorem quotas_opens : c.Opens c.version.askQuotas c.quotas :=
  (Opens.query Quota.listing).bind _

theorem quota_opens (path : String) : c.Opens c.version.askQuotas (c.quota path) :=
  c.quotas_opens.bind _

theorem updateQuota_opens (path : String) (t : QuotaThresholds) :
    c.Opens c.version.askQuotas (c.updateQuota path t) :=
  (c.quota_opens path).bind _

end Connection

namespace Client

variable (c : Client)

theorem exportOf_opens (id : Option Int64) (name : String) :
    c.api.Opens c.api.version.askExports (c.exportOf id name) :=
  c.api.exports_opens.bind _

theorem setExportClients_opens (name : String) (clients : List String) :
    c.api.Opens c.api.version.askExports (c.setExportClients name clients) :=
  (c.exportOf_opens none name).bind _

/-- The path of a volume passes for a path whatever the name. -/
theorem requirePath_path (name : String) : Connection.requirePath (c.path name) = .done () := by
  have filled : (c.path name).isEmpty = false := by
    rw [← Bool.not_eq_true, String.isEmpty_iff]
    exact c.path_ne_empty name
  unfold Connection.requirePath Connection.require
  rw [filled]
  rfl

theorem setQuota_opens (name : String) (t : QuotaThresholds) :
    c.api.Opens (c.api.version.askQuotaOn (c.path name) t) (c.setQuota name t) := by
  unfold setQuota Connection.setQuota
  rw [c.requirePath_path name, Exchange.done_bind]
  exact Connection.Opens.execute.bind _

theorem clearQuota_opens (name : String) :
    c.api.Opens (c.api.version.askQuotaOff (c.path name)) (c.clearQuota name) := by
  unfold clearQuota Connection.deleteQuota
  rw [c.requirePath_path name, Exchange.done_bind]
  exact Connection.Opens.execute

theorem createSnapshot_opens (v name : String) :
    c.api.Opens (c.api.version.askSnapshotOf (c.path v) (some name)) (c.createSnapshot v name) := by
  unfold createSnapshot Connection.createSnapshot
  rw [c.requirePath_path v, Exchange.done_bind]
  exact (Connection.Opens.query Snapshot.reader).bind _

end Client

/-! ## The calls of either kind -/

open Connection

namespace ConnectionCall

/-- The calls of a connection that look at what they are to act on are refused. -/
theorem refused (c : Connection) {call : ConnectionCall} (lacks : call.lacksTarget = true)
    (checked : call.unchecked? c.version = none) : (call.run c).Refused := by
  cases call with
  | createVolume name => exact ((requireName_refused lacks).bind _).map _
  | volume name => exact ((requireName_refused lacks).bind _).map _
  | deleteVolume name => exact ((requireName_refused lacks).bind _).map _
  | copyVolume source destination => exact (c.copyVolume_refused lacks).map _
  | exportById id => exact ((requireExportId_refused lacks).bind _).map _
  | createExport path => exact ((requirePath_refused lacks).bind _).map _
  | setExportClients id clients => exact ((requireExportId_refused lacks).bind _).map _
  | removeExport id => exact ((requireExportId_refused lacks).bind _).map _
  | setQuota path t => exact ((requirePath_refused lacks).bind _).map _
  | setQuotaHard path size => exact ((requirePath_refused lacks).bind _).map _
  | deleteQuota path => exact ((requirePath_refused lacks).bind _).map _
  | snapshot id => exact ((requireSnapshotId_refused lacks).bind _).map _
  | createSnapshot path name => exact ((requirePath_refused lacks).bind _).map _
  | copySnapshot snapshot source destination =>
    exact (c.copySnapshot_refused lacks).map _
  | removeSnapshot id => exact ((requireSnapshotId_refused lacks).bind _).map _
  | quota path => cases checked
  | updateQuota path t => cases checked
  | updateQuotaHard path size => cases checked
  | detectVersion => cases lacks
  | query ask => cases lacks
  | volumes => cases lacks
  | exports => cases lacks
  | quotas => cases lacks
  | snapshots => cases lacks

/-- The others begin with what they ask for. -/
theorem opens (c : Connection) {call : ConnectionCall} {ask : Ask}
    (unchecked : call.unchecked? c.version = some ask) : c.Opens ask (call.run c) := by
  cases call with
  | quota path => cases unchecked; exact (c.quota_opens path).map _
  | updateQuota path t => cases unchecked; exact (c.updateQuota_opens path t).map _
  | updateQuotaHard path size =>
    cases unchecked
    exact (c.updateQuota_opens path (.ofHard size)).map _
  | _ => cases unchecked

end ConnectionCall

namespace ClientCall

/-- The calls of a client that look at the name of a volume are refused. -/
theorem refused (c : Client) {call : ClientCall} (lacks : call.lacksTarget = true)
    (checked : call.unchecked? c = none) : (call.run c).Refused := by
  cases call with
  | volume id name =>
    obtain ⟨noId, noName⟩ := Bool.and_eq_true_iff.mp lacks
    have empty : (if id.isEmpty then name else id).isEmpty = true := by
      rw [noId, if_pos rfl]
      exact noName
    exact ((requireName_refused empty).bind _).map _
  | createVolume name => exact (((requireName_refused lacks).bind _).bind _).map _
  | deleteVolume name => exact ((requireName_refused lacks).bind _).map _
  | copyVolume source destination => exact ((c.api.copyVolume_refused lacks).bind _).map _
  | publish name => cases checked
  | publishVolume name => cases checked
  | exportClients name => cases checked
  | setExportClients name clients => cases checked
  | clearExportClients name => cases checked
  | unpublish name => cases checked
  | unpublishVolume name => cases checked
  | quota name => cases checked
  | setQuota name t => cases checked
  | setQuotaSize name size => cases checked
  | updateQuota name t => cases checked
  | updateQuotaSize name size => cases checked
  | clearQuota name => cases checked
  | createSnapshot volume name => cases checked
  | _ => cases lacks

/-- The others begin with what they ask for. -/
theorem opens (c : Client) {call : ClientCall} {ask : Ask}
    (unchecked : call.unchecked? c = some ask) : c.api.Opens ask (call.run c) := by
  cases call with
  | publish name => cases unchecked; exact ((c.api.exports_opens.bind _).bind _).map _
  | publishVolume name => cases unchecked; exact ((c.api.exports_opens.bind _).bind _).map _
  | exportClients name => cases unchecked; exact ((c.exportOf_opens none name).bind _).map _
  | setExportClients name clients =>
    cases unchecked
    exact (c.setExportClients_opens name clients).map _
  | clearExportClients name => cases unchecked; exact (c.setExportClients_opens name []).map _
  | unpublish name => cases unchecked; exact ((c.exportOf_opens none name).bind _).map _
  | unpublishVolume name => cases unchecked; exact ((c.exportOf_opens none name).bind _).map _
  | quota name => cases unchecked; exact (c.api.quota_opens (c.path name)).map _
  | setQuota name t => cases unchecked; exact (c.setQuota_opens name t).map _
  | setQuotaSize name size => cases unchecked; exact (c.setQuota_opens name (.ofHard size)).map _
  | updateQuota name t => cases unchecked; exact (c.api.updateQuota_opens (c.path name) t).map _
  | updateQuotaSize name size =>
    cases unchecked
    exact (c.api.updateQuota_opens (c.path name) (.ofHard size)).map _
  | clearQuota name => cases unchecked; exact (c.clearQuota_opens name).map _
  | createSnapshot v name => cases unchecked; exact (c.createSnapshot_opens v name).map _
  | _ => cases unchecked

end ClientCall

/-- Calls without a target. However the cluster is reached and answers, a call that has nothing to
act on is refused over its argument, with nothing sent, told or changed, just if it looks at what it
is to act on. The calls that do not look send the request for what they ask for first; that is so
for the calls of a client that go by the path of a volume, to which the empty name gives the path of
the directory of all volumes, and for the calls of a connection that look for the quota on a path.
-/
theorem refused_iff_checked (c : Client) (call : Call) (lacks : call.lacksTarget = true)
    (answer : σ → Request → Delivery × σ) (server : σ) :
    ((∃ what, (call.run c).run answer server = ⟨.error (.invalidArgument what), [], server⟩) ↔
      call.unchecked? c = none) ∧
    ∀ ask, call.unchecked? c = some ask → ∀ req, c.api.requestFor ask = .ok req →
      ∃ later, requests ((call.run c).run answer server).steps = req :: later := by
  have opens : ∀ ask, call.unchecked? c = some ask → c.api.Opens ask (call.run c) := by
    intro ask unchecked
    cases call with
    | ofConnection call => exact call.opens c.api unchecked
    | ofClient call => exact call.opens c unchecked
  refine ⟨⟨fun refused => ?_, fun checked => ?_⟩, fun ask unchecked req request => ?_⟩
  · obtain ⟨what, run⟩ := refused
    cases unchecked : call.unchecked? c with
    | none => rfl
    | some ask =>
      -- A call that begins with a query sends its request, or fails since there is none.
      exfalso
      cases request : c.api.requestFor ask with
      | ok req =>
        obtain ⟨later, sent⟩ := (opens ask unchecked).requests_eq answer server request
        rw [run] at sent
        cases sent
      | error f =>
        have failed := (opens ask unchecked).result_eq answer server request
        rw [run] at failed
        cases failed
        exact c.api.requestFor_ne_invalidArgument ask what request
  · have refused : (call.run c).Refused := by
      cases call with
      | ofConnection call => exact call.refused c.api lacks checked
      | ofClient call => exact call.refused c lacks checked
    obtain ⟨what, run⟩ := refused.run_eq
    exact ⟨what, run σ answer server⟩
  · exact (opens ask unchecked).requests_eq answer server request

/-- To delete the volume without a name is refused. To remove the quota of that volume is to have
the quota removed from the directory of all volumes. -/
theorem clearQuota_unchecked :
    (∃ what, ((Call.ofClient (.deleteVolume "")).run ⟨localConnection⟩).run (replies .closed) [] =
      ⟨.error (.invalidArgument what), [], []⟩) ∧
    (¬ ∃ what, ((Call.ofClient (.clearQuota "")).run ⟨localConnection⟩).run (replies .closed) [] =
      ⟨.error (.invalidArgument what), [], []⟩) ∧
    ∃ req later, requests (((Call.ofClient (.clearQuota "")).run ⟨localConnection⟩).run
        (replies .closed) []).steps = req :: later ∧
      (req.method, req.url.target) =
        ("DELETE", "/platform/1/quota/quotas?path=%2Fifs%2Fvolumes%2F") := by
  have delete := refused_iff_checked ⟨localConnection⟩ (.ofClient (.deleteVolume "")) (by decide)
    (replies .closed) []
  have clear := refused_iff_checked ⟨localConnection⟩ (.ofClient (.clearQuota "")) (by decide)
    (replies .closed) []
  have target : (localConnection.requestFor (localConnection.version.askQuotaOff
      ((Client.mk localConnection).path ""))).toOption.map (fun r => (r.method, r.url.target)) =
        some ("DELETE", "/platform/1/quota/quotas?path=%2Fifs%2Fvolumes%2F") := by
    decide +kernel
  obtain ⟨req, request, shown⟩ := Option.map_eq_some_iff.mp target
  refine ⟨delete.1.mpr rfl, fun refused => ?_, ?_⟩
  · cases clear.1.mp refused
  · cases made : localConnection.requestFor (localConnection.version.askQuotaOff
        ((Client.mk localConnection).path "")) with
    | error f => rw [made] at request; cases request
    | ok req' =>
      rw [made] at request
      obtain rfl : req' = req := Option.some.inj request
      obtain ⟨later, sent⟩ := clear.2 _ rfl req' made
      exact ⟨req', later, sent, shown⟩

end OneFs
