import OneFs.Proofs.Exchange.Sends
import OneFs.Proofs.Quota.Server
import OneFs.Proofs.Volume.Address

/-!
# Which quota is changed

The quota on a path is changed by its id, and that is looked up in the listing of all quotas. More
than one of them may have the path, of the directory, of users or of groups, and some may have no
id.

- `changesIn`, `changes_updateQuota`: the requests that change a quota, by the quota that was found;
- `Quota.id?`, `Connection.rawUrl_change`: the resource that they are sent to;
- `directoryQuotas`: the quotas that a change on a path is meant for;
- `updateQuota_changes_first`: the first quota on the path is changed, whichever that is.
-/

namespace OneFs

open Json Http Exchange Url Percent

variable {σ : Type} {answer : σ → Request → Delivery × σ} {s t : σ} {c : Connection}
  {quotas : List Quota} {path : String} {q : Quota}

/-! ## The request -/

/-- The requests in what happens that change something, in order. -/
def changesIn (steps : List Step) : List Request :=
  (requests steps).filter fun r => r.method = "PUT"

/-- What is asked to change a quota. -/
def Quota.changeAsk (v : Version) (q : Quota) (levels : QuotaThresholds) : Ask where
  method := "PUT"
  path := v.quotasPath
  id := some q.id
  body := some (change levels)

/-- Listing the quotas changes none. -/
theorem changes_quotas (c : Connection) (answer : σ → Request → Delivery × σ) (s : σ) :
    changesIn (c.quotas.run answer s).steps = [] := by
  have gets : c.quotas.Sends fun r => r.method = "GET" :=
    (c.query_sends_method _ _).bind fun _ => .done _
  refine List.filter_eq_nil_iff.mpr fun r hr => ?_
  rw [gets σ answer s r hr]
  decide

/-- Looking for a quota changes none. -/
theorem changes_quota (c : Connection) (path : String) (answer : σ → Request → Delivery × σ)
    (s : σ) : changesIn ((c.quota path).run answer s).steps = [] := by
  rw [← changes_quotas c answer s]
  refine congrArg (List.filter _) (Ends.requests_bind_silent answer s fun all t => ?_)
  cases all.find? fun q => q.path == path with
  | none => rfl
  | some q => rfl

/-- A request that changes a quota is one for the quota that was found. -/
theorem changes_updateQuota (listed : c.quotas.Ends answer s (.ok quotas) t)
    (found : quotas.find? (fun q => q.path == path) = some q) (levels : QuotaThresholds) :
    changesIn ((c.updateQuota path levels).run answer s).steps =
      (c.requestFor (q.changeAsk c.version levels)).toOption.toList := by
  have looked := changes_quota c path answer s
  have asked := c.execute_requests (q.changeAsk c.version levels) answer t
  unfold changesIn at looked ⊢
  unfold Connection.updateQuota
  rw [Ends.requests_bind (Connection.quota_found listed found), List.filter_append, looked,
    List.nil_append]
  have told : requests (((c.execute (q.changeAsk c.version levels) >>= fun _ =>
      Exchange.note (.quotaUpdated path q.id levels.hard))).run answer t).steps =
        requests ((c.execute (q.changeAsk c.version levels)).run answer t).steps :=
    Ends.requests_bind_silent answer t fun _ _ => rfl
  refine (congrArg (List.filter _) (told.trans asked)).trans ?_
  refine List.filter_eq_self.mpr fun r hr => ?_
  have request := Connection.mem_toList_requestFor.mp hr
  rw [Connection.method_of_requestFor request]
  rfl

/-! ## Its address -/

/-- The id of a quota, if it has one. -/
def Quota.id? (q : Quota) : Option String :=
  if q.id.isEmpty then none else some q.id

theorem Quota.id?_eq_none_iff : q.id? = none ↔ q.id = "" := by
  simp [id?]

theorem Quota.id?_eq_some_iff {id : String} : q.id? = some id ↔ q.id = id ∧ id ≠ "" := by
  unfold id?
  by_cases empty : q.id = ""
  · rw [empty]
    show none = some id ↔ _
    constructor
    · intro absent
      cases absent
    · rintro ⟨rfl, filled⟩
      exact absurd rfl filled
  · rw [if_neg (by simpa using empty)]
    constructor
    · intro named
      cases named
      exact ⟨rfl, empty⟩
    · rintro ⟨rfl, -⟩
      rfl

namespace Connection

/-- The resource of the quota of an id, or of all quotas. -/
def quotaAt (c : Connection) (id : Option String) : String :=
  resource c.version.quotasPath id

/-- The raw URL of a change: that of the quota, or of all quotas if it has no id. -/
theorem rawUrl_change (c : Connection) (q : Quota) (levels : QuotaThresholds) :
    c.rawUrl (q.changeAsk c.version levels).path (q.changeAsk c.version levels).id =
      String.ofList (c.endpoint.toList ++ '/' :: (c.quotaAt q.id?).toList) := by
  have named : c.rawUrl c.version.quotasPath (some q.id) = c.rawUrl c.version.quotasPath q.id? := by
    unfold rawUrl Quota.id?
    by_cases empty : q.id.isEmpty = true
    · simp [empty]
    · simp [empty]
  obtain ⟨path, start⟩ := quotasPath_start c.version
  have filled : q.id? ≠ some "" := fun empty => (Quota.id?_eq_some_iff.mp empty).2 rfl
  have raw := @rawUrl_resource c ⟨"PUT", c.version.quotasPath, q.id?, [], [], none⟩ 'p' path start
    (by decide) filled
  refine named.trans (raw.trans (String.toList_injective ?_))
  unfold quotaAt
  simp

/-- What is for the quota of one id is for no other, and not for all quotas. -/
theorem Reaches.quotaAt_iff {a b : Option String} {r : Request} (here : c.Reaches (c.quotaAt a) r) :
    c.Reaches (c.quotaAt b) r ↔ b = a := by
  constructor
  · intro there
    exact resource_injective (there.unique here)
  · rintro rfl
    exact here

end Connection

/-! ## The quota that is changed -/

/-- The listed quotas that a change on a path is meant for: those of the directory itself that have
an id. -/
def directoryQuotas (path : String) (quotas : List Quota) : List Quota :=
  quotas.filter fun q => q.path = path ∧ q.isDirectory ∧ q.id ≠ ""

/-- A change is sent for the first listed quota on the path, whatever that applies to and whether it
has an id or not. If no listed quota has the path, the change fails and no request for one is sent.
Else the request, if there is one, is for what the id of that quota names just if this makes up a
plain path behind an endpoint that is a URL; and then it is for the quotas as a whole just if there
is no id, and for a quota of the directory just if one of those has that id. -/
theorem updateQuota_changes_first {config : Config}
    (configured : Connection.ofConfig config = .ok c)
    (marks : ∀ x ∈ config.endpoint.toList, x ≠ '?' ∧ x ≠ '#')
    (listed : c.quotas.Ends answer s (.ok quotas) t) (path : String) (levels : QuotaThresholds) :
    ((∀ q ∈ quotas, q.path ≠ path) →
      (c.updateQuota path levels).Ends answer s
          (.error (.notFound ("Quota not found: " ++ path))) t ∧
        changesIn ((c.updateQuota path levels).run answer s).steps = []) ∧
    ∀ q, quotas.find? (fun q => q.path == path) = some q →
      changesIn ((c.updateQuota path levels).run answer s).steps =
        (c.requestFor (q.changeAsk c.version levels)).toOption.toList ∧
      ∀ r ∈ changesIn ((c.updateQuota path levels).run answer s).steps,
        (c.Reaches (c.quotaAt q.id?) r ↔
          c.base?.isSome = true ∧ PlainPath (c.quotaAt q.id?).toList) ∧
        (c.Reaches (c.quotaAt q.id?) r →
          (c.Reaches (c.quotaAt none) r ↔ q.id = "") ∧
          ((∃ d ∈ directoryQuotas path quotas, c.Reaches (c.quotaAt (some d.id)) r) ↔
            ∃ d ∈ directoryQuotas path quotas, d.id = q.id)) := by
  constructor
  · intro absent
    have missing := Connection.quota_missing listed absent
    refine ⟨missing.bind_error, ?_⟩
    rw [← changes_quota c path answer s]
    exact congrArg (List.filter _) missing.requests_bind_error
  · intro q found
    have changes := changes_updateQuota listed found levels
    refine ⟨changes, fun r hr => ?_⟩
    rw [changes] at hr
    have request := Connection.mem_toList_requestFor.mp hr
    refine ⟨?_, fun here => ⟨?_, exists_congr fun d => and_congr_right fun hd => ?_⟩⟩
    · exact Connection.reaches_iff_plain (Connection.endpoint_marks configured marks)
        (c.rawUrl_change q levels) request
    · rw [here.quotaAt_iff, eq_comm, Quota.id?_eq_none_iff]
    · have filled : d.id ≠ "" := by
        have named := (List.mem_filter.mp hd).2
        simp only [decide_eq_true_eq] at named
        exact named.2.2
      rw [here.quotaAt_iff, eq_comm, Quota.id?_eq_some_iff, eq_comm]
      exact and_iff_left filled

/-- A listing with the quota of a directory behind another one on its path, of which more may be
said. -/
def listedBehind (more : String) : Incoming :=
  .message 200 (Text.Utf8.bytes ("\x7b\x22quotas\x22: [\x7b\x22path\x22: \x22/ifs/volumes/a\x22" ++
    more ++ "\x7d, \x7b\x22id\x22: \x22d1\x22, \x22path\x22: \x22/ifs/volumes/a\x22, " ++
    "\x22type\x22: \x22directory\x22\x7d]\x7d")) true

/-- What is listed in front of it: the quota of a user, or one that has no id. -/
def listedFirst : List (String × Option String) :=
  [(", \x22id\x22: \x22u1\x22, \x22type\x22: \x22user\x22", some "u1"), ("", none)]

/-- The quota of the user is changed in place of that of the directory. If there is no id, a change
is asked of all quotas. -/
theorem updateQuota_changes_other :
    listedFirst.map Prod.snd = [some "u1", none] ∧ ∀ other ∈ listedFirst, ∃ quotas,
      localConnection.quotas.Ends (replies .closed) [listedBehind other.1] (.ok quotas) [] ∧
        (directoryQuotas "/ifs/volumes/a" quotas).map Quota.id = ["d1"] ∧
        ∃ r ∈ changesIn ((localConnection.updateQuota "/ifs/volumes/a" (.ofHard 5)).run
            (replies .closed) [listedBehind other.1]).steps,
          localConnection.Reaches (localConnection.quotaAt other.2) r ∧
            ¬ ∃ d ∈ directoryQuotas "/ifs/volumes/a" quotas,
              localConnection.Reaches (localConnection.quotaAt (some d.id)) r := by
  have configured :
      Connection.ofConfig (.new "http://[::1]:8080/" "admin" "secret") = .ok localConnection := rfl
  have unmarked : ∀ x ∈ "http://[::1]:8080/".toList, x ≠ '?' ∧ x ≠ '#' :=
    List.all_iff_forall_prop.mp (by decide)
  -- What is listed, and where a change of the first of it goes.
  have views : ∀ other ∈ listedFirst,
      let run := localConnection.quotas.run (replies .closed) [listedBehind other.1]
      (run.result.toOption.map fun quotas =>
        ((quotas.find? fun q => q.path == "/ifs/volumes/a").map Quota.id,
          (directoryQuotas "/ifs/volumes/a" quotas).map Quota.id), run.server) =
        (some (some (other.2.getD ""), ["d1"]), []) := by
    decide +kernel
  have addresses : ∀ other ∈ listedFirst,
      ((localConnection.requestFor ⟨"PUT", localConnection.version.quotasPath,
        some (other.2.getD ""), [], [], some (Quota.change (.ofHard 5))⟩).toOption.map
          fun r => decode r.url.pathText.toList) =
        some (0x2F :: Text.Utf8.bytes (localConnection.quotaAt other.2)) := by
    decide +kernel
  have base : localConnection.base? = some [] := by decide +kernel
  refine ⟨rfl, fun other mem => ?_⟩
  obtain ⟨quotas, listed, view⟩ := Ends.exists_of_view (views other mem)
  obtain ⟨first, ids⟩ := Prod.mk.inj view
  obtain ⟨q, found, named⟩ := Option.map_eq_some_iff.mp first
  obtain ⟨r, request, address⟩ := Option.map_eq_some_iff.mp (addresses other mem)
  rw [← named] at request
  have changed := (updateQuota_changes_first configured unmarked listed "/ifs/volumes/a"
    (.ofHard 5)).2 q found
  have sent := changed.1 ▸ Option.mem_toList.mpr request
  have here : localConnection.Reaches (localConnection.quotaAt other.2) r := ⟨[], base, address⟩
  refine ⟨quotas, listed, ids, r, sent, here, fun there => ?_⟩
  -- Only the quota that was found is addressed, and that has another id.
  have different : ∀ other ∈ listedFirst, other.2 ≠ some "d1" := by decide
  obtain ⟨d, hd, reached⟩ := there
  have only : d.id = "d1" := List.mem_singleton.mp (ids ▸ List.mem_map_of_mem hd)
  rw [only] at reached
  exact different other mem (here.quotaAt_iff.mp reached).symm

end OneFs
