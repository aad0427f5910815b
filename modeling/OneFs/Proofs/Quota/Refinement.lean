import OneFs.Proofs.Quota.FiniteMap
import OneFs.Proofs.Quota.Memory

/-!
# Calls on quotas refine a finite map

Against an ideal server, calls on the quotas of volumes do to what the server holds what they mean
on the finite map from paths to levels, one call at a time and any number of them. The exceptions
are calls for whose URLs there is no room on the wire: these fail and leave everything as it is.

- `QuotaCall.run_does`: what a single call does;
- `QuotaCall.runAll`, `QuotaCall.meanings`: calls one after another, on a server and on a map;
- `QuotaCall.runAll_refines`: the run of calls;
- `quotaCalls_refine_map`: the same for configured clients;
- `clearQuota_overlong`: quotas that cannot be removed.
-/

namespace OneFs

open Json Http Url Connection

variable {σ : Type} {S : QuotaServer σ} {s : σ} {c : Client}

/-! ## Single calls -/

namespace QuotaCall

variable {room : Nat}

theorem run_set (name : String) (limits : Limits) : (QuotaCall.set name limits).run c =
    (fun _ => .done) <$> c.api.setQuota (c.path name) limits.thresholds := by
  cases limits <;> rfl

theorem run_update (name : String) (limits : Limits) : (QuotaCall.update name limits).run c =
    (fun _ => .done) <$> c.api.updateQuota (c.path name) limits.thresholds := by
  cases limits <;> rfl

/-- There is a quota on a path or there is none. -/
theorem there_or_absent (qs : List HeldQuota) (path : String) :
    (∃ q ∈ qs, q.path = path) ∨ ∀ q ∈ qs, q.path ≠ path := by
  by_cases there : ∃ q ∈ qs, q.path = path
  · exact .inl there
  · exact .inr fun q hq same => there ⟨q, hq, same⟩

/-- A volume gets a quota unless it has one. -/
theorem set_does (site : c.api.AtSite room) (ideal : S.Ideal c.api.version)
    (shaped : ShapedQuotas (S.held s)) (name : String) (limits : Limits) :
    ∃ result t, ((QuotaCall.set name limits).run c).Ends S.answer s result t ∧
      (QuotaCall.set name limits).Does c (S.held s) result (S.held t) := by
  have filled := c.path_ne_empty name
  rw [run_set]
  by_cases fits : (QuotaCall.set name limits).Fits c (S.held s)
  · have listed := (fits_of_resource rfl).mp fits
    rcases there_or_absent (S.held s) (c.path name) with there | absent
    · obtain ⟨r, t, refused, status, kept⟩ :=
        setQuota_refused site ideal shaped listed filled limits.thresholds there
      refine ⟨_, t, refused.map_error _, .of_fits fits ?_⟩
      rw [kept]
      exact .refused name limits r status there
    · obtain ⟨id, t, set, valid, fresh, added⟩ :=
        setQuota_ends site ideal shaped listed filled limits.thresholds absent
      refine ⟨_, t, set.map _, .of_fits fits ?_⟩
      rw [added]
      exact .added name limits id absent valid fresh
  · have long := mt (fits_of_resource rfl).mpr fits
    obtain ⟨u, unsent⟩ := setQuota_unsent site S.answer long filled limits.thresholds
    exact ⟨_, s, unsent.map_error _, .of_long fits u⟩

/-- The quota of a volume gets other levels, if there is one. -/
theorem update_does (site : c.api.AtSite room) (ideal : S.Ideal c.api.version)
    (shaped : ShapedQuotas (S.held s)) (name : String) (limits : Limits) :
    ∃ result t, ((QuotaCall.update name limits).run c).Ends S.answer s result t ∧
      (QuotaCall.update name limits).Does c (S.held s) result (S.held t) := by
  rw [run_update]
  by_cases listed : c.api.Fits (quotaResource c.api.version none [])
  · rcases there_or_absent (S.held s) (c.path name) with ⟨q, mem, here⟩ | absent
    · by_cases reachable : c.api.Fits (quotaResource c.api.version (some q.id) [])
      · obtain ⟨t, updated, replaced⟩ :=
          updateQuota_ends site ideal shaped listed mem reachable limits.thresholds
        rw [here] at updated replaced
        have fits : (QuotaCall.update name limits).Fits c (S.held s) := by
          refine fits_update.mpr ⟨listed, fun p hp there => ?_⟩
          rw [shaped.unique hp mem (there.trans here.symm)]
          exact reachable
        refine ⟨_, t, updated.map _, .of_fits fits ?_⟩
        rw [replaced]
        exact .replaced name limits ⟨q, mem, here⟩
      · obtain ⟨u, t, unsent, kept⟩ :=
          updateQuota_unsent site ideal shaped listed mem reachable limits.thresholds
        rw [here] at unsent
        have long : ¬ (QuotaCall.update name limits).Fits c (S.held s) :=
          fun fits => reachable ((fits_update.mp fits).2 q mem here)
        refine ⟨_, t, unsent.map_error _, ?_⟩
        rw [kept]
        exact .of_long long u
    · obtain ⟨t, missing, kept⟩ :=
        updateQuota_missing site ideal shaped listed absent limits.thresholds
      have fits : (QuotaCall.update name limits).Fits c (S.held s) :=
        fits_update.mpr ⟨listed, fun q mem here => absurd here (absent q mem)⟩
      refine ⟨_, t, missing.map_error _, .of_fits fits ?_⟩
      rw [kept]
      exact .missing name limits absent
  · obtain ⟨u, unsent⟩ := quotas_unsent site S.answer listed
    have long : ¬ (QuotaCall.update name limits).Fits c (S.held s) :=
      fun fits => listed (fits_update.mp fits).1
    exact ⟨_, s, unsent.bind_error.bind_error.map_error _, .of_long long u⟩

/-- The quota of a volume is removed, if there is one. -/
theorem clear_does (site : c.api.AtSite room) (ideal : S.Ideal c.api.version)
    (shaped : ShapedQuotas (S.held s)) (name : String) :
    ∃ result t, ((QuotaCall.clear name).run c).Ends S.answer s result t ∧
      (QuotaCall.clear name).Does c (S.held s) result (S.held t) := by
  have filled := c.path_ne_empty name
  by_cases fits : (QuotaCall.clear name).Fits c (S.held s)
  · have named := (fits_of_resource rfl).mp fits
    rcases there_or_absent (S.held s) (c.path name) with there | absent
    · obtain ⟨t, cleared, removed⟩ := deleteQuota_ends site ideal shaped filled named there
      refine ⟨_, t, cleared.map _, .of_fits fits ?_⟩
      rw [removed]
      exact .removed name there
    · obtain ⟨r, t, refused, status, kept⟩ :=
        deleteQuota_refused site ideal shaped filled named absent
      refine ⟨_, t, refused.map_error _, .of_fits fits ?_⟩
      rw [kept]
      exact .missed name r status absent
  · have long := mt (fits_of_resource rfl).mpr fits
    obtain ⟨u, unsent⟩ := deleteQuota_unsent site S.answer filled long
    exact ⟨_, s, unsent.map_error _, .of_long fits u⟩

/-- The quota of a volume is found, if there is one. -/
theorem get_does (site : c.api.AtSite room) (ideal : S.Ideal c.api.version)
    (shaped : ShapedQuotas (S.held s)) (name : String) :
    ∃ result t, ((QuotaCall.get name).run c).Ends S.answer s result t ∧
      (QuotaCall.get name).Does c (S.held s) result (S.held t) := by
  by_cases fits : (QuotaCall.get name).Fits c (S.held s)
  · obtain ⟨t, kept, ⟨q, found, mem, path⟩ | ⟨missing, absent⟩⟩ :=
      quota_cases site ideal shaped ((fits_of_resource rfl).mp fits) (c.path name)
    · refine ⟨_, t, found.map _, .of_fits fits ?_⟩
      rw [kept]
      exact .looked name q mem path
    · refine ⟨_, t, missing.map_error _, .of_fits fits ?_⟩
      rw [kept]
      exact .nothing name absent
  · obtain ⟨u, unsent⟩ := quotas_unsent site S.answer (mt (fits_of_resource rfl).mpr fits)
    exact ⟨_, s, unsent.bind_error.map_error _, .of_long fits u⟩

/-- Every call does to what the server holds what it is there for. -/
theorem run_does (site : c.api.AtSite room) (ideal : S.Ideal c.api.version)
    (shaped : ShapedQuotas (S.held s)) (call : QuotaCall) :
    ∃ result t, (call.run c).Ends S.answer s result t ∧
      call.Does c (S.held s) result (S.held t) := by
  cases call with
  | set name limits => exact set_does site ideal shaped name limits
  | update name limits => exact update_does site ideal shaped name limits
  | clear name => exact clear_does site ideal shaped name
  | get name => exact get_does site ideal shaped name

/-! ## Calls one after another -/

/-- Calls one after another: what each of them comes to, and the server after them. -/
def runAll (c : Client) (answer : σ → Request → Delivery × σ) :
    List QuotaCall → σ → List (QuotaCall × Except Failure QuotaAnswer) × σ
  | [], s => ([], s)
  | call :: rest, s =>
    let first := (call.run c).run answer s
    let later := runAll c answer rest first.server
    ((call, first.result) :: later.1, later.2)

/-- The calls that got through, with what they came to. -/
def through (calls : List (QuotaCall × Except Failure QuotaAnswer)) :
    List (QuotaCall × QuotaOutcome) :=
  calls.filterMap fun x => (QuotaOutcome.of x.2).map fun outcome => (x.1, outcome)

/-- Calls one after another on a map. -/
def meanings (c : Client) : List QuotaCall → QuotaMap → List QuotaOutcome × QuotaMap
  | [], m => ([], m)
  | call :: rest, m =>
    let first := call.meaning c m
    let later := meanings c rest first.2
    (first.1 :: later.1, later.2)

/-- A run of calls against a server: the list that it holds has the same shape after each of them,
each does what it is there for, and those that get through come to what they mean on the map. -/
structure Refined (c : Client) (S : QuotaServer σ) (s : σ) (calls : List QuotaCall) : Prop where
  /-- The shape of what is held after any of the calls, and what the next call does to it. -/
  steps : ∀ before call after, calls = before ++ call :: after →
    let t := (runAll c S.answer before s).2
    ShapedQuotas (S.held t) ∧
      call.Does c (S.held t) ((call.run c).run S.answer t).result
        (S.held ((call.run c).run S.answer t).server)
  /-- The shape of what is held in the end. -/
  shaped : ShapedQuotas (S.held (runAll c S.answer calls s).2)
  /-- What the calls that get through come to, and the map of what is held in the end. -/
  means : let run := runAll c S.answer calls s
    ((through run.1).map Prod.snd, limitsOf (S.held run.2)) =
      meanings c ((through run.1).map Prod.fst) (limitsOf (S.held s))

section Runs

variable {call : QuotaCall} {result : Except Failure QuotaAnswer} {rest : List QuotaCall} {t : σ}
  {later : List (QuotaCall × Except Failure QuotaAnswer)}

/-- A run goes on from where its first call has left the server. -/
theorem runAll_cons {answer : σ → Request → Delivery × σ}
    (ends : (call.run c).Ends answer s result t) :
    runAll c answer (call :: rest) s =
      ((call, result) :: (runAll c answer rest t).1, (runAll c answer rest t).2) := by
  rw [runAll, ends.result_eq, ends.server_eq]

theorem through_cons {outcome : QuotaOutcome} (got : QuotaOutcome.of result = some outcome) :
    through ((call, result) :: later) = (call, outcome) :: through later := by
  simp [through, got]

theorem through_cons_none (lost : QuotaOutcome.of result = none) :
    through ((call, result) :: later) = through later := by
  simp [through, lost]

/-- The first call is made in the state that a run begins with, and the others in those of the
run behind it. -/
theorem Refined.steps_cons (shaped : ShapedQuotas (S.held s))
    (ends : (call.run c).Ends S.answer s result t)
    (does : call.Does c (S.held s) result (S.held t)) (refined : Refined c S t rest) :
    ∀ before other after, call :: rest = before ++ other :: after →
      let u := (runAll c S.answer before s).2
      ShapedQuotas (S.held u) ∧
        other.Does c (S.held u) ((other.run c).run S.answer u).result
          (S.held ((other.run c).run S.answer u).server) := by
  intro before other after split
  cases before with
  | nil =>
    obtain ⟨rfl, -⟩ := List.cons.inj split
    refine ⟨shaped, ?_⟩
    show call.Does c (S.held s) ((call.run c).run S.answer s).result
      (S.held ((call.run c).run S.answer s).server)
    rw [ends.result_eq, ends.server_eq]
    exact does
  | cons head before =>
    obtain ⟨rfl, tail⟩ := List.cons.inj split
    rw [runAll_cons ends]
    exact refined.steps before other after tail

/-- A call that gets through goes in front of what the run behind it means; another does not
matter. -/
theorem Refined.means_cons (shaped : ShapedQuotas (S.held s))
    (does : call.Does c (S.held s) result (S.held t)) (refined : Refined c S t rest) :
    let seen := through ((call, result) :: (runAll c S.answer rest t).1)
    (seen.map Prod.snd, limitsOf (S.held (runAll c S.answer rest t).2)) =
      meanings c (seen.map Prod.fst) (limitsOf (S.held s)) := by
  have later := refined.means
  dsimp only at later ⊢
  rcases does.meaning_eq shaped with ⟨outcome, got, means⟩ | ⟨lost, kept⟩
  · rw [through_cons got, List.map_cons, List.map_cons, meanings, means, ← later]
  · rw [through_cons_none lost, ← kept]
    exact later

/-- Against an ideal server all runs are such. -/
theorem runAll_refines (site : c.api.AtSite room) (ideal : S.Ideal c.api.version)
    (calls : List QuotaCall) {s : σ} (shaped : ShapedQuotas (S.held s)) : Refined c S s calls := by
  -- The list that is held keeps its shape, and so each call meets what the step lemma asks for.
  induction calls generalizing s with
  | nil =>
    refine ⟨fun before call after eq => ?_, shaped, rfl⟩
    exact absurd eq (by simp)
  | cons call rest ih =>
    obtain ⟨result, t, ends, does⟩ := call.run_does site ideal shaped
    have later := ih (does.shaped shaped)
    refine ⟨later.steps_cons shaped ends does, ?_, ?_⟩
    · rw [runAll_cons ends]
      exact later.shaped
    · rw [runAll_cons ends]
      exact later.means_cons shaped does

end Runs

end QuotaCall

/-- Calls on quotas refine a finite map. Whatever is configured with a site as the endpoint, in
either version, and whatever calls a client then makes one after another on the quotas of volumes of
any names: against an ideal server that holds quotas on directories with distinct plain ids and
distinct paths, the server holds such quotas after every call, every call does to them what it is
there for and nothing else, and the calls come to what they mean on the finite map from paths to
levels. Calls for whose URLs there is no room on the wire fail and do nothing. -/
theorem quotaCalls_refine_map {config : Config} {api : Connection}
    (configured : Connection.ofConfig config = .ok api) (site : IsSite 0 config.endpoint)
    (version : Version) {S : QuotaServer σ} (ideal : S.Ideal version) {s : σ}
    (shaped : ShapedQuotas (S.held s)) (calls : List QuotaCall) :
    QuotaCall.Refined ⟨{ api with version }⟩ S s calls := by
  have reached := ofConfig_atSite configured site
  exact QuotaCall.runAll_refines (c := ⟨{ api with version }⟩) reached ideal calls shaped

/-! ## Single runs -/

/-- A quota whose only limit is 10 bytes. -/
def smallQuota (path : String) : HeldQuota :=
  { toQuotaTerms := .directory path (.ofHard 10), id := "AAVq7hYAAAAAAAAAAAAAQAEAAA" }

theorem shaped_smallQuota (path : String) : ShapedQuotas [smallQuota path] where
  directories := List.forall_mem_singleton.mpr rfl
  ids := by
    have valid : IsQuotaId "AAVq7hYAAAAAAAAAAAAAQAEAAA" :=
      ⟨by decide, List.all_eq_true.mp (by decide)⟩
    exact List.forall_mem_singleton.mpr valid
  distinct := List.nodup_singleton _
  apart := List.nodup_singleton _

/-- Calls on the volume `a`, on a new one, and on one with a name that is no part of a URL. -/
def someCalls : List QuotaCall :=
  [.set "a" (.size 20), .update "a" (.size 20), .set "b" (.levels ⟨some 1, none, some (-1)⟩),
    .set "?&= %" (.size 0), .get "?&= %", .clear "?&= %", .clear "c"]

/-- They are made to a server in memory, which holds a quota of the volume `a`. There is room for
all of them. -/
theorem quotaCalls_refined_local :
    ∃ api, Connection.ofConfig (.new "http://[::1]:8080/" "admin" "secret") = .ok api ∧
      IsSite 0 "http://[::1]:8080/" ∧ (quotaMemory .v1).Ideal .v1 ∧
      ShapedQuotas [smallQuota "/ifs/volumes/a"] ∧
      (∀ call ∈ someCalls,
        call.Fits ⟨{ api with version := .v1 }⟩ [smallQuota "/ifs/volumes/a"]) ∧
      QuotaCall.Refined ⟨{ api with version := .v1 }⟩ (quotaMemory .v1)
        [smallQuota "/ifs/volumes/a"] someCalls := by
  have shaped := shaped_smallQuota "/ifs/volumes/a"
  have site : IsSite 0 "http://[::1]:8080/" := isSite_loopback.mono (Nat.zero_le _)
  have exists_api : ∃ api,
      Connection.ofConfig (.new "http://[::1]:8080/" "admin" "secret") = .ok api ∧
        api.volumesPath = "/ifs/volumes" := ⟨_, rfl, rfl⟩
  obtain ⟨api, configured, volumesPath⟩ := exists_api
  have reached := ofConfig_atSite configured isSite_loopback
  have short : ∀ call ∈ someCalls, ∀ resource ∈
      call.resources ⟨{ api with version := .v1 }⟩ [smallQuota "/ifs/volumes/a"],
      resource.utf8ByteSize ≤ 1000 := by
    have path : ∀ name, Client.path ⟨{ api with version := .v1 }⟩ name =
        "/ifs/volumes" ++ "/" ++ name := fun name => congrArg (· ++ "/" ++ name) volumesPath
    simp only [someCalls, List.forall_mem_cons, QuotaCall.resources, path]
    decide +kernel
  exact ⟨api, configured, site, quotaMemory_ideal .v1, shaped,
    fun call mem resource hr => reached.fits (short call mem resource hr),
    quotaCalls_refine_map configured site .v1 (quotaMemory_ideal .v1) shaped _⟩

/-! ## Names without room -/

/-- The quota of a volume with a very long name cannot be removed, whatever the server holds. -/
theorem clearQuota_overlong {config : Config} {api : Connection}
    (configured : Connection.ofConfig config = .ok api) (site : IsSite 0 config.endpoint)
    (version : Version) (answer : σ → Request → Delivery × σ) (s : σ) {name : String}
    (long : longestUrl ≤ name.toList.length) :
    ∃ u, (Client.clearQuota ⟨{ api with version }⟩ name).Ends answer s
      (.error (.request (.illegalAddress u))) s := by
  have path : longestUrl ≤ (api.volumesPath ++ "/" ++ name).toList.length := by
    rw [String.toList_append, List.length_append]
    omega
  have reached := ofConfig_atSite configured site
  exact deleteQuota_unsent (c := { api with version }) reached answer
    (Client.path_ne_empty ⟨{ api with version }⟩ name) (not_fits_removal path)

/-- A name of seventy thousand letters. -/
def longName : String :=
  String.ofList (List.replicate 70000 'x')

theorem length_longName : longName.toList.length = 70000 := by
  unfold longName
  rw [String.toList_ofList]
  exact List.length_replicate

/-- A volume of that name is on the map, and its quota is not removed. -/
theorem longName_not_cleared :
    ∃ api, Connection.ofConfig (.new "http://[::1]:8080/" "admin" "secret") = .ok api ∧
      IsSite 0 "http://[::1]:8080/" ∧ (quotaMemory .v1).Ideal .v1 ∧
      let c : Client := ⟨{ api with version := .v1 }⟩
      let held := [smallQuota (c.path longName)]
      ShapedQuotas held ∧ c.path longName ∈ limitsOf held ∧
        ∃ u, (c.clearQuota longName).Ends (quotaMemory .v1).answer held
          (.error (.request (.illegalAddress u))) held := by
  have long : longestUrl ≤ longName.toList.length := by
    rw [length_longName]
    unfold longestUrl
    omega
  have site : IsSite 0 "http://[::1]:8080/" := isSite_loopback.mono (Nat.zero_le _)
  have exists_api : ∃ api,
      Connection.ofConfig (.new "http://[::1]:8080/" "admin" "secret") = .ok api := ⟨_, rfl⟩
  obtain ⟨api, configured⟩ := exists_api
  -- What is said of this name holds of any other.
  generalize longName = name at long ⊢
  exact ⟨api, configured, site, quotaMemory_ideal .v1, shaped_smallQuota _,
    mem_limitsOf.mpr ⟨_, List.mem_singleton_self _, rfl⟩,
    clearQuota_overlong configured site .v1 _ _ long⟩

end OneFs
