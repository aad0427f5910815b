import OneFs.Call
import OneFs.Proofs.Quota.Addressee
import OneFs.Proofs.Quota.Bodies

/-!
# Changes of a hard limit

A quota is changed by a body that replaces what it names. A call that is for the hard limit alone
names more than that.

- `Call.hardLimit?`: the calls that change a hard limit, which are one (`Call.hardLimit_run`);
- `QuotaChange`, `changeIn_change`: what the body of a change says;
- `Quota.onlyHard`: the change that is for the hard limit alone;
- `hardLimit_enforced`: what these calls ask for, and of which quota.
-/

namespace OneFs

open Json Http Exchange

variable {σ : Type} {answer : σ → Request → Delivery × σ} {s t : σ} {c : Client} {call : Call}
  {quotas : List Quota} {path : String} {q : Quota} {size : Int64}

/-! ## The calls -/

/-- The path on which a call changes the hard limit, and the limit that it asks for. -/
def Call.hardLimit? (c : Client) : Call → Option (String × Int64)
  | .ofConnection (.updateQuotaHard path size) => some (path, size)
  | .ofClient (.updateQuotaSize name size) => some (c.path name, size)
  | _ => none

/-- Whichever call changes a hard limit does what the connection does. -/
theorem Call.hardLimit_run (named : call.hardLimit? c = some (path, size)) :
    call.run c = Value.ofUnit <$> c.api.updateQuota path (.ofHard size) := by
  cases call with
  | ofConnection call =>
    cases call with
    | updateQuotaHard _ _ => cases named; rfl
    | _ => cases named
  | ofClient call =>
    cases call with
    | updateQuotaSize _ _ => cases named; rfl
    | _ => cases named

/-! ## The body -/

/-- What is asked of a quota. -/
structure QuotaChange where
  enforced : Bool
  thresholdsIncludeOverhead : Bool
  levels : QuotaThresholds
  deriving DecidableEq

/-- What a body asks of a quota. None of it may be left out. -/
def changeIn : Reader QuotaChange :=
  record "struct Change" .dropped <|
    QuotaChange.mk
      <$> requiredField "enforced" boolean
      <*> requiredField "thresholds_include_overhead" boolean
      <*> requiredField "thresholds" QuotaThresholds.reader

/-- What is sent to change a quota asks for it to be enforced, without overhead. -/
theorem changeIn_change (t : QuotaThresholds) :
    changeIn.decode (Text.Utf8.text (Text.Utf8.bytes (Quota.change t).text)) =
      .ok ⟨true, false, t⟩ := by
  have distinct : (["enforced", "thresholds", "thresholds_include_overhead"] : List String).Nodup :=
    by decide
  have legible : (Quota.change t).Legible 0 :=
    ⟨by decide, trivial, t.legible_encode (by decide), trivial, trivial⟩
  rw [Text.Utf8.text_bytes]
  refine Reader.Reads.decode_text (reads_distinct distinct fun rest => ?_) legible
  refine Fields.accepts_seq (Fields.accepts_seq (Fields.accepts_map ?enforced) ?overhead) ?levels
  case enforced => exact Fields.accepts_required rfl (Reader.reads_boolean _)
  case overhead => exact Fields.accepts_required rfl (Reader.reads_boolean _)
  case levels => exact Fields.accepts_required rfl t.reads_encode

/-- The change of a quota that changes its hard limit and nothing else. -/
def Quota.onlyHard (q : Quota) (size : Int64) : QuotaChange where
  enforced := q.enforced
  thresholdsIncludeOverhead := q.thresholdsIncludeOverhead
  levels := ⟨q.thresholds.advisory, some size, q.thresholds.soft⟩

/-! ## The change -/

/-- A call that changes a hard limit changes the quota that is listed first on its path. -/
theorem changes_hardLimit (named : call.hardLimit? c = some (path, size))
    (listed : c.api.quotas.Ends answer s (.ok quotas) t)
    (found : quotas.find? (fun q => q.path == path) = some q) :
    changesIn ((call.run c).run answer s).steps =
      (c.api.requestFor (q.changeAsk c.api.version (.ofHard size))).toOption.toList := by
  have steps : ((call.run c).run answer s).steps =
      ((c.api.updateQuota path (.ofHard size)).run answer s).steps := by
    rw [Call.hardLimit_run named, run_map]
  rw [steps]
  exact changes_updateQuota listed found (.ofHard size)

/-- A call that changes a hard limit sends one change, for the quota that is listed first on its
path, if there is a request for it. It asks for the limit, for the quota to be enforced and for
overhead not to count, whatever the quota was like before, and for no other level than one that the
quota has. -/
theorem hardLimit_enforced (named : call.hardLimit? c = some (path, size))
    (listed : c.api.quotas.Ends answer s (.ok quotas) t)
    (found : quotas.find? (fun q => q.path == path) = some q) :
    ∃ body change,
      changesIn ((call.run c).run answer s).steps =
        (c.api.requestFor ⟨"PUT", c.api.version.quotasPath, some q.id, [], [], some body⟩
          ).toOption.toList ∧
      (∀ r ∈ changesIn ((call.run c).run answer s).steps,
        changeIn.decode (Text.Utf8.text r.body) = .ok change) ∧
      change.levels.hard = some size ∧ change.enforced = true ∧
      change.thresholdsIncludeOverhead = false ∧
      (∀ level, change.levels.advisory = some level → q.thresholds.advisory = some level) ∧
      ∀ level, change.levels.soft = some level → q.thresholds.soft = some level := by
  have changes := changes_hardLimit named listed found
  refine ⟨Quota.change (.ofHard size), ⟨true, false, .ofHard size⟩, changes, fun r hr => ?_, rfl,
    rfl, rfl, ?_, ?_⟩
  · rw [changes] at hr
    rw [Connection.body_of_requestFor (Connection.mem_toList_requestFor.mp hr) rfl]
    exact changeIn_change (.ofHard size)
  · intro level asked
    cases asked
  · intro level asked
    cases asked

/-- A listing of a quota that is not enforced, counts overhead and has other levels. -/
def laxQuota : Incoming :=
  .message 200 (Text.Utf8.bytes ("\x7b\x22quotas\x22: [\x7b\x22id\x22: \x22q1\x22, " ++
    "\x22path\x22: \x22/ifs/volumes/a\x22, \x22thresholds_include_overhead\x22: true, " ++
    "\x22thresholds\x22: \x7b\x22advisory\x22: 1, \x22soft\x22: 2\x7d\x7d]\x7d")) true

theorem laxQuota_listed :
    ∃ quotas q,
      localConnection.quotas.Ends (replies .closed) [laxQuota] (.ok quotas) [] ∧
        quotas.find? (fun q => q.path == "/ifs/volumes/a") = some q ∧ q.id = "q1" ∧
          q.onlyHard 5 = ⟨false, true, some 1, some 5, some 2⟩ := by
  have seen :
      let run := localConnection.quotas.run (replies .closed) [laxQuota]
      (run.result.toOption.map fun quotas => (quotas.find? fun q =>
        q.path == "/ifs/volumes/a").map (fun q => (q.id, q.onlyHard 5)), run.server) =
        (some (some ("q1", ⟨false, true, some 1, some 5, some 2⟩)), []) := by
    decide +kernel
  obtain ⟨quotas, listed, view⟩ := Ends.exists_of_view seen
  obtain ⟨q, found, shown⟩ := Option.map_eq_some_iff.mp view
  obtain ⟨id, kept⟩ := Prod.mk.inj shown
  exact ⟨quotas, q, listed, found, id, kept⟩

/-- There is a request for its change. -/
theorem laxQuota_request {q : Quota} (id : q.id = "q1") :
    ∃ r, localConnection.requestFor (q.changeAsk localConnection.version (.ofHard 5)) = .ok r := by
  have request : (localConnection.requestFor ⟨"PUT", localConnection.version.quotasPath, some "q1",
      [], [], some (Quota.change (.ofHard 5))⟩).toOption.isSome = true := by
    decide +kernel
  unfold Quota.changeAsk
  rw [id]
  obtain ⟨r, some⟩ := Option.isSome_iff_exists.mp request
  exact ⟨r, Connection.mem_toList_requestFor.mp (Option.mem_toList.mpr some)⟩

/-- A hard limit of five bytes for its volume makes it an enforced quota that does not count
overhead. -/
theorem hardLimit_enforced_local :
    ∃ quotas q,
      localConnection.quotas.Ends (replies .closed) [laxQuota] (.ok quotas) [] ∧
        quotas.find? (fun q => q.path == "/ifs/volumes/a") = some q ∧
        ∃ r ∈ changesIn (((Call.ofClient (.updateQuotaSize "a" 5)).run ⟨localConnection⟩).run
            (replies .closed) [laxQuota]).steps,
          ∃ change, changeIn.decode (Text.Utf8.text r.body) = .ok change ∧
            change.levels.hard = some 5 ∧ change.enforced = true ∧
            change.thresholdsIncludeOverhead = false := by
  obtain ⟨quotas, q, listed, found, id, -⟩ := laxQuota_listed
  obtain ⟨r, request⟩ := laxQuota_request id
  have named : (Call.ofClient (.updateQuotaSize "a" 5)).hardLimit? ⟨localConnection⟩ =
      some ("/ifs/volumes/a", 5) := by
    decide
  have sent := changes_hardLimit (c := ⟨localConnection⟩) named listed found ▸
    Connection.mem_toList_requestFor.mpr request
  obtain ⟨body, change, -, asks, hard, enforced, overhead, -, -⟩ :=
    hardLimit_enforced (c := ⟨localConnection⟩) named listed found
  exact ⟨quotas, q, listed, found, r, sent, change, asks r sent, hard, enforced, overhead⟩

/-- So the change is not for the hard limit alone: nothing else of the quota would stay as it is. -/
theorem hardLimit_drops_rest :
    ∃ quotas q,
      localConnection.quotas.Ends (replies .closed) [laxQuota] (.ok quotas) [] ∧
        quotas.find? (fun q => q.path == "/ifs/volumes/a") = some q ∧
        ∃ r ∈ changesIn (((Call.ofConnection (.updateQuotaHard "/ifs/volumes/a" 5)).run
            ⟨localConnection⟩).run (replies .closed) [laxQuota]).steps,
          ∃ change, changeIn.decode (Text.Utf8.text r.body) = .ok change ∧
            change = ⟨true, false, none, some 5, none⟩ ∧
            q.onlyHard 5 = ⟨false, true, some 1, some 5, some 2⟩ ∧ change ≠ q.onlyHard 5 := by
  obtain ⟨quotas, q, listed, found, id, kept⟩ := laxQuota_listed
  obtain ⟨r, request⟩ := laxQuota_request id
  have named : (Call.ofConnection (.updateQuotaHard "/ifs/volumes/a" 5)).hardLimit?
      ⟨localConnection⟩ = some ("/ifs/volumes/a", 5) :=
    rfl
  have sent := changes_hardLimit (c := ⟨localConnection⟩) named listed found ▸
    Connection.mem_toList_requestFor.mpr request
  have asked : changeIn.decode (Text.Utf8.text r.body) = .ok ⟨true, false, .ofHard 5⟩ := by
    rw [Connection.body_of_requestFor request rfl]
    exact changeIn_change (.ofHard 5)
  refine ⟨quotas, q, listed, found, r, sent, _, asked, rfl, kept, ?_⟩
  rw [kept]
  decide

end OneFs
