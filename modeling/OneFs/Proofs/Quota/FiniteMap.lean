import Mathlib.Data.Finmap
import Mathlib.Data.List.Find
import OneFs.Proofs.Quota.Server

/-!
# Quotas as a finite map

What the calls of a client on the quotas of volumes do to the quotas that a server holds, and the
same on a finite map from paths to levels.

- `QuotaCall`, `QuotaCall.run`: the calls;
- `QuotaCall.Fits`: whether there is room on the wire for the URLs of a call;
- `QuotaCall.Acts`, `QuotaCall.Does`: what a call does to a list of quotas, if there is and if not;
- `limitsOf`, `QuotaCall.meaning`: the finite map of a list, and what a call does to a map;
- `QuotaCall.Does.shaped`, `QuotaCall.Does.meaning_eq`: a call keeps the shape of the list, and
  means on its map what it does to the list.
-/

namespace OneFs

/-! ## Calls -/

/-- Limits as a call gives them: at all levels, or only as a size. -/
inductive Limits where
  | levels (t : QuotaThresholds)
  | size (n : Int64)

/-- The levels that are meant. A size is a hard limit. -/
def Limits.thresholds : Limits → QuotaThresholds
  | .levels t => t
  | .size n => .ofHard n

/-- A call of a client about the quota of a volume. -/
inductive QuotaCall where
  | set (name : String) (limits : Limits)
  | update (name : String) (limits : Limits)
  | clear (name : String)
  | get (name : String)

/-- What such a call can come to. -/
inductive QuotaAnswer where
  | done
  | found (q : Quota)

/-- Replace the levels of what is on a path. -/
def limiting (path : String) (levels : QuotaThresholds) (q : HeldQuota) : HeldQuota :=
  if q.path = path then { q with levels } else q

namespace QuotaCall

/-- What a client does on such a call. -/
def run (c : Client) : QuotaCall → Exchange QuotaAnswer
  | .set name (.levels t) => (fun _ => .done) <$> c.setQuota name t
  | .set name (.size n) => (fun _ => .done) <$> c.setQuotaSize name n
  | .update name (.levels t) => (fun _ => .done) <$> c.updateQuota name t
  | .update name (.size n) => (fun _ => .done) <$> c.updateQuotaSize name n
  | .clear name => (fun _ => .done) <$> c.clearQuota name
  | .get name => .found <$> c.quota name

/-- What the URLs of a call name behind their first slash. An update lists the quotas and then turns
to the one of the volume. -/
def resources (c : Client) (qs : List HeldQuota) : QuotaCall → List String
  | .set _ _ => [quotaResource c.api.version none []]
  | .update name _ => quotaResource c.api.version none [] ::
      (qs.filter fun q => q.path = c.path name).map fun q =>
        quotaResource c.api.version (some q.id) []
  | .clear name => [quotaResource c.api.version none [("path", c.path name)]]
  | .get _ => [quotaResource c.api.version none []]

/-- There is room on the wire for the URLs of a call. -/
def Fits (c : Client) (qs : List HeldQuota) (call : QuotaCall) : Prop :=
  ∀ resource ∈ call.resources c qs, c.api.Fits resource

/-- What a call that gets through does to the quotas that are held, and what it comes to. -/
inductive Acts (c : Client) (qs : List HeldQuota) :
    QuotaCall → Except Failure QuotaAnswer → List HeldQuota → Prop where
  /-- A volume without quota gets one, under a new id. -/
  | added (name : String) (limits : Limits) (id : String)
      (absent : ∀ q ∈ qs, q.path ≠ c.path name) (valid : IsQuotaId id)
      (fresh : ∀ q ∈ qs, q.id ≠ id) :
    Acts c qs (.set name limits) (.ok .done)
      (qs ++ [{ toQuotaTerms := .directory (c.path name) limits.thresholds, id }])
  /-- A volume that has one does not. -/
  | refused (name : String) (limits : Limits) (r : Rejection) (status : r.status = 409)
      (there : ∃ q ∈ qs, q.path = c.path name) :
    Acts c qs (.set name limits) (.error (.rejected r)) qs
  /-- The quota of a volume gets other levels. -/
  | replaced (name : String) (limits : Limits) (there : ∃ q ∈ qs, q.path = c.path name) :
    Acts c qs (.update name limits) (.ok .done)
      (qs.map (limiting (c.path name) limits.thresholds))
  /-- Without a quota there are none to replace. -/
  | missing (name : String) (limits : Limits) (absent : ∀ q ∈ qs, q.path ≠ c.path name) :
    Acts c qs (.update name limits) (.error (.notFound ("Quota not found: " ++ c.path name))) qs
  /-- The quota of a volume is removed. -/
  | removed (name : String) (there : ∃ q ∈ qs, q.path = c.path name) :
    Acts c qs (.clear name) (.ok .done) (qs.filter fun q => q.path ≠ c.path name)
  /-- Without a quota the server has nothing to remove. -/
  | missed (name : String) (r : Rejection) (status : r.status = 404)
      (absent : ∀ q ∈ qs, q.path ≠ c.path name) :
    Acts c qs (.clear name) (.error (.rejected r)) qs
  /-- The quota of a volume. -/
  | looked (name : String) (q : Quota) (there : q.held ∈ qs) (here : q.path = c.path name) :
    Acts c qs (.get name) (.ok (.found q)) qs
  /-- A volume may have none. -/
  | nothing (name : String) (absent : ∀ q ∈ qs, q.path ≠ c.path name) :
    Acts c qs (.get name) (.error (.notFound ("Quota not found: " ++ c.path name))) qs

/-- What a call does to the quotas that are held, and what it comes to. If there is no room for one
of its URLs, it fails for that reason and leaves everything as it is. -/
structure Does (c : Client) (qs : List HeldQuota) (call : QuotaCall)
    (result : Except Failure QuotaAnswer) (qs' : List HeldQuota) : Prop where
  fitting : call.Fits c qs → call.Acts c qs result qs'
  long : ¬ call.Fits c qs → (∃ u, result = .error (.request (.illegalAddress u))) ∧ qs' = qs

variable {c : Client} {qs qs' : List HeldQuota} {call : QuotaCall}
  {result : Except Failure QuotaAnswer}

theorem Does.of_fits (fits : call.Fits c qs) (acts : call.Acts c qs result qs') :
    call.Does c qs result qs' :=
  ⟨fun _ => acts, fun long => absurd fits long⟩

theorem Does.of_long (long : ¬ call.Fits c qs) (u : Url) :
    call.Does c qs (.error (.request (.illegalAddress u))) qs :=
  ⟨fun fits => absurd fits long, fun _ => ⟨⟨u, rfl⟩, rfl⟩⟩

/-- Whether a call with a single URL fits depends on that. -/
theorem fits_of_resource {resource : String} (only : call.resources c qs = [resource]) :
    call.Fits c qs ↔ c.api.Fits resource := by
  unfold Fits
  rw [only, List.forall_mem_singleton]

theorem fits_update {name : String} {limits : Limits} :
    (QuotaCall.update name limits).Fits c qs ↔
      c.api.Fits (quotaResource c.api.version none []) ∧ ∀ q ∈ qs, q.path = c.path name →
        c.api.Fits (quotaResource c.api.version (some q.id) []) := by
  unfold Fits resources
  rw [List.forall_mem_cons, List.forall_mem_map]
  simp only [List.mem_filter, decide_eq_true_eq, and_imp]

end QuotaCall

/-! ## Finite maps -/

/-- Levels by paths. -/
abbrev QuotaMap := Finmap fun _ : String => QuotaThresholds

/-- The levels of the paths that have quotas. -/
def limitsOf (qs : List HeldQuota) : QuotaMap :=
  (qs.map fun q => Sigma.mk q.path q.levels).toFinmap

/-- What a call on a finite map comes to. -/
inductive QuotaOutcome where
  | done
  | levels (t : QuotaThresholds)
  | rejected (status : Nat)
  | notFound (what : String)
  deriving DecidableEq

/-- What a call to a server has come to, if it has got through. -/
def QuotaOutcome.of : Except Failure QuotaAnswer → Option QuotaOutcome
  | .ok .done => some .done
  | .ok (.found q) => some (.levels q.held.levels)
  | .error (.rejected r) => some (.rejected r.status)
  | .error (.notFound what) => some (.notFound what)
  | .error _ => none

/-- What a call does to a finite map, and what it comes to. -/
def QuotaCall.meaning (c : Client) (m : QuotaMap) : QuotaCall → QuotaOutcome × QuotaMap
  | .set name limits =>
    if c.path name ∈ m then (.rejected 409, m)
    else (.done, m.insert (c.path name) limits.thresholds)
  | .update name limits =>
    if c.path name ∈ m then (.done, m.insert (c.path name) limits.thresholds)
    else (.notFound ("Quota not found: " ++ c.path name), m)
  | .clear name =>
    if c.path name ∈ m then (.done, m.erase (c.path name)) else (.rejected 404, m)
  | .get name =>
    match m.lookup (c.path name) with
    | some t => (.levels t, m)
    | none => (.notFound ("Quota not found: " ++ c.path name), m)

/-! ## Looking up -/

/-- A path is looked up in the map by looking for the first quota on it. -/
theorem lookup_limitsOf (path : String) (qs : List HeldQuota) :
    (limitsOf qs).lookup path =
      (qs.find? fun q => q.path == path).map fun q => q.levels := by
  induction qs with
  | nil => rfl
  | cons q qs ih =>
    unfold limitsOf at ih ⊢
    rw [Finmap.dlookup_list_toFinmap] at ih ⊢
    rw [List.map_cons, List.find?_cons]
    by_cases same : q.path = path
    · subst same
      simp
    · rw [List.dlookup_cons_ne _ _ (Ne.symm same), ih, beq_eq_false_iff_ne.mpr same]

theorem mem_limitsOf {path : String} {qs : List HeldQuota} :
    path ∈ limitsOf qs ↔ ∃ q ∈ qs, q.path = path := by
  rw [← Finmap.lookup_isSome, lookup_limitsOf, Option.isSome_map, List.find?_isSome]
  simp only [beq_iff_eq]

theorem not_mem_limitsOf {path : String} {qs : List HeldQuota} :
    path ∉ limitsOf qs ↔ ∀ q ∈ qs, q.path ≠ path := by
  rw [mem_limitsOf]
  simp

namespace ShapedQuotas

variable {qs : List HeldQuota} {path : String}

/-- The quota on a path is the one that is found by it. -/
theorem lookup_eq (shaped : ShapedQuotas qs) {q : HeldQuota} (mem : q ∈ qs) :
    (limitsOf qs).lookup q.path = some q.levels := by
  rw [lookup_limitsOf]
  cases found : qs.find? fun p => p.path == q.path with
  | none =>
    have := List.find?_eq_none.mp found q mem
    exact absurd (beq_self_eq_true _) this
  | some p =>
    have same := List.find?_some found
    rw [shaped.unique (List.mem_of_find?_eq_some found) mem (eq_of_beq same)]
    rfl

/-- The shape allows for a new quota on a new path. -/
theorem append (shaped : ShapedQuotas qs) {id : String} (valid : IsQuotaId id)
    (fresh : ∀ q ∈ qs, q.id ≠ id) (absent : ∀ q ∈ qs, q.path ≠ path)
    (levels : QuotaThresholds) :
    ShapedQuotas (qs ++ [{ toQuotaTerms := .directory path levels, id }]) where
  directories := List.forall_mem_append.mpr
    ⟨shaped.directories, List.forall_mem_singleton.mpr rfl⟩
  ids := List.forall_mem_append.mpr ⟨shaped.ids, List.forall_mem_singleton.mpr valid⟩
  distinct := by
    rw [List.map_append]
    refine shaped.distinct.append (List.nodup_singleton _) fun x hx hid => ?_
    obtain ⟨q, hq, rfl⟩ := List.mem_map.mp hx
    exact fresh q hq (List.mem_singleton.mp hid)
  apart := by
    rw [List.map_append]
    refine shaped.apart.append (List.nodup_singleton _) fun x hx hpath => ?_
    obtain ⟨q, hq, rfl⟩ := List.mem_map.mp hx
    exact absent q hq (List.mem_singleton.mp hpath)

theorem filter (shaped : ShapedQuotas qs) (p : HeldQuota → Bool) : ShapedQuotas (qs.filter p) where
  directories q hq := shaped.directories q (List.mem_filter.mp hq).1
  ids q hq := shaped.ids q (List.mem_filter.mp hq).1
  distinct := shaped.distinct.sublist (List.filter_sublist.map _)
  apart := shaped.apart.sublist (List.filter_sublist.map _)

end ShapedQuotas

/-- Levels are all that changes. -/
theorem limiting_eq (path : String) (levels : QuotaThresholds) (q : HeldQuota) :
    limiting path levels q = { q with levels := if q.path = path then levels else q.levels } := by
  unfold limiting
  split <;> rfl

/-- The levels are no part of the shape. -/
theorem ShapedQuotas.limiting {qs : List HeldQuota} (shaped : ShapedQuotas qs) (path : String)
    (levels : QuotaThresholds) : ShapedQuotas (qs.map (limiting path levels)) := by
  have same : OneFs.limiting path levels = fun q =>
      { q with levels := if q.path = path then levels else q.levels } :=
    funext (limiting_eq path levels)
  constructor
  · intro q hq
    obtain ⟨p, hp, rfl⟩ := List.mem_map.mp hq
    rw [same]
    exact shaped.directories p hp
  · intro q hq
    obtain ⟨p, hp, rfl⟩ := List.mem_map.mp hq
    rw [same]
    exact shaped.ids p hp
  · rw [List.map_map, same]
    exact shaped.distinct
  · rw [List.map_map, same]
    exact shaped.apart

/-! ## Maps of changed lists -/

/-- A new path is found behind the others. -/
theorem limitsOf_append {qs : List HeldQuota} {path : String} (absent : ∀ q ∈ qs, q.path ≠ path)
    (levels : QuotaThresholds) (id : String) :
    limitsOf (qs ++ [{ toQuotaTerms := .directory path levels, id }]) =
      (limitsOf qs).insert path levels := by
  apply Finmap.ext_lookup
  intro other
  rw [lookup_limitsOf, List.find?_append]
  by_cases same : other = path
  · subst same
    have nothing : qs.find? (fun q => q.path == other) = none :=
      List.find?_eq_none.mpr fun q hq => by simpa using absent q hq
    rw [nothing, Finmap.lookup_insert]
    simp [QuotaTerms.directory]
  · rw [Finmap.lookup_insert_of_ne _ same, lookup_limitsOf]
    simp [QuotaTerms.directory, Ne.symm same]

/-- Without the quota on a path, the path is not found, and others are as before. -/
theorem limitsOf_filter (qs : List HeldQuota) (path : String) :
    limitsOf (qs.filter fun q => q.path ≠ path) = (limitsOf qs).erase path := by
  apply Finmap.ext_lookup
  intro other
  rw [lookup_limitsOf, List.find?_filter]
  by_cases same : other = path
  · subst same
    rw [Finmap.lookup_erase]
    simp
  · rw [Finmap.lookup_erase_ne same, lookup_limitsOf]
    congr 1
    apply List.find?_congr
    intro q _
    by_cases here : q.path = other
    · simp [here, same]
    · simp [here]

/-- A path that has a quota is found with its new levels, and others are as before. -/
theorem limitsOf_map {qs : List HeldQuota} {path : String} (there : ∃ q ∈ qs, q.path = path)
    (levels : QuotaThresholds) :
    limitsOf (qs.map (limiting path levels)) = (limitsOf qs).insert path levels := by
  have kept : ∀ other : String, (fun q : HeldQuota => q.path == other) ∘ limiting path levels =
      fun q => q.path == other := fun other => funext fun q => by
    show ((limiting path levels q).path == other) = _
    rw [limiting_eq]
  apply Finmap.ext_lookup
  intro other
  rw [lookup_limitsOf, List.find?_map, kept, Option.map_map]
  by_cases same : other = path
  · subst same
    rw [Finmap.lookup_insert]
    obtain ⟨q, mem, here⟩ := there
    cases found : qs.find? fun q => q.path == other with
    | none => exact absurd (beq_iff_eq.mpr here) (List.find?_eq_none.mp found q mem)
    | some p =>
      have here := List.find?_some found
      rw [beq_iff_eq] at here
      simp [limiting, here]
  · rw [Finmap.lookup_insert_of_ne _ same, lookup_limitsOf]
    cases found : qs.find? fun q => q.path == other with
    | none => rfl
    | some p =>
      have here := List.find?_some found
      rw [beq_iff_eq] at here
      simp [limiting, here, same]

/-! ## Calls on maps -/

namespace QuotaCall

variable {c : Client} {qs qs' : List HeldQuota} {call : QuotaCall}
  {result : Except Failure QuotaAnswer}

/-- A call that gets through keeps the shape. -/
theorem Acts.shaped (acts : call.Acts c qs result qs') (shaped : ShapedQuotas qs) :
    ShapedQuotas qs' := by
  cases acts with
  | added name limits id absent valid fresh => exact shaped.append valid fresh absent _
  | refused name limits r status there => exact shaped
  | replaced name limits there => exact shaped.limiting _ _
  | missing name limits absent => exact shaped
  | removed name there => exact shaped.filter _
  | missed name r status absent => exact shaped
  | looked name q there here => exact shaped
  | nothing name absent => exact shaped

/-- What a call that gets through does to the quotas that are held, it means on their map. -/
theorem Acts.meaning_eq (acts : call.Acts c qs result qs') (shaped : ShapedQuotas qs) :
    ∃ outcome, QuotaOutcome.of result = some outcome ∧
      call.meaning c (limitsOf qs) = (outcome, limitsOf qs') := by
  cases acts with
  | added name limits id absent valid fresh =>
    refine ⟨.done, rfl, ?_⟩
    rw [meaning, if_neg (not_mem_limitsOf.mpr absent), limitsOf_append absent]
  | refused name limits r status there =>
    refine ⟨.rejected 409, by rw [← status]; rfl, ?_⟩
    rw [meaning, if_pos (mem_limitsOf.mpr there)]
  | replaced name limits there =>
    refine ⟨.done, rfl, ?_⟩
    rw [meaning, if_pos (mem_limitsOf.mpr there), limitsOf_map there]
  | missing name limits absent =>
    refine ⟨_, rfl, ?_⟩
    rw [meaning, if_neg (not_mem_limitsOf.mpr absent)]
  | removed name there =>
    refine ⟨.done, rfl, ?_⟩
    rw [meaning, if_pos (mem_limitsOf.mpr there), limitsOf_filter]
  | missed name r status absent =>
    refine ⟨.rejected 404, by rw [← status]; rfl, ?_⟩
    rw [meaning, if_neg (not_mem_limitsOf.mpr absent)]
  | looked name q there here =>
    have found : (limitsOf qs).lookup (c.path name) = some q.held.levels :=
      here ▸ shaped.lookup_eq there
    refine ⟨_, rfl, ?_⟩
    rw [meaning, found]
  | nothing name absent =>
    have found : (limitsOf qs).lookup (c.path name) = none :=
      Finmap.lookup_eq_none.mpr (not_mem_limitsOf.mpr absent)
    refine ⟨_, rfl, ?_⟩
    rw [meaning, found]

/-- Every call keeps the shape. -/
theorem Does.shaped (does : call.Does c qs result qs') (shaped : ShapedQuotas qs) :
    ShapedQuotas qs' := by
  by_cases fits : call.Fits c qs
  · exact (does.fitting fits).shaped shaped
  · rw [(does.long fits).2]
    exact shaped

/-- What a call does to the quotas that are held, it means on their map, unless it does not get
through. Then it comes to nothing and leaves the map as it is. -/
theorem Does.meaning_eq (does : call.Does c qs result qs') (shaped : ShapedQuotas qs) :
    (∃ outcome, QuotaOutcome.of result = some outcome ∧
      call.meaning c (limitsOf qs) = (outcome, limitsOf qs')) ∨
    (QuotaOutcome.of result = none ∧ limitsOf qs' = limitsOf qs) := by
  by_cases fits : call.Fits c qs
  · exact .inl ((does.fitting fits).meaning_eq shaped)
  · obtain ⟨⟨u, rfl⟩, rfl⟩ := does.long fits
    exact .inr ⟨rfl, rfl⟩

end QuotaCall

end OneFs
