import Mathlib.Data.List.Nodup
import OneFs.Proofs.Quota.Server

/-!
# A server that keeps quotas in memory

The state is the list of quotas itself. The server is ideal, so there are ideal servers for both
versions.

- `quotaMemory`: the server;
- `freshQuotaId_spec`: the id of a new quota is new;
- `decode_quotaPage`: the page that lists the quotas is read as them;
- `quotaMemory_ideal`: the server is ideal.
-/

namespace OneFs

open Json Http Url

/-! ## New ids -/

/-- An id that is longer than all others together. -/
def freshQuotaId (qs : List HeldQuota) : String :=
  String.ofList (List.replicate ((qs.flatMap fun q => q.id.toList).length + 1) 'q')

theorem freshQuotaId_spec (qs : List HeldQuota) :
    IsQuotaId (freshQuotaId qs) ∧ ∀ q ∈ qs, q.id ≠ freshQuotaId qs := by
  have chars : (freshQuotaId qs).toList =
      List.replicate ((qs.flatMap fun q => q.id.toList).length + 1) 'q' := String.toList_ofList
  refine ⟨⟨?_, ?_⟩, ?_⟩
  · intro empty
    rw [empty] at chars
    cases chars
  · intro c hc
    rw [chars] at hc
    rw [List.eq_of_mem_replicate hc]
    decide
  · intro q hq same
    have mem : q.id.toList ∈ qs.map fun q => q.id.toList := List.mem_map_of_mem hq
    have short : q.id.toList.length ≤ (qs.flatMap fun q => q.id.toList).length :=
      (List.sublist_flatten_of_mem mem).length_le
    rw [same, chars, List.length_replicate] at short
    omega

/-! ## Pages -/

/-- A quota as it is listed. -/
def HeldQuota.quota (q : HeldQuota) : Quota :=
  { Quota.blank with
    id := q.id
    path := q.path
    type := q.type
    enforced := q.enforced
    includeSnapshots := q.includeSnapshots
    thresholdsIncludeOverhead := q.thresholdsIncludeOverhead
    thresholds := { Thresholds.blank with
      advisory := q.levels.advisory
      soft := q.levels.soft
      hard := q.levels.hard } }

theorem HeldQuota.held_quota (q : HeldQuota) : q.quota.held = q :=
  rfl

/-- What is listed keeps nothing untyped. -/
theorem HeldQuota.tidy_quota (q : HeldQuota) : q.quota.Tidy :=
  ⟨Undeclared.nil _, ⟨Undeclared.nil _, nofun, nofun, nofun⟩, nofun, nofun⟩

/-- The page that lists quotas. -/
def quotaPage (qs : List HeldQuota) : Value :=
  .obj [("quotas", .arr (qs.map fun q => q.quota.encode))]

/-- A listed quota can be read. -/
theorem HeldQuota.legible_quota (q : HeldQuota) : q.quota.encode.Legible 2 := by
  have none : ∀ m ∈ ([] : List (String × Value)), m.2.Legible 4 :=
    fun _ hm => absurd hm List.not_mem_nil
  have levels : q.quota.thresholds.encode.Legible 3 := by
    refine legible_object (by decide) ?_
    simp only [List.forall_mem_append, List.forall_mem_cons]
    exact ⟨⟨legible_level _ _, trivial, trivial, legible_level _ _, trivial, trivial,
      legible_level _ _, trivial, trivial, none⟩, none⟩
  have usage : q.quota.usage.encode.Legible 3 := by
    refine legible_object (by decide) ?_
    simp only [List.forall_mem_cons]
    exact ⟨fitsNumber_int64 0, fitsNumber_int64 0, fitsNumber_int64 0, none⟩
  refine legible_object (by decide) ?_
  simp only [List.forall_mem_append, List.forall_mem_cons]
  have nothing : ∀ m ∈ ([] : List (String × Value)), m.2.Legible 3 :=
    fun _ hm => absurd hm List.not_mem_nil
  exact ⟨⟨⟨⟨⟨trivial, trivial, trivial, trivial, trivial, trivial, levels, trivial, usage, trivial,
    nothing⟩, nothing⟩, nothing⟩, nothing⟩, nothing⟩

/-- A page is read as the quotas in it. -/
theorem decode_quotaPage (qs : List HeldQuota) :
    Quota.listing.decode (quotaPage qs).text = .ok (qs.map HeldQuota.quota) := by
  have distinct : (["quotas"] : List String).Nodup := by decide
  have items : (list Quota.reader).Reads (.arr (qs.map fun q => q.quota.encode))
      (qs.map HeldQuota.quota) :=
    Reader.reads_list fun q _ => Quota.reads_encode q.tidy_quota
  refine Reader.Reads.decode_text (reads_distinct distinct fun _ => Fields.accepts_found rfl items)
    ⟨by decide, ⟨by decide, Value.itemsLegible_iff.mpr fun v hv => ?_⟩, trivial⟩
  obtain ⟨q, -, rfl⟩ := List.mem_map.mp hv
  exact q.legible_quota

/-! ## The server -/

/-- What is done with a request about all quotas. -/
def answerQuotas (qs : List HeldQuota) (r : Request) : Delivery × List HeldQuota :=
  if r.method = "GET" then (.received 200 (quotaPage qs).text, qs)
  else if r.method = "POST" then
    match termsIn.decode (Text.Utf8.text r.body) with
    | .ok terms =>
      if qs.any fun q => q.path = terms.path then (.received 409 "", qs)
      else (.received 201 "", qs ++ [{ toQuotaTerms := terms, id := freshQuotaId qs }])
    | .error _ => (.received 400 "", qs)
  else if r.method = "DELETE" then
    match r.url.query.bind fun query => lookup "path" (Form.decode query.toList) with
    | some path =>
      if qs.any fun q => q.path = path then (.received 204 "", qs.filter fun q => q.path ≠ path)
      else (.received 404 "", qs)
    | none => (.received 400 "", qs)
  else (.received 405 "", qs)

/-- What is done with a request about one quota. -/
def answerQuota (qs : List HeldQuota) (q : HeldQuota) (r : Request) : Delivery × List HeldQuota :=
  if r.method = "PUT" then
    match levelsIn.decode (Text.Utf8.text r.body) with
    | .ok levels => (.received 204 "", qs.map fun p => if p.id = q.id then { p with levels } else p)
    | .error _ => (.received 400 "", qs)
  else (.received 405 "", qs)

/-- A server that keeps its quotas in memory. -/
def quotaMemory (v : Version) : QuotaServer (List HeldQuota) where
  answer qs r :=
    if r.url.pathText = quotasTarget v none then answerQuotas qs r
    else
      match qs.find? fun q => quotasTarget v (some q.id) == r.url.pathText with
      | some q => answerQuota qs q r
      | none => (.received 404 "", qs)
  held qs := qs

/-- What is asked about all quotas is done with them. -/
theorem quotaMemory_all {v : Version} {qs : List HeldQuota} {r : Request}
    (target : r.url.pathText = quotasTarget v none) :
    (quotaMemory v).answer qs r = answerQuotas qs r :=
  if_pos target

/-- What is asked about a quota that is held is done with it. -/
theorem quotaMemory_one {v : Version} {qs : List HeldQuota} (shaped : ShapedQuotas qs)
    {q : HeldQuota} (mem : q ∈ qs) {r : Request}
    (target : r.url.pathText = quotasTarget v (some q.id)) :
    (quotaMemory v).answer qs r = answerQuota qs q r := by
  have other : ¬ r.url.pathText = quotasTarget v none := by
    rw [target]
    intro h
    cases Connection.resource_injective ((String.append_right_inj "/").mp h)
  -- Ids are distinct, so what is found by its target is what was asked about.
  have found : qs.find? (fun p => quotasTarget v (some p.id) == r.url.pathText) = some q := by
    rw [target]
    exact Connection.find?_resource shaped.distinct mem v.quotasPath
  show (if r.url.pathText = quotasTarget v none then _ else _) = _
  rw [if_neg other, found]

/-- Whether a path has a quota can be seen from the list. -/
theorem any_path {qs : List HeldQuota} {path : String} :
    (qs.any fun q => q.path = path) = true ↔ ∃ q ∈ qs, q.path = path := by
  simp

theorem not_any_path {qs : List HeldQuota} {path : String} :
    ¬ (qs.any fun q => q.path = path) = true ↔ ∀ q ∈ qs, q.path ≠ path := by
  simp

/-- The server is ideal. -/
theorem quotaMemory_ideal (v : Version) : (quotaMemory v).Ideal v where
  lists qs r shaped asks := by
    have held : (qs.map HeldQuota.quota).map Quota.held = qs := by
      have same : ∀ q ∈ qs, (Quota.held ∘ HeldQuota.quota) q = q := fun q _ => q.held_quota
      rw [List.map_map, List.map_congr_left same, List.map_id']
    refine ⟨200, (quotaPage qs).text, _, qs, ?_, rfl, decode_quotaPage qs, held, rfl⟩
    rw [quotaMemory_all asks.path, answerQuotas, if_pos asks.method]
  creates qs r terms shaped asks body absent := by
    have free : ¬ (qs.any fun q => q.path = terms.path) = true := not_any_path.mpr absent
    obtain ⟨valid, fresh⟩ := freshQuotaId_spec qs
    refine ⟨201, "", _, _, ?_, rfl, rfl, valid, fresh, rfl⟩
    rw [quotaMemory_all asks.path, answerQuotas, asks.method, body]
    exact if_neg free
  conflicts qs r terms shaped asks body there := by
    have taken : (qs.any fun q => q.path = terms.path) = true := any_path.mpr there
    refine ⟨"", qs, ?_, rfl⟩
    rw [quotaMemory_all asks.path, answerQuotas, asks.method, body]
    exact if_pos taken
  replaces qs r q mem levels shaped asks body := by
    have one : (quotaMemory v).answer qs r = answerQuota qs q r :=
      quotaMemory_one shaped mem asks.path
    refine ⟨204, "", _, ?_, rfl, rfl, rfl⟩
    rw [one, answerQuota, if_pos asks.method, body]
    rfl
  removes qs r query path shaped asks names there := by
    have taken : (qs.any fun q => q.path = path) = true := any_path.mpr there
    refine ⟨204, "", _, ?_, rfl, rfl, rfl⟩
    rw [quotaMemory_all asks.path, answerQuotas, asks.method, asks.query, Option.bind_some, names]
    exact if_pos taken
  misses qs r query path shaped asks names absent := by
    have free : ¬ (qs.any fun q => q.path = path) = true := not_any_path.mpr absent
    refine ⟨"", qs, ?_, rfl⟩
    rw [quotaMemory_all asks.path, answerQuotas, asks.method, asks.query, Option.bind_some, names]
    exact if_neg free

end OneFs
