import Mathlib.Data.List.Nodup
import OneFs.Client
import OneFs.Proofs.Connection.Reply
import OneFs.Proofs.Connection.Site
import OneFs.Proofs.Exchange.Ends
import OneFs.Proofs.Quota.Bodies
import OneFs.Proofs.Url.Form

/-!
# An ideal server of quotas

A server is ideal if it does with its quotas what it is asked to do: it lists all of them, creates
one under an id of its own choice unless the path has one, replaces the levels of the one with an
id, and removes the one on a path. What it does besides, and what else it remembers, is left open.

- `ShapedQuotas`: lists of quotas on directories with distinct plain ids and distinct paths;
- `QuotaServer.Ideal`: the ideal servers for a version;
- `quota_cases`, `setQuota_ends`, `setQuota_refused`, `updateQuota_ends`, `updateQuota_missing`,
  `deleteQuota_ends`, `deleteQuota_refused`: the calls of a connection to one of them;
- `quotas_unsent`, `setQuota_unsent`, `updateQuota_unsent`, `deleteQuota_unsent`: the same calls
  if there is no room for their URLs.
-/

namespace OneFs

open Json Http Url

/-! ## What a server holds -/

/-- A quota as a server holds it. -/
structure HeldQuota extends QuotaTerms where
  id : String
  deriving DecidableEq

/-- What a listing says of a quota that is held. -/
def Quota.held (q : Quota) : HeldQuota where
  id := q.id
  path := q.path
  type := q.type
  enforced := q.enforced
  includeSnapshots := q.includeSnapshots
  thresholdsIncludeOverhead := q.thresholdsIncludeOverhead
  levels := ⟨q.thresholds.advisory, q.thresholds.hard, q.thresholds.soft⟩

/-- Ids of quotas consist of letters and digits, one or more. -/
structure IsQuotaId (id : String) : Prop where
  filled : id ≠ ""
  plain : ∀ c ∈ id.toList, c.isAlphanum = true

/-- An id, if it is given, is one. -/
def GivesQuotaId (id : Option String) : Prop :=
  ∀ i ∈ id, IsQuotaId i

theorem GivesQuotaId.none : GivesQuotaId none :=
  fun i h => absurd h (Option.not_mem_none i)

theorem GivesQuotaId.some {id : String} (h : IsQuotaId id) : GivesQuotaId (some id) :=
  fun _ mem => Option.some.inj mem ▸ h

/-- All quotas are on directories, their ids are distinct, and no two have the same path. -/
structure ShapedQuotas (qs : List HeldQuota) : Prop where
  directories : ∀ q ∈ qs, q.type = .directory
  ids : ∀ q ∈ qs, IsQuotaId q.id
  distinct : (qs.map HeldQuota.id).Nodup
  apart : (qs.map fun q => q.path).Nodup

namespace ShapedQuotas

variable {qs : List HeldQuota} {p q : HeldQuota}

/-- A path has one quota only. -/
theorem unique (shaped : ShapedQuotas qs) (hp : p ∈ qs) (hq : q ∈ qs) (same : p.path = q.path) :
    p = q :=
  List.inj_on_of_nodup_map shaped.apart hp hq same

/-- Of the quotas, the one on a path is the one of its id. -/
theorem id_eq_iff (shaped : ShapedQuotas qs) (hp : p ∈ qs) (hq : q ∈ qs) :
    p.id = q.id ↔ p.path = q.path := by
  constructor
  · intro same
    rw [List.inj_on_of_nodup_map shaped.distinct hp hq same]
  · intro same
    rw [shaped.unique hp hq same]

end ShapedQuotas

/-- A server, and the quotas that it holds in each of its states. -/
structure QuotaServer (σ : Type) where
  answer : σ → Request → Delivery × σ
  held : σ → List HeldQuota

/-- What a request for the quotas names as its path, or for the one of an id. -/
def quotasTarget (v : Version) (id : Option String) : String :=
  "/" ++ Connection.resource v.quotasPath id

/-- A request for the quotas, or for the one of an id. -/
structure ForQuotas (v : Version) (method : String) (id query : Option String) (r : Request) :
    Prop where
  method : r.method = method
  path : r.url.pathText = quotasTarget v id
  query : r.url.query = query

/-- A server that does with its quotas what it is asked to do. Only a request that it can read
counts. -/
structure QuotaServer.Ideal {σ : Type} (S : QuotaServer σ) (v : Version) : Prop where
  /-- It lists everything that it holds in one page. -/
  lists : ∀ s r, ShapedQuotas (S.held s) → ForQuotas v "GET" none none r →
    ∃ status body qs t, S.answer s r = (.received status body, t) ∧ isSuccess status = true ∧
      Quota.listing.decode body = .ok qs ∧ qs.map Quota.held = S.held s ∧ S.held t = S.held s
  /-- It adds a quota on the terms in the body under a new id. -/
  creates : ∀ s r terms, ShapedQuotas (S.held s) → ForQuotas v "POST" none none r →
    termsIn.decode (Text.Utf8.text r.body) = .ok terms → (∀ q ∈ S.held s, q.path ≠ terms.path) →
    ∃ status body id t, S.answer s r = (.received status body, t) ∧ isSuccess status = true ∧
      Text.isBlankText body = true ∧ IsQuotaId id ∧ (∀ q ∈ S.held s, q.id ≠ id) ∧
      S.held t = S.held s ++ [{ toQuotaTerms := terms, id }]
  /-- It refuses to if the path has a quota. -/
  conflicts : ∀ s r terms, ShapedQuotas (S.held s) → ForQuotas v "POST" none none r →
    termsIn.decode (Text.Utf8.text r.body) = .ok terms → (∃ q ∈ S.held s, q.path = terms.path) →
    ∃ body t, S.answer s r = (.received 409 body, t) ∧ S.held t = S.held s
  /-- It replaces the levels of a quota by those in the body. -/
  replaces : ∀ s r, ∀ q ∈ S.held s, ∀ levels, ShapedQuotas (S.held s) →
    ForQuotas v "PUT" (some q.id) none r → levelsIn.decode (Text.Utf8.text r.body) = .ok levels →
    ∃ status body t, S.answer s r = (.received status body, t) ∧ isSuccess status = true ∧
      Text.isBlankText body = true ∧
      S.held t = (S.held s).map fun p => if p.id = q.id then { p with levels } else p
  /-- It removes the quota on the path that the query names. -/
  removes : ∀ s r query path, ShapedQuotas (S.held s) → ForQuotas v "DELETE" none (some query) r →
    lookup "path" (Form.decode query.toList) = some path → (∃ q ∈ S.held s, q.path = path) →
    ∃ status body t, S.answer s r = (.received status body, t) ∧ isSuccess status = true ∧
      Text.isBlankText body = true ∧ S.held t = (S.held s).filter fun q => q.path ≠ path
  /-- It says so if there is none. -/
  misses : ∀ s r query path, ShapedQuotas (S.held s) → ForQuotas v "DELETE" none (some query) r →
    lookup "path" (Form.decode query.toList) = some path → (∀ q ∈ S.held s, q.path ≠ path) →
    ∃ body t, S.answer s r = (.received 404 body, t) ∧ S.held t = S.held s

/-! ## Requests for quotas -/

/-- What stands behind the first slash in the URL of the quotas, or of the one of an id, with
parameters. -/
def quotaResource (v : Version) (id : Option String) (params : List (String × String)) : String :=
  Connection.resource v.quotasPath id ++ marked "?" (queryOf params)

namespace Connection

/-- No slash begins the path of the quotas. -/
theorem quotasPath_start (v : Version) : ∃ path, v.quotasPath.toList = 'p' :: path := by
  cases v with
  | v1 => exact ⟨_, rfl⟩
  | v2 => exact ⟨_, rfl⟩

/-- The paths of quotas are plain. -/
theorem resource_quotas (v : Version) {id : Option String} (valid : GivesQuotaId id) :
    ∀ c ∈ (resource v.quotasPath id).toList, isPlainMark c = true := by
  have path : ∀ c ∈ v.quotasPath.toList, isPlainMark c = true := by
    cases v <;> exact List.all_eq_true.mp (by decide)
  cases id with
  | none => exact path
  | some id =>
    intro c hc
    change c ∈ (v.quotasPath ++ "/" ++ id).toList at hc
    rw [String.toList_append, String.toList_append] at hc
    rcases List.mem_append.mp hc with hc | hc
    · rcases List.mem_append.mp hc with hc | hc
      · exact path c hc
      · rw [List.mem_singleton.mp hc]
        decide
    · have := (valid id rfl).plain c hc
      simp [isPlainMark, this]

variable {c : Connection} {room : Nat} {id : Option String}

/-- Every call on quotas has its request if there is room for its URL. -/
theorem requestFor_quotas (site : c.AtSite room) (method : String)
    (valid : GivesQuotaId id) (params : List (String × String))
    (body : Option Value) :
    (c.Fits (quotaResource c.version id params) →
      ∃ r, c.requestFor ⟨method, c.version.quotasPath, id, params, [], body⟩ = .ok r ∧
        ForQuotas c.version method id (queryOf params) r ∧
        r.body = ((body.map Value.text).map Text.Utf8.bytes).getD []) ∧
    (¬ c.Fits (quotaResource c.version id params) →
      ∃ u, c.requestFor ⟨method, c.version.quotasPath, id, params, [], body⟩ =
        .error (.request (.illegalAddress u))) := by
  obtain ⟨path, start⟩ := quotasPath_start c.version
  have filled : id ≠ some "" := fun empty => (valid "" empty).filled rfl
  obtain ⟨sent, unsent⟩ := @requestFor_query c room
    ⟨method, c.version.quotasPath, id, params, [], body⟩ 'p' path site start (by decide) filled
    (resource_quotas c.version valid) rfl
  refine ⟨fun fits => ?_, unsent⟩
  obtain ⟨r, request, hmethod, hpath, hquery, hbody⟩ := sent fits
  exact ⟨r, request, ⟨hmethod, hpath, hquery⟩, hbody⟩

/-- There is no room for the removal of a quota on a long path. -/
theorem not_fits_removal {path : String} (long : longestUrl ≤ path.toList.length) :
    ¬ c.Fits (quotaResource c.version none [("path", path)]) := by
  rintro ⟨u, -, room⟩
  have query := Form.length_lt_encode "path" path
  have whole : (quotaResource c.version none [("path", path)]).utf8ByteSize =
      (resource c.version.quotasPath none).utf8ByteSize +
        ("?".utf8ByteSize + (String.ofList (Form.encode [("path", path)])).utf8ByteSize) := by
    show (resource c.version.quotasPath none ++
      ("?" ++ String.ofList (Form.encode [("path", path)]))).utf8ByteSize = _
    rw [String.utf8ByteSize_append, String.utf8ByteSize_append]
  omega

/-! ## Calls of a connection -/

variable {σ : Type} {S : QuotaServer σ} {s : σ} {path : String}

/-- All quotas are listed as they are held. -/
theorem quotas_ends (site : c.AtSite room) (ideal : S.Ideal c.version)
    (shaped : ShapedQuotas (S.held s)) (fits : c.Fits (quotaResource c.version none [])) :
    ∃ qs t, c.quotas.Ends S.answer s (.ok qs) t ∧ qs.map Quota.held = S.held s ∧
      S.held t = S.held s := by
  obtain ⟨r, request, asks, -⟩ := (requestFor_quotas site "GET" .none [] none).1 fits
  obtain ⟨status, body, qs, t, answered, success, read, same, kept⟩ := ideal.lists s r shaped asks
  have asked := query_ends (r := Quota.listing) request answered
  have judged : verdict Quota.listing ⟨status, body⟩ = .ok (some qs) := verdict_record success read
  rw [judged] at asked
  exact ⟨qs, t, asked.bind (.done qs), same, kept⟩

theorem quotas_unsent (site : c.AtSite room) (answer : σ → Request → Delivery × σ)
    (long : ¬ c.Fits (quotaResource c.version none [])) :
    ∃ u, c.quotas.Ends answer s (.error (.request (.illegalAddress u))) s := by
  obtain ⟨u, request⟩ := (requestFor_quotas site "GET" .none [] none).2 long
  exact ⟨u, (query_unsent request).bind_error⟩

/-- The quota on a path is the first that is listed with it. -/
theorem quota_found {answer : σ → Request → Delivery × σ} {t : σ} {qs : List Quota} {q : Quota}
    (listed : c.quotas.Ends answer s (.ok qs) t)
    (found : qs.find? (fun q => q.path == path) = some q) :
    (c.quota path).Ends answer s (.ok q) t := by
  refine listed.bind ?_
  rw [found]
  exact .done q

/-- If none is listed with it, there is none. -/
theorem quota_missing {answer : σ → Request → Delivery × σ} {t : σ} {qs : List Quota}
    (listed : c.quotas.Ends answer s (.ok qs) t) (absent : ∀ q ∈ qs, q.path ≠ path) :
    (c.quota path).Ends answer s (.error (.notFound ("Quota not found: " ++ path))) t := by
  have none : qs.find? (fun q => q.path == path) = none :=
    List.find?_eq_none.mpr fun q hq same => absent q hq (eq_of_beq same)
  refine listed.bind ?_
  rw [none]
  exact ⟨rfl, rfl⟩

/-- Either there is a quota on the path, and it is found, or there is none. -/
theorem quota_cases (site : c.AtSite room) (ideal : S.Ideal c.version)
    (shaped : ShapedQuotas (S.held s)) (fits : c.Fits (quotaResource c.version none []))
    (path : String) :
    ∃ t, S.held t = S.held s ∧
      ((∃ q : Quota, (c.quota path).Ends S.answer s (.ok q) t ∧ q.held ∈ S.held s ∧
          q.path = path) ∨
        ((c.quota path).Ends S.answer s (.error (.notFound ("Quota not found: " ++ path))) t ∧
          ∀ q ∈ S.held s, q.path ≠ path)) := by
  obtain ⟨qs, t, listed, same, kept⟩ := quotas_ends site ideal shaped fits
  refine ⟨t, kept, ?_⟩
  cases found : qs.find? fun q => q.path == path with
  | some q =>
    have here := List.find?_some found
    have mem := List.mem_map_of_mem (f := Quota.held) (List.mem_of_find?_eq_some found)
    rw [same] at mem
    exact .inl ⟨q, quota_found listed found, mem, eq_of_beq here⟩
  | none =>
    have absent : ∀ q ∈ qs, q.path ≠ path := fun q hq here =>
      List.find?_eq_none.mp found q hq (beq_iff_eq.mpr here)
    refine .inr ⟨quota_missing listed absent, fun h hh => ?_⟩
    rw [← same] at hh
    obtain ⟨q, hq, rfl⟩ := List.mem_map.mp hh
    exact absent q hq

/-- What is sent to put a quota on a directory asks for one on those terms. -/
theorem requestFor_terms (site : c.AtSite room) (fits : c.Fits (quotaResource c.version none []))
    (path : String) (levels : QuotaThresholds) :
    ∃ r, c.requestFor ⟨"POST", c.version.quotasPath, none, [], [],
        some (Quota.creation path levels)⟩ = .ok r ∧
      ForQuotas c.version "POST" none none r ∧
      termsIn.decode (Text.Utf8.text r.body) = .ok (.directory path levels) := by
  obtain ⟨r, request, asks, sent⟩ :=
    (requestFor_quotas site "POST" .none [] (some (Quota.creation path levels))).1 fits
  refine ⟨r, request, asks, ?_⟩
  rw [sent, Option.map_some, Option.map_some, Option.getD_some]
  exact termsIn_creation path levels

/-- A quota is created on a path that has none. -/
theorem setQuota_ends (site : c.AtSite room) (ideal : S.Ideal c.version)
    (shaped : ShapedQuotas (S.held s)) (fits : c.Fits (quotaResource c.version none []))
    (filled : path ≠ "") (levels : QuotaThresholds) (absent : ∀ q ∈ S.held s, q.path ≠ path) :
    ∃ id t, (c.setQuota path levels).Ends S.answer s (.ok ()) t ∧ IsQuotaId id ∧
      (∀ q ∈ S.held s, q.id ≠ id) ∧
      S.held t = S.held s ++ [{ toQuotaTerms := .directory path levels, id }] := by
  obtain ⟨r, request, asks, terms⟩ := requestFor_terms site fits path levels
  obtain ⟨status, body, id, t, answered, success, blank, valid, fresh, added⟩ :=
    ideal.creates s r _ shaped asks terms absent
  refine ⟨id, t, ?_, valid, fresh, added⟩
  exact (requirePath_ends filled).bind
    ((execute_ends request answered success blank).bind (.note _))

/-- On a path that has one it is not, and everything stays as it is. -/
theorem setQuota_refused (site : c.AtSite room) (ideal : S.Ideal c.version)
    (shaped : ShapedQuotas (S.held s)) (fits : c.Fits (quotaResource c.version none []))
    (filled : path ≠ "") (levels : QuotaThresholds) (there : ∃ q ∈ S.held s, q.path = path) :
    ∃ r t, (c.setQuota path levels).Ends S.answer s (.error (.rejected r)) t ∧ r.status = 409 ∧
      S.held t = S.held s := by
  obtain ⟨r, request, asks, terms⟩ := requestFor_terms site fits path levels
  obtain ⟨body, t, answered, kept⟩ := ideal.conflicts s r _ shaped asks terms there
  refine ⟨_, t, ?_, Rejection.status_ofBody 409 body, kept⟩
  exact (requirePath_ends filled).bind (execute_refused request answered rfl).bind_error

theorem setQuota_unsent (site : c.AtSite room) (answer : σ → Request → Delivery × σ)
    (long : ¬ c.Fits (quotaResource c.version none [])) (filled : path ≠ "")
    (levels : QuotaThresholds) :
    ∃ u, (c.setQuota path levels).Ends answer s (.error (.request (.illegalAddress u))) s := by
  obtain ⟨u, request⟩ :=
    (requestFor_quotas site "POST" .none [] (some (Quota.creation path levels))).2 long
  exact ⟨u, (requirePath_ends filled).bind (execute_unsent request).bind_error⟩

/-- The levels of the quota on a path are replaced, and nothing else is. -/
theorem updateQuota_ends (site : c.AtSite room) (ideal : S.Ideal c.version)
    (shaped : ShapedQuotas (S.held s)) (fits : c.Fits (quotaResource c.version none []))
    {q : HeldQuota} (mem : q ∈ S.held s)
    (reachable : c.Fits (quotaResource c.version (some q.id) [])) (levels : QuotaThresholds) :
    ∃ t, (c.updateQuota q.path levels).Ends S.answer s (.ok ()) t ∧
      S.held t = (S.held s).map fun p => if p.path = q.path then { p with levels } else p := by
  obtain ⟨t, kept, ⟨found, looked, mem', here⟩ | ⟨-, absent⟩⟩ :=
    quota_cases site ideal shaped fits q.path
  · obtain rfl : found.held = q := shaped.unique mem' mem here
    obtain ⟨r, request, asks, sent⟩ := (requestFor_quotas site "PUT" (.some (shaped.ids _ mem)) []
      (some (Quota.change levels))).1 reachable
    have body : levelsIn.decode (Text.Utf8.text r.body) = .ok levels := by
      rw [sent, Option.map_some, Option.map_some, Option.getD_some]
      exact levelsIn_change levels
    -- The change meets the server as the listing has left it, which holds the same.
    rw [← kept] at shaped mem
    obtain ⟨status, _, u, answered, success, blank, replaced⟩ :=
      ideal.replaces t r _ mem levels shaped asks body
    refine ⟨u, looked.bind ((execute_ends request answered success blank).bind (.note _)), ?_⟩
    rw [replaced, ← kept]
    refine List.map_congr_left fun p hp => ?_
    simp only [shaped.id_eq_iff hp mem]
  · exact absurd rfl (absent q mem)

/-- Without a quota on the path there is nothing to change. -/
theorem updateQuota_missing (site : c.AtSite room) (ideal : S.Ideal c.version)
    (shaped : ShapedQuotas (S.held s)) (fits : c.Fits (quotaResource c.version none []))
    (absent : ∀ q ∈ S.held s, q.path ≠ path) (levels : QuotaThresholds) :
    ∃ t, (c.updateQuota path levels).Ends S.answer s
        (.error (.notFound ("Quota not found: " ++ path))) t ∧ S.held t = S.held s := by
  obtain ⟨t, kept, ⟨found, -, mem, here⟩ | ⟨looked, -⟩⟩ := quota_cases site ideal shaped fits path
  · exact absurd here (absent _ mem)
  · exact ⟨t, looked.bind_error, kept⟩

/-- A quota whose own URL is too long is found, and stays as it is. -/
theorem updateQuota_unsent (site : c.AtSite room) (ideal : S.Ideal c.version)
    (shaped : ShapedQuotas (S.held s)) (fits : c.Fits (quotaResource c.version none []))
    {q : HeldQuota} (mem : q ∈ S.held s)
    (long : ¬ c.Fits (quotaResource c.version (some q.id) [])) (levels : QuotaThresholds) :
    ∃ u t, (c.updateQuota q.path levels).Ends S.answer s (.error (.request (.illegalAddress u))) t ∧
      S.held t = S.held s := by
  obtain ⟨t, kept, ⟨found, looked, mem', here⟩ | ⟨-, absent⟩⟩ :=
    quota_cases site ideal shaped fits q.path
  · obtain rfl : found.held = q := shaped.unique mem' mem here
    obtain ⟨u, request⟩ := (requestFor_quotas site "PUT" (.some (shaped.ids _ mem)) []
      (some (Quota.change levels))).2 long
    exact ⟨u, t, looked.bind (execute_unsent request).bind_error, kept⟩
  · exact absurd rfl (absent q mem)

/-- The parameter of a removal is read back as the path. -/
theorem requestFor_removal (site : c.AtSite room) (path : String)
    (fits : c.Fits (quotaResource c.version none [("path", path)])) :
    ∃ r query, c.requestFor ⟨"DELETE", c.version.quotasPath, none, [("path", path)], [], none⟩ =
        .ok r ∧
      ForQuotas c.version "DELETE" none (some query) r ∧
      lookup "path" (Form.decode query.toList) = some path := by
  obtain ⟨r, request, asks, -⟩ :=
    (requestFor_quotas site "DELETE" .none [("path", path)] none).1 fits
  refine ⟨r, _, request, asks, ?_⟩
  rw [String.toList_ofList, Form.decode_encode]
  rfl

/-- The quota on a path is removed, and nothing else is. -/
theorem deleteQuota_ends (site : c.AtSite room) (ideal : S.Ideal c.version)
    (shaped : ShapedQuotas (S.held s)) (filled : path ≠ "")
    (fits : c.Fits (quotaResource c.version none [("path", path)]))
    (there : ∃ q ∈ S.held s, q.path = path) :
    ∃ t, (c.deleteQuota path).Ends S.answer s (.ok ()) t ∧
      S.held t = (S.held s).filter fun q => q.path ≠ path := by
  obtain ⟨r, query, request, asks, names⟩ := requestFor_removal site path fits
  obtain ⟨status, body, t, answered, success, blank, removed⟩ :=
    ideal.removes s r query path shaped asks names there
  exact ⟨t, (requirePath_ends filled).bind (execute_ends request answered success blank), removed⟩

/-- Without a quota on the path the removal is refused. -/
theorem deleteQuota_refused (site : c.AtSite room) (ideal : S.Ideal c.version)
    (shaped : ShapedQuotas (S.held s)) (filled : path ≠ "")
    (fits : c.Fits (quotaResource c.version none [("path", path)]))
    (absent : ∀ q ∈ S.held s, q.path ≠ path) :
    ∃ r t, (c.deleteQuota path).Ends S.answer s (.error (.rejected r)) t ∧ r.status = 404 ∧
      S.held t = S.held s := by
  obtain ⟨r, query, request, asks, names⟩ := requestFor_removal site path fits
  obtain ⟨body, t, answered, kept⟩ :=
    ideal.misses s r query path shaped asks names absent
  exact ⟨_, t, (requirePath_ends filled).bind (execute_refused request answered rfl),
    Rejection.status_ofBody 404 body, kept⟩

theorem deleteQuota_unsent (site : c.AtSite room) (answer : σ → Request → Delivery × σ)
    (filled : path ≠ "") (long : ¬ c.Fits (quotaResource c.version none [("path", path)])) :
    ∃ u, (c.deleteQuota path).Ends answer s (.error (.request (.illegalAddress u))) s := by
  obtain ⟨u, request⟩ := (requestFor_quotas site "DELETE" .none [("path", path)] none).2 long
  exact ⟨u, (requirePath_ends filled).bind (execute_unsent request)⟩

end Connection

end OneFs
