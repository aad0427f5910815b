import OneFs.Client
import OneFs.Proofs.Connection.Site
import OneFs.Proofs.Exchange.Ends
import OneFs.Proofs.Export.Bodies

/-!
# An ideal server of exports

A server is ideal if it does with its exports what it is asked to do: it lists all of them, creates
one under an id of its own choice, replaces the clients of one, and removes one. What it does
besides, and what else it remembers, is left open.

- `Shaped`: lists of exports with distinct ids that are not zero, of which each publishes one path
  and no two the same;
- `ExportServer.Ideal`: the ideal servers for a version;
- `exports_ends`, `createExport_ends`, `createExport_refused`, `setExportClients_ends`,
  `removeExport_ends`: the calls of a connection to one of them.
-/

namespace OneFs

open Json Http Url

/-! ## What a server holds -/

/-- How many ids there are: all numbers of 64 bits but zero. -/
def idCount : Nat :=
  18446744073709551615

/-- An export as a server holds it. -/
structure Held where
  id : Int64
  paths : List String
  clients : List String
  deriving DecidableEq

/-- Whether an export publishes a path. -/
def Held.publishes (e : Held) (path : String) : Bool :=
  e.paths.any (· == path)

/-- What a listing says of an export that is held; none stands for no clients. -/
def Export.held (e : Export) : Held :=
  ⟨e.id, e.paths, e.allowed⟩

/-- The ids are distinct and not zero, each export publishes one path, and no two the same. -/
structure Shaped (es : List Held) : Prop where
  distinct : (es.map Held.id).Nodup
  nonzero : ∀ e ∈ es, e.id ≠ 0
  single : ∀ e ∈ es, ∃ path, e.paths = [path]
  apart : (es.map Held.paths).Nodup

/-- A server, and the exports that it holds in each of its states. -/
structure ExportServer (σ : Type) where
  answer : σ → Request → Delivery × σ
  held : σ → List Held

/-- What a request for the exports names, or for the one of an id. -/
def exportsTarget (v : Version) (id : Option Int64) : String :=
  "/" ++ Connection.resource v.exportsPath (id.map toString)

/-- A server that does with its exports what it is asked to do. Only a request that it can read
counts, and it can only find an id for a new export while there is one left. -/
structure ExportServer.Ideal {σ : Type} (S : ExportServer σ) (v : Version) : Prop where
  /-- It lists everything that it holds in one page. -/
  lists : ∀ s r, Shaped (S.held s) → r.method = "GET" → r.url.target = exportsTarget v none →
    ∃ status body l t, S.answer s r = (.received status body, t) ∧ isSuccess status = true ∧
      ExportList.reader.decode body = .ok l ∧ l.exports.map Export.held = S.held s ∧
      S.held t = S.held s
  /-- It adds an export of the paths in the body, without clients, and tells its new id. -/
  creates : ∀ s r paths, Shaped (S.held s) → r.method = "POST" →
    r.url.target = exportsTarget v none → pathsIn.decode (Text.Utf8.text r.body) = .ok paths →
    (S.held s).length < idCount →
    ∃ status body id t, S.answer s r = (.received status body, t) ∧ isSuccess status = true ∧
      Export.createdId.decode body = .ok id ∧ id ≠ 0 ∧ (∀ e ∈ S.held s, e.id ≠ id) ∧
      S.held t = S.held s ++ [⟨id, paths, []⟩]
  /-- It refuses to if it has used all ids. -/
  refuses : ∀ s r paths, Shaped (S.held s) → r.method = "POST" →
    r.url.target = exportsTarget v none → pathsIn.decode (Text.Utf8.text r.body) = .ok paths →
    ¬ (S.held s).length < idCount →
    ∃ status body t, S.answer s r = (.received status body, t) ∧ isSuccess status = false ∧
      S.held t = S.held s
  /-- It replaces the clients of an export by those in the body. -/
  replaces : ∀ s r, ∀ e ∈ S.held s, ∀ clients, Shaped (S.held s) → r.method = "PUT" →
    r.url.target = exportsTarget v (some e.id) →
    clientsIn.decode (Text.Utf8.text r.body) = .ok clients →
    ∃ status body t, S.answer s r = (.received status body, t) ∧ isSuccess status = true ∧
      Text.isBlankText body = true ∧
      S.held t = (S.held s).map fun f => if f.id = e.id then { f with clients } else f
  /-- It removes an export. -/
  removes : ∀ s r, ∀ e ∈ S.held s, Shaped (S.held s) → r.method = "DELETE" →
    r.url.target = exportsTarget v (some e.id) →
    ∃ status body t, S.answer s r = (.received status body, t) ∧ isSuccess status = true ∧
      Text.isBlankText body = true ∧ S.held t = (S.held s).filter fun f => f.id ≠ e.id

/-! ## Requests for exports -/

/-- The most characters that stand behind the first slash in the URL of an export. -/
def exportRoom : Nat :=
  53

namespace Connection

/-- The paths of exports are plain, and there is room for them. -/
theorem resource_exports (v : Version) (id : Option Int64) :
    (∀ c ∈ (resource v.exportsPath (id.map toString)).toList, isPlainMark c = true) ∧
      (resource v.exportsPath (id.map toString)).utf8ByteSize ≤ exportRoom := by
  have path : (∀ c ∈ v.exportsPath.toList, isPlainMark c = true) ∧
      v.exportsPath.utf8ByteSize = 32 := by
    cases v <;> exact ⟨List.all_eq_true.mp (by decide), by decide⟩
  cases id with
  | none =>
    refine ⟨path.1, ?_⟩
    show v.exportsPath.utf8ByteSize ≤ _
    rw [path.2]
    decide
  | some id =>
    constructor
    · show ∀ c ∈ (v.exportsPath ++ "/" ++ toString id).toList, _
      intro c hc
      rw [String.toList_append, String.toList_append] at hc
      rcases List.mem_append.mp hc with hc | hc
      · rcases List.mem_append.mp hc with hc | hc
        · exact path.1 c hc
        · rw [List.mem_singleton.mp hc]
          decide
      · exact isPlainMark_id id c hc
    · show (v.exportsPath ++ "/" ++ toString id).utf8ByteSize ≤ _
      have digits := size_id id
      have slash : "/".utf8ByteSize = 1 := by decide
      rw [String.utf8ByteSize_append, String.utf8ByteSize_append, path.2, slash]
      unfold exportRoom
      omega

variable {c : Connection}

/-- Every call on exports has its request. -/
theorem requestFor_exports (site : c.AtSite exportRoom) (method : String) (id : Option Int64)
    (body : Option Value) :
    ∃ r, c.requestFor ⟨method, c.version.exportsPath, id.map toString, [], [], body⟩ = .ok r ∧
      r.method = method ∧ r.url.target = exportsTarget c.version id ∧
      r.body = ((body.map Value.text).map Text.Utf8.bytes).getD [] := by
  have start : ∃ path, c.version.exportsPath.toList = 'p' :: path := by
    cases c.version <;> exact ⟨_, rfl⟩
  obtain ⟨path, start⟩ := start
  have filled : id.map toString ≠ some "" := by
    cases id with
    | none => exact fun h => by cases h
    | some id => exact fun h => id_ne_empty id (Option.some.inj h)
  obtain ⟨plain, fits⟩ := resource_exports c.version id
  exact requestFor_atSite site start (by decide) filled plain fits ⟨rfl, rfl⟩

/-! ## Calls of a connection -/

variable {σ : Type} {S : ExportServer σ} {s : σ}

/-- All exports are listed as they are held. -/
theorem exports_ends (site : c.AtSite exportRoom) (ideal : S.Ideal c.version)
    (shaped : Shaped (S.held s)) :
    ∃ es t, c.exports.Ends S.answer s (.ok es) t ∧ es.map Export.held = S.held s ∧
      S.held t = S.held s := by
  obtain ⟨r, request, method, target, -⟩ := requestFor_exports site "GET" none none
  obtain ⟨status, body, l, t, answered, success, read, same, kept⟩ :=
    ideal.lists s r shaped method target
  have asked := query_ends (r := ExportList.reader) request answered
  have judged : verdict ExportList.reader ⟨status, body⟩ = .ok (some l) :=
    verdict_record success read
  rw [judged] at asked
  exact ⟨l.exports, t, asked.bind (.done _), same, kept⟩

/-- What is sent to create an export asks for its path. -/
theorem requestFor_creation (site : c.AtSite exportRoom) (path : String) :
    ∃ r, c.requestFor ⟨"POST", c.version.exportsPath, none, [], [], some (c.exportBody path)⟩ =
        .ok r ∧
      r.method = "POST" ∧ r.url.target = exportsTarget c.version none ∧
      pathsIn.decode (Text.Utf8.text r.body) = .ok [path] := by
  obtain ⟨r, request, method, target, sent⟩ :=
    requestFor_exports site "POST" none (some (c.exportBody path))
  refine ⟨r, request, method, target, ?_⟩
  rw [sent]
  exact pathsIn_exportBody c path

/-- An export is created while there is an id left. -/
theorem createExport_ends (site : c.AtSite exportRoom) (ideal : S.Ideal c.version)
    (shaped : Shaped (S.held s)) {path : String} (filled : path ≠ "")
    (room : (S.held s).length < idCount) :
    ∃ id t, (c.createExport path).Ends S.answer s (.ok id) t ∧ id ≠ 0 ∧
      (∀ e ∈ S.held s, e.id ≠ id) ∧ S.held t = S.held s ++ [⟨id, [path], []⟩] := by
  obtain ⟨r, request, method, target, asks⟩ := requestFor_creation site path
  obtain ⟨status, body, id, t, answered, success, read, nonzero, fresh, added⟩ :=
    ideal.creates s r [path] shaped method target asks room
  have asked := query_ends (r := Export.createdId) request answered
  have judged : verdict Export.createdId ⟨status, body⟩ = .ok (some id) :=
    verdict_record success read
  rw [judged] at asked
  have present : (!path.isEmpty) = true := by simpa using filled
  refine ⟨id, t, ?_, nonzero, fresh, added⟩
  exact (require_ends present _).bind (asked.bind ((Exchange.Ends.done id).bind
    ((Exchange.Ends.note _).bind (.done id))))

/-- Without an id left, the creation fails and leaves everything as it is. -/
theorem createExport_refused (site : c.AtSite exportRoom) (ideal : S.Ideal c.version)
    (shaped : Shaped (S.held s)) {path : String} (filled : path ≠ "")
    (full : ¬ (S.held s).length < idCount) :
    ∃ f t, (c.createExport path).Ends S.answer s (.error f) t ∧ S.held t = S.held s := by
  obtain ⟨r, request, method, target, asks⟩ := requestFor_creation site path
  obtain ⟨status, body, t, answered, refusal, kept⟩ :=
    ideal.refuses s r [path] shaped method target asks full
  have asked := query_ends (r := Export.createdId) request answered
  obtain ⟨f, judged⟩ := verdict_refusal Export.createdId body refusal
  rw [judged] at asked
  have present : (!path.isEmpty) = true := by simpa using filled
  exact ⟨f, t, (require_ends present _).bind asked.bind_error, kept⟩

/-- The clients of an export that is held are replaced. -/
theorem setExportClients_ends (site : c.AtSite exportRoom) (ideal : S.Ideal c.version)
    (shaped : Shaped (S.held s)) {e : Held} (mem : e ∈ S.held s) (clients : List String) :
    ∃ t, (c.setExportClients e.id clients).Ends S.answer s (.ok ()) t ∧
      S.held t = (S.held s).map fun f => if f.id = e.id then { f with clients } else f := by
  obtain ⟨r, request, method, target, sent⟩ :=
    requestFor_exports site "PUT" (some e.id) (some (Export.restriction clients))
  have asks : clientsIn.decode (Text.Utf8.text r.body) = .ok clients := by
    rw [sent]
    exact clientsIn_restriction clients
  obtain ⟨status, body, t, answered, success, blank, replaced⟩ :=
    ideal.replaces s r e mem clients shaped method target asks
  have present : (e.id != 0) = true := bne_iff_ne.mpr (shaped.nonzero e mem)
  refine ⟨t, ?_, replaced⟩
  exact (require_ends present _).bind (execute_ends request answered success blank)

/-- An export that is held is removed. -/
theorem removeExport_ends (site : c.AtSite exportRoom) (ideal : S.Ideal c.version)
    (shaped : Shaped (S.held s)) {e : Held} (mem : e ∈ S.held s) :
    ∃ t, (c.removeExport e.id).Ends S.answer s (.ok ()) t ∧
      S.held t = (S.held s).filter fun f => f.id ≠ e.id := by
  obtain ⟨r, request, method, target, -⟩ := requestFor_exports site "DELETE" (some e.id) none
  obtain ⟨status, body, t, answered, success, blank, removed⟩ :=
    ideal.removes s r e mem shaped method target
  have present : (e.id != 0) = true := bne_iff_ne.mpr (shaped.nonzero e mem)
  refine ⟨t, ?_, removed⟩
  exact (require_ends present _).bind
    ((execute_ends request answered success blank).bind (.note _))

end Connection

end OneFs
