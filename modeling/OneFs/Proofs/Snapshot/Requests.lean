import OneFs.Proofs.Connection.Parameters
import OneFs.Proofs.Exchange.Sends
import OneFs.Proofs.Export.Bodies
import OneFs.Proofs.Url.Ending

/-!
# Requests for snapshots

All snapshots and the one of an id have URLs that differ in their ends alone. So where one of them
can be asked for, the others can, unless a URL is too long.

- `Version.askSnapshots`: what is asked of snapshots;
- `Connection.snapshots_asked`, `Connection.snapshot_asked`: what is answered was asked;
- `Connection.SnapshotUrl`, `Connection.requestFor_snapshot`: the request for a snapshot, by another
  one for snapshots;
- `longPath`, `requestFor_distant`: endpoints that leave room for some of them.
-/

namespace OneFs

open Json Http Exchange Url

variable {σ : Type} {answer : σ → Request → Delivery × σ} {s : σ}

/-! ## What is asked -/

/-- What is asked of snapshots, or of the one of an id. -/
def Version.askSnapshots (v : Version) (method : String) (id : Option Int64) : Ask where
  method := method
  path := v.snapshotsPath
  id := id.map toString

namespace Connection

variable {c : Connection} {id : Int64} {x : Snapshot}

/-- A listing that comes in was asked for. -/
theorem snapshots_asked {all : List Snapshot}
    (listed : ((c.snapshots).run answer s).result = .ok all) :
    ∃ r, c.requestFor (c.version.askSnapshots "GET" none) = .ok r := by
  obtain ⟨reply, queried, -, -⟩ := of_bind_ok listed
  obtain ⟨r, request, -⟩ := query_sent queried
  exact ⟨r, request⟩

/-- So was a snapshot. -/
theorem snapshot_asked (found : ((c.snapshot id).run answer s).result = .ok x) :
    ∃ r, c.requestFor (c.version.askSnapshots "GET" (some id)) = .ok r := by
  obtain ⟨_, -, later, -⟩ := of_bind_ok found
  obtain ⟨reply, queried, -, -⟩ := of_bind_ok later
  obtain ⟨r, request, -⟩ := query_sent queried
  exact ⟨r, request⟩

end Connection

/-! ## URLs of snapshots -/

namespace Connection

theorem id_askSnapshots (v : Version) (method : String) (id : Option Int64) :
    (v.askSnapshots method id).id ≠ some "" := by
  intro empty
  obtain ⟨i, -, none⟩ := Option.map_eq_some_iff.mp empty
  exact id_ne_empty i none

/-- Whatever is asked of snapshots, it is read behind the endpoint and a plain path. -/
theorem rawUrl_snapshots (c : Connection) :
    ∃ first parent, first ≠ '/' ∧ (∀ x ∈ first :: parent, isPlainMark x = true) ∧
      ∀ method id, c.rawUrl (c.version.askSnapshots method id).path
          (c.version.askSnapshots method id).id =
        String.ofList (c.endpoint.toList ++ '/' :: (first :: parent ++ '/' ::
          (resource "snapshots" (id.map toString)).toList)) := by
  obtain ⟨first, parent, start, relative, plain⟩ : ∃ first parent,
      c.version.snapshotsPath.toList = first :: (parent ++ '/' :: "snapshots".toList) ∧
        first ≠ '/' ∧ ∀ x ∈ first :: parent, isPlainMark x = true := by
    cases c.version with
    | v1 => exact ⟨'p', "latform/1/snapshot".toList, rfl, by decide,
        List.all_eq_true.mp (by decide)⟩
    | v2 => exact ⟨'p', "latform/2/snapshot".toList, rfl, by decide,
        List.all_eq_true.mp (by decide)⟩
  refine ⟨first, parent, relative, plain, fun method id => ?_⟩
  have path : (c.version.askSnapshots method id).path.toList = _ := start
  rw [rawUrl_resource path relative (id_askSnapshots c.version method id)]
  apply String.toList_injective
  cases id <;> simp [resource, Version.askSnapshots, start]

/-- A plain path is plain with an id behind it. -/
theorem plain_resource {path : String} (plain : ∀ x ∈ path.toList, isPlainMark x = true)
    (id : Option Int64) :
    ∀ x ∈ (resource path (id.map toString)).toList, isPlainMark x = true := by
  cases id with
  | none => exact plain
  | some i =>
    intro x hx
    simp only [Option.map_some, resource, String.toList_append, List.mem_append] at hx
    rcases hx with (inPath | slash) | inId
    · exact plain x inPath
    · rw [List.mem_singleton.mp slash]
      rfl
    · exact isPlainMark_id i x inId

theorem plain_snapshots (id : Option Int64) :
    ∀ x ∈ (resource "snapshots" (id.map toString)).toList, isPlainMark x = true :=
  plain_resource (List.all_eq_true.mp (by decide)) id

end Connection

/-- If a URL can be sent, one that differs in what follows the authority can if it is not too
long. -/
theorem Url.isSendable_behind {v : Url} {here : List Char}
    (sendable : isSendable (bareUrl (v.behind here)) = true) (there : List Char) :
    isSendable (bareUrl (v.behind there)) =
      decide ((bareUrl (v.behind there)).text.utf8ByteSize ≤ longestUrl) := by
  rw [bareUrl_behind] at sendable ⊢
  have host := (Bool.and_eq_true_iff.mp sendable).1
  unfold isSendable
  rw [show ((bareUrl v).behind there).authority = ((bareUrl v).behind here).authority from rfl,
    host, Bool.true_and]

namespace Connection

/-- The URL of a snapshot. It ends in the id, and this is the end of its target unless a mark in the
endpoint makes a fragment of it. -/
structure SnapshotUrl (c : Connection) (id : Int64) (url : Url) : Prop where
  located : c.url c.version.snapshotsPath (some (toString id)) [] = .ok url
  ending : ∃ before,
    url.target ++ marked "#" url.fragment = before ++ "/snapshots/" ++ toString id
  whole : (∀ x ∈ c.endpoint.toList, x ≠ '?' ∧ x ≠ '#') → url.fragment = none

variable {c : Connection} {r : Request}

/-- If a request for snapshots can be sent, any request for the snapshot of an id can be sent to its
URL, unless this is too long. -/
theorem requestFor_snapshot {looked : Option Int64}
    (request : c.requestFor (c.version.askSnapshots "GET" looked) = .ok r) (method : String)
    (id : Int64) :
    ∃ url : Url, c.SnapshotUrl id url ∧
      ((bareUrl url).text.utf8ByteSize ≤ longestUrl →
        ∃ r, c.requestFor (c.version.askSnapshots method (some id)) = .ok r ∧
          r.url = bareUrl url) ∧
      (longestUrl < (bareUrl url).text.utf8ByteSize →
        c.requestFor (c.version.askSnapshots method (some id)) =
          .error (.request (.illegalAddress (bareUrl url)))) := by
  obtain ⟨first, parent, relative, plain, raw⟩ := c.rawUrl_snapshots
  obtain ⟨_, found, prepared⟩ := requestFor_spec request
  obtain ⟨given, legal, web, sendable, -⟩ := prepare_spec prepared
  obtain ⟨_, parsed, rfl⟩ := url_spec found
  rw [scheme_bareUrl] at web
  rw [raw] at parsed
  -- The two URLs have the authority in common.
  obtain ⟨v, tail, all⟩ := parse_renamed plain relative (plain_snapshots looked) parsed web
  obtain rfl := Except.ok.inj (parsed.symm.trans (all _ (plain_snapshots looked)))
  have beside := all _ (plain_snapshots (some id))
  rw [← raw method (some id)] at beside
  let url := v.behind (tail ++ '/' :: (resource "snapshots" (some (toString id))).toList)
  have located : c.url (c.version.askSnapshots method (some id)).path
      (c.version.askSnapshots method (some id)).id
      (c.version.askSnapshots method (some id)).params = .ok url := url_of_parse beside []
  have spoken : IsWeb url.scheme := web
  have asked := requestFor_of_url legal rfl located spoken
  rw [isSendable_behind sendable] at asked
  refine ⟨url, ⟨located, ?_, fun marks => ?_⟩, fun fits => ?_, fun long => ?_⟩
  · obtain ⟨before, ending⟩ := behind_ending v tail (plain_snapshots (some id))
    refine ⟨String.ofList before, String.toList_injective (ending.trans ?_)⟩
    simp [resource]
  · have unmarked : ∀ x ∈ (c.rawUrl (c.version.askSnapshots method (some id)).path
        (c.version.askSnapshots method (some id)).id).toList, endsPath x = false := by
      intro x hx
      rw [raw, String.toList_ofList, List.mem_append] at hx
      rcases hx with inEndpoint | behind
      · obtain ⟨question, number⟩ := marks x inEndpoint
        simp [endsPath, question, number]
      · have all : ∀ y ∈ first :: parent ++ '/' :: _, isPlainMark y = true :=
          List.forall_mem_append.mpr
            ⟨plain, List.forall_mem_cons.mpr ⟨rfl, plain_snapshots (some id)⟩⟩
        rcases List.mem_cons.mp behind with rfl | inResource
        · rfl
        · exact (isPlainMark_spec (all x inResource)).1.2
    exact (parse_markless beside spoken unmarked).2
  · rw [if_pos (decide_eq_true fits)] at asked
    exact ⟨_, asked, rfl⟩
  · have unsendable : ¬ decide ((bareUrl url).text.utf8ByteSize ≤ longestUrl) = true := by
      rw [decide_eq_true_iff]
      exact Nat.not_le.mpr long
    rw [if_neg unsendable] at asked
    exact asked

end Connection

/-! ## Endpoints with a long path -/

/-- What is asked of a connection to a path is what is asked of the site, below the path. -/
theorem Connection.requestFor_onPath {c : Connection} {ask : Ask} {base : String} {first : Char}
    {path : List Char} (begins : ∃ last rest, base.toList = last :: rest ∧ last ≠ '/')
    (start : ask.path.toList = first :: path) (relative : first ≠ '/')
    (filled : ask.id ≠ some "") :
    requestFor { c with endpoint := c.endpoint ++ "/" ++ base } ask =
      c.requestFor { ask with path := base ++ "/" ++ ask.path } := by
  obtain ⟨last, rest, begins, apart⟩ := begins
  let below : Ask := { ask with path := base ++ "/" ++ ask.path }
  have start' : below.path.toList = last :: (rest ++ '/' :: ask.path.toList) := by
    simp [below, begins]
  have raw : rawUrl { c with endpoint := c.endpoint ++ "/" ++ base } ask.path ask.id =
      c.rawUrl below.path below.id := by
    rw [rawUrl_resource start relative filled, rawUrl_resource start' apart filled]
    cases ask.id <;> simp [resource, below, String.append_assoc]
  unfold requestFor Connection.url
  dsimp only
  rw [raw]

/-- A path of so many letters. -/
def longPath (n : Nat) : String :=
  String.ofList (List.replicate n 'a')

/-- A connection to such a path. -/
def distantConnection (n : Nat) : Connection :=
  { localConnection with endpoint := localConnection.endpoint ++ "/" ++ longPath n }

theorem plain_longPath (n : Nat) : ∀ x ∈ (longPath n).toList, isPlainMark x = true := by
  intro x hx
  rw [longPath, String.toList_ofList] at hx
  rw [List.eq_of_mem_replicate hx]
  rfl

theorem size_longPath (n : Nat) : (longPath n).utf8ByteSize = n := by
  rw [utf8ByteSize_plain (plain_longPath n), longPath, String.toList_ofList, List.length_replicate]

theorem fits_local (resource : String) :
    localConnection.Fits resource ↔ 18 + resource.utf8ByteSize ≤ longestUrl := by
  let u : Url :=
    ⟨"http", "", none, some (.ipv6 [0, 0, 0, 0, 0, 0, 0, 1]), some 8080, .segments [""], none, none⟩
  have parsed : Url.parse localConnection.endpoint = .ok u := rfl
  have size : u.text.utf8ByteSize = 18 := rfl
  unfold Connection.Fits
  rw [parsed, ← size]
  simp

/-- There is a request for snapshots below such a path just if there is room for its URL. -/
theorem requestFor_distant {n : Nat} (filled : n ≠ 0) (method : String) (id : Option Int64) :
    (19 + n + (Connection.resource Version.v1.snapshotsPath (id.map toString)).utf8ByteSize ≤
        longestUrl →
      ∃ r, (distantConnection n).requestFor (Version.v1.askSnapshots method id) = .ok r) ∧
    (longestUrl <
        19 + n + (Connection.resource Version.v1.snapshotsPath (id.map toString)).utf8ByteSize →
      ∃ u, (distantConnection n).requestFor (Version.v1.askSnapshots method id) =
        .error (.request (.illegalAddress u))) := by
  have configured :
      Connection.ofConfig (.new "http://[::1]:8080/" "admin" "secret") = .ok localConnection := rfl
  have begins : ∃ rest, (longPath n).toList = 'a' :: rest := by
    obtain ⟨m, rfl⟩ := Nat.exists_eq_succ_of_ne_zero filled
    exact ⟨List.replicate m 'a', by rw [longPath, String.toList_ofList, List.replicate_succ]⟩
  obtain ⟨rest, begins⟩ := begins
  let below : Ask :=
    { Version.v1.askSnapshots method id with
      path := longPath n ++ "/" ++ (Version.v1.askSnapshots method id).path }
  have named := Connection.id_askSnapshots .v1 method id
  have own : Version.v1.snapshotsPath.toList = 'p' :: "latform/1/snapshot/snapshots".toList := by
    decide
  have onPath : (distantConnection n).requestFor (Version.v1.askSnapshots method id) =
      localConnection.requestFor below :=
    Connection.requestFor_onPath ⟨'a', rest, begins, by decide⟩ own (by decide) named
  have whole : Connection.resource below.path below.id = longPath n ++ "/" ++
      Connection.resource Version.v1.snapshotsPath (id.map toString) := by
    cases id <;> simp [Connection.resource, below, Version.askSnapshots, String.append_assoc]
  have start : below.path.toList = 'a' :: (rest ++ '/' :: Version.v1.snapshotsPath.toList) := by
    simp [below, begins, Version.askSnapshots]
  have plain : ∀ x ∈ (Connection.resource below.path below.id).toList, isPlainMark x = true := by
    have path : ∀ x ∈ below.path.toList, isPlainMark x = true := by
      have snapshots : ∀ x ∈ '/' :: Version.v1.snapshotsPath.toList, isPlainMark x = true :=
        List.all_eq_true.mp (by decide)
      rw [start, ← List.cons_append, ← begins]
      exact List.forall_mem_append.mpr ⟨plain_longPath n, snapshots⟩
    exact Connection.plain_resource path id
  have size : (Connection.resource below.path below.id ++
      marked "?" (queryOf below.params)).utf8ByteSize =
        n + 1 + (Connection.resource Version.v1.snapshotsPath (id.map toString)).utf8ByteSize := by
    have none : marked "?" (queryOf below.params) = "" := rfl
    rw [whole, none, String.append_empty, String.utf8ByteSize_append, String.utf8ByteSize_append,
      size_longPath]
    rfl
  obtain ⟨fits, long⟩ := Connection.requestFor_query
    (Connection.ofConfig_atSite configured isSite_loopback) start (by decide) named plain rfl
  rw [fits_local, size] at fits long
  rw [onPath]
  constructor
  · intro room
    obtain ⟨r, request, -⟩ := fits (by omega)
    exact ⟨r, request⟩
  · intro more
    exact long (by omega)

/-- A connection to such a path can be configured. -/
theorem distantConnection_configured {n : Nat} (filled : n ≠ 0) :
    Connection.ofConfig (.new ("http://[::1]:8080/" ++ longPath n) "admin" "secret") =
      .ok (distantConnection n) := by
  have valid : (Config.new ("http://[::1]:8080/" ++ longPath n) "admin" "secret").validate =
      .ok () := by
    unfold Config.validate
    simp [Config.new]
  have kept : Text.trimEnd (· == '/') ("http://[::1]:8080/" ++ longPath n).toList =
      ("http://[::1]:8080/" ++ longPath n).toList := by
    rw [trimEnd_eq_iff]
    intro x last
    have letters : (longPath n).toList ≠ [] := by simpa [longPath] using filled
    rw [String.toList_append, List.getLast?_append_of_ne_nil _ letters] at last
    have letter := List.mem_of_getLast? last
    rw [longPath, String.toList_ofList] at letter
    rw [List.eq_of_mem_replicate letter]
    rfl
  have endpoint : String.ofList (Text.trimEnd (· == '/')
      ("http://[::1]:8080/" ++ longPath n).toList) =
        localConnection.endpoint ++ "/" ++ longPath n := by
    rw [kept, String.ofList_toList]
    rfl
  unfold Connection.ofConfig
  rw [valid]
  exact congrArg (fun endpoint => Except.ok { localConnection with endpoint }) endpoint

end OneFs
