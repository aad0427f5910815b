import Mathlib.Data.Bool.AllAny
import OneFs.Call
import OneFs.Proofs.Connection.Address
import OneFs.Proofs.Exchange.Sends

/-!
# Addresses of volumes

The name of a volume is written into a URL as it is, and what is read from there need not be the
name. A request addresses the volume just if the path of the volume is plain.

- `Connection.Addresses`: that a request is for a volume, and for nothing else;
- `ConnectionCall.volume?`: the calls that name a volume, with what they send;
- `url_of_asksFor`: the URL of a request for a volume;
- `addressed_iff_plain`: the requests that address the volume they name.
-/

namespace OneFs

open Json Http Exchange Url Percent
open Text.Utf8 (bytes bytesOfChar flatMap_bytesOfChar_injective)

variable {α : Type}

/-! ## Volumes and their paths -/

theorem not_mem_nameFromPath (path : String) : '/' ∉ (nameFromPath path).toList := by
  intro mem
  rw [nameFromPath, String.toList_ofList, List.mem_reverse] at mem
  exact absurd (List.mem_takeWhile_imp mem) (by decide)

/-- The last component of a path below a directory is what stands after the last slash. -/
theorem nameFromPath_append {name : String} (single : '/' ∉ name.toList) (directory : String) :
    nameFromPath (directory ++ "/" ++ name) = name := by
  have reversed : (directory ++ "/" ++ name).toList.reverse =
      name.toList.reverse ++ '/' :: directory.toList.reverse := by
    simp
  have kept : ∀ x ∈ name.toList.reverse, (x != '/') = true := fun x hx =>
    bne_iff_ne.mpr fun eq => single (eq ▸ List.mem_reverse.mp hx)
  rw [nameFromPath, reversed, List.takeWhile_append_of_pos kept,
    List.takeWhile_cons_of_neg (by decide), List.append_nil, List.reverse_reverse,
    String.ofList_toList]

namespace Connection

/-- The path of a volume below the endpoint. -/
def volumePath (c : Connection) (name : String) : String :=
  c.namespacePath ++ "/" ++ name

/-- A request is for a volume: its path stands for the path of the endpoint, a slash and the path of
the volume, and its query is one of those given. -/
def Addresses (c : Connection) (name : String) (queries : List (Option String)) (r : Request) :
    Prop :=
  (∃ base, c.base? = some base ∧
    decode r.url.pathText.toList = base ++ 0x2F :: bytes (c.volumePath name)) ∧
  r.url.query ∈ queries

end Connection

/-- The volume that a call creates, looks up, deletes, or copies something into. -/
def ConnectionCall.volume? : ConnectionCall → Option String
  | .createVolume name => some name
  | .volume name => some name
  | .deleteVolume name => some name
  | .copyVolume _ destination => some destination
  | .copySnapshot _ _ destination => some destination
  | _ => none

/-- The queries that these calls have use for. -/
def ConnectionCall.ownQueries : ConnectionCall → List (Option String)
  | .createVolume _ => [none, some "acl="]
  | .volume _ => [some "metadata="]
  | .deleteVolume _ => [some "recursive=true"]
  | _ => [none]

namespace Connection

/-- Something is asked about a volume. -/
def AsksFor (c : Connection) (name : String) (queries : List (Option String)) (r : Request) :
    Prop :=
  ∃ ask : Ask, c.requestFor ask = .ok r ∧ ask.path = c.namespacePath ∧ ask.id = some name ∧
    queryOf ask.params ∈ queries

variable (c : Connection)

theorem execute_asksFor (ask : Ask) (name : String) {queries : List (Option String)}
    (path : ask.path = c.namespacePath) (id : ask.id = some name)
    (params : queryOf ask.params ∈ queries) :
    (c.execute ask).Sends (c.AsksFor name queries) :=
  (execute_sends c ask).mono fun _ request => ⟨ask, request, path, id, params⟩

theorem query_asksFor (ask : Ask) (r : Reader α) (name : String) {queries : List (Option String)}
    (path : ask.path = c.namespacePath) (id : ask.id = some name)
    (params : queryOf ask.params ∈ queries) :
    (c.query ask r).Sends (c.AsksFor name queries) :=
  (query_sends c ask r).mono fun _ request => ⟨ask, request, path, id, params⟩

end Connection

/-- The parameters of these calls make up the queries that they have use for. -/
theorem queryOf_own :
    queryOf [] = none ∧ queryOf [("acl", "")] = some "acl=" ∧
      queryOf [("metadata", "")] = some "metadata=" ∧
      queryOf [("recursive", "true")] = some "recursive=true" := by
  decide

/-- The calls that name a volume ask for nothing else. -/
theorem ConnectionCall.sends_asksFor (c : Connection) (call : ConnectionCall) (name : String)
    (named : call.volume? = some name) : (call.run c).Sends (c.AsksFor name call.ownQueries) := by
  obtain ⟨nothing, acl, metadata, recursive⟩ := queryOf_own
  cases call with
  | createVolume _ =>
    cases named
    refine .map _ (.bind (.require _ _) fun _ => .bind ?_ fun _ => .bind ?_ fun _ => .note _)
    · exact c.execute_asksFor _ name rfl rfl (List.mem_cons.mpr (.inl nothing))
    · exact c.execute_asksFor _ name rfl rfl
        (List.mem_cons_of_mem none (List.mem_singleton.mpr acl))
  | volume _ =>
    cases named
    refine .map _ (.bind (.require _ _) fun _ => .bind ?_ fun _ => .done _)
    exact c.query_asksFor _ _ name rfl rfl (List.mem_singleton.mpr metadata)
  | deleteVolume _ =>
    cases named
    refine .map _ (.bind (.require _ _) fun _ => .bind ?_ fun _ => .note _)
    exact c.execute_asksFor _ name rfl rfl (List.mem_singleton.mpr recursive)
  | copyVolume _ _ =>
    cases named
    refine .map _ (.bind (.require _ _) fun _ => .bind (.require _ _) fun _ => .bind ?_ fun _ =>
      .note _)
    exact c.execute_asksFor _ name rfl rfl (List.mem_singleton.mpr nothing)
  | copySnapshot _ _ _ =>
    cases named
    refine .map _ (.bind (.require _ _) fun _ => .bind ?_ fun _ => .note _)
    exact c.execute_asksFor _ name rfl rfl (List.mem_singleton.mpr nothing)
  | _ => cases named

/-! ## URLs of volumes -/

namespace Connection

/-- The raw URL of a volume. -/
theorem rawUrl_volume (c : Connection) {name : String} (filled : name ≠ "") :
    c.rawUrl c.namespacePath (some name) =
      String.ofList (c.endpoint.toList ++ '/' :: (c.volumePath name).toList) := by
  have root : c.namespacePath.toList.dropWhile (· == '/') = c.namespacePath.toList := by
    have : c.namespacePath.toList = "namespace".toList ++ c.volumesPath.toList := by
      rw [← String.toList_append]
      rfl
    rw [this]
    rfl
  have empty : name.isEmpty = false := by simpa using filled
  unfold rawUrl volumePath
  simp only [root, empty]
  apply String.toList_injective
  simp

/-- What a request about a volume has in its URL. -/
theorem url_of_asksFor {c : Connection} (marks : ∀ x ∈ c.endpoint.toList, endsPath x = false)
    {base : List UInt8} (hbase : c.base? = some base) {name : String} (filled : name ≠ "")
    {queries : List (Option String)} {r : Request} (asks : c.AsksFor name queries r) :
    ∃ done, base = pathBytes done.reverse ∧
      r.url.path = pathOf (resolve false done
        (Text.pieces (isSlash true) (front (c.volumePath name).toList))) ∧
      (heard (c.volumePath name).toList = front (c.volumePath name).toList →
        r.url.query ∈ queries) := by
  obtain ⟨ask, request, path, id, params⟩ := asks
  have raw := rawUrl_volume c filled
  rw [← path, ← id] at raw
  obtain ⟨done, same, segments, query⟩ := url_of_rawUrl marks hbase raw request
  exact ⟨done, same, segments, fun whole => query whole ▸ params⟩

/-- A request about a volume addresses it just if the path of the volume is plain. -/
theorem addresses_iff {c : Connection} (marks : ∀ x ∈ c.endpoint.toList, endsPath x = false)
    {base : List UInt8} (hbase : c.base? = some base) {name : String} (filled : name ≠ "")
    {queries : List (Option String)} {r : Request} (asks : c.AsksFor name queries r) :
    c.Addresses name queries r ↔ PlainPath (c.volumePath name).toList := by
  obtain ⟨done, same, path, query⟩ := url_of_asksFor marks hbase filled asks
  rw [← decode_pathText_iff path, ← same]
  constructor
  · rintro ⟨⟨base', hbase', eq⟩, -⟩
    rw [hbase] at hbase'
    cases hbase'
    exact eq
  · intro eq
    refine ⟨⟨base, hbase, eq⟩, query ?_⟩
    rw [same, decode_pathText_iff path] at eq
    exact eq.heard_eq

/-- The target of a request tells its path apart from its query. -/
theorem pathText_of_target {u v : Url} {ss ts : List (List Char)} (hu : u.path = pathOf ss)
    (hv : v.path = pathOf ts) (same : u.target = v.target) : u.pathText = v.pathText := by
  have free : ∀ (u : Url) (ss : List (List Char)), u.path = pathOf ss →
      u.target.toList.takeWhile (· != '?') = u.pathText.toList := by
    intro u ss h
    -- A question mark in the path is written as a triple, so the first one begins the query.
    have all : ∀ x ∈ u.pathText.toList, (x != '?') = true := by
      rw [toList_pathText u ss h]
      intro x hx
      obtain ⟨s, -, hx⟩ := List.mem_flatMap.mp hx
      rcases List.mem_cons.mp hx with rfl | hx
      · decide
      · rw [bne_iff_ne]
        rintro rfl
        exact absurd (not_inPath_of_mem_encode s _ hx) (by decide)
    unfold Url.target
    rw [String.toList_append, List.takeWhile_append_of_pos all]
    cases u.query with
    | none => simp [Url.marked]
    | some q =>
      have : (Url.marked "?" (some q)).toList = '?' :: q.toList := by
        simp [Url.marked]
      rw [this, List.takeWhile_cons_of_neg (by decide), List.append_nil]
  apply String.toList_injective
  rw [← free u ss hu, ← free v ts hv, same]

end Connection

open Connection

/-- Requests for volumes. Whatever is configured, of the requests that create, look up or delete a
volume or copy something into it, those are for that volume, under the path of the endpoint, whose
volume has a plain path; and two of them for different volumes with plain paths have different
targets. -/
theorem addressed_iff_plain {config : Config} {c : Connection}
    (configured : ofConfig config = .ok c)
    (marks : ∀ x ∈ config.endpoint.toList, x ≠ '?' ∧ x ≠ '#')
    (call : ConnectionCall) (name : String) (named : call.volume? = some name) (filled : name ≠ "")
    {σ : Type} (answer : σ → Request → Delivery × σ) (server : σ) {r : Request}
    (sent : r ∈ requests ((call.run c).run answer server).steps) :
    (c.Addresses name call.ownQueries r ↔
      (c.base?).isSome = true ∧ PlainPath (c.volumePath name).toList) ∧
    ∀ {call' : ConnectionCall} {name' : String} (server' : σ) {r' : Request},
      call'.volume? = some name' → name' ≠ "" →
      r' ∈ requests ((call'.run c).run answer server').steps →
      (c.base?).isSome = true → PlainPath (c.volumePath name).toList →
      PlainPath (c.volumePath name').toList → r.url.target = r'.url.target → name = name' := by
  have ends := endpoint_marks configured marks
  have asks := call.sends_asksFor c name named σ answer server r sent
  constructor
  · cases hbase : c.base? with
    | none =>
      constructor
      · rintro ⟨⟨base, eq, -⟩, -⟩
        rw [hbase] at eq
        cases eq
      · rintro ⟨some, -⟩
        cases some
    | some base =>
      rw [addresses_iff ends hbase filled asks]
      exact ⟨fun plain => ⟨rfl, plain⟩, And.right⟩
  · intro call' name' server' r' named' filled' sent' some plain plain' same
    have asks' := call'.sends_asksFor c name' named' σ answer server' r' sent'
    obtain ⟨base, hbase⟩ := Option.isSome_iff_exists.mp some
    obtain ⟨done, -, path, -⟩ := url_of_asksFor ends hbase filled asks
    obtain ⟨done', -, path', -⟩ := url_of_asksFor ends hbase filled' asks'
    have paths := pathText_of_target path path' same
    obtain ⟨⟨b, hb, eq⟩, -⟩ := (addresses_iff ends hbase filled asks).mpr plain
    obtain ⟨⟨b', hb', eq'⟩, -⟩ := (addresses_iff ends hbase filled' asks').mpr plain'
    rw [hbase] at hb hb'
    cases hb
    cases hb'
    rw [paths, eq'] at eq
    have volumes := flatMap_bytesOfChar_injective (List.cons.inj (List.append_cancel_left eq)).2
    simp only [volumePath, String.toList_append] at volumes
    exact (String.toList_injective (List.append_cancel_left volumes)).symm

/-- A connection to a host that is written as a number. -/
def localConnection : Connection where
  options := ⟨false, usualTimeout⟩
  endpoint := "http://[::1]:8080"
  username := "admin"
  group := none
  authorization := basicAuth "admin" "secret"
  volumesPath := "/ifs/volumes"
  version := .v1

/-- Deleting a volume with a question mark in its name asks for another volume to be deleted. -/
theorem deleteVolume_strays :
    Connection.ofConfig (.new "http://[::1]:8080/" "admin" "secret") = .ok localConnection ∧
      ∃ r ∈ requests (((ConnectionCall.deleteVolume "a?b").run localConnection).run
          (replies .closed) []).steps,
        r.url.target = "/namespace/ifs/volumes/a?b&recursive=true" ∧
          ¬ localConnection.Addresses "a?b" [some "recursive=true"] r := by
  have configured :
      Connection.ofConfig (.new "http://[::1]:8080/" "admin" "secret") = .ok localConnection := rfl
  have targets : (requests (((ConnectionCall.deleteVolume "a?b").run localConnection).run
      (replies .closed) []).steps).map (fun r => r.url.target) =
        ["/namespace/ifs/volumes/a?b&recursive=true"] := by
    decide +kernel
  obtain ⟨r, sent, target⟩ := List.mem_map.mp
    (targets.symm ▸ List.mem_singleton_self "/namespace/ifs/volumes/a?b&recursive=true")
  refine ⟨configured, r, sent, target, fun addressed => ?_⟩
  have unmarked : ∀ x ∈ "http://[::1]:8080/".toList, x ≠ '?' ∧ x ≠ '#' :=
    List.all_iff_forall_prop.mp (by decide)
  have iff := (addressed_iff_plain configured unmarked (.deleteVolume "a?b") "a?b" rfl
    (by decide) (replies .closed) [] sent).1
  exact absurd rfl ((iff.mp addressed).2.marks '?' (by decide)).2.2.2.1

end OneFs
