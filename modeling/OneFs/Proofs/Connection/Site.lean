import Mathlib.Data.List.Nodup
import OneFs.Proofs.Connection.Request
import OneFs.Proofs.Url.Query
import OneFs.Proofs.Url.Site

/-!
# Connections to a site

When the endpoint of a connection is a site, every query for a resource with a plain path becomes a
request, and the request names that resource.

- `ofConfig_atSite`: configurations whose endpoint is a site;
- `resource_injective`, `find?_resource`: ids and resources;
- `Connection.Fits`: resources for which there is room on the wire;
- `requestFor_query`, `requestFor_atSite`: the request of a query.
-/

namespace OneFs

open Json Http Url

/-! ## Authorizations -/

theorem Base64.isField_letter (n : Nat) : isField (Base64.letter n) = true := by
  unfold Base64.letter
  have capital : ∀ n < 26, isField (Char.ofNat (65 + n)) = true := by decide
  have small : ∀ n < 52, isField (Char.ofNat (71 + n)) = true := by decide
  have digit : ∀ n < 62, 51 < n → isField (Char.ofNat (n - 4)) = true := by decide
  split
  · exact capital n ‹_›
  · split
    · exact small n ‹_›
    · split
      · exact digit n ‹_› (by omega)
      · split <;> rfl

/-- Base64 texts may stand in headers. -/
theorem Base64.isField_encode : ∀ (bs : List UInt8), ∀ c ∈ Base64.encode bs, isField c = true
  | [] => fun c hc => absurd hc List.not_mem_nil
  | [a] => by
    intro c hc
    simp only [Base64.encode, List.mem_cons, List.not_mem_nil, or_false] at hc
    rcases hc with rfl | rfl | rfl | rfl
    · exact isField_letter _
    · exact isField_letter _
    · rfl
    · rfl
  | [a, b] => by
    intro c hc
    simp only [Base64.encode, List.mem_cons, List.not_mem_nil, or_false] at hc
    rcases hc with rfl | rfl | rfl | rfl
    · exact isField_letter _
    · exact isField_letter _
    · exact isField_letter _
    · rfl
  | a :: b :: d :: rest => by
    intro c hc
    simp only [Base64.encode, List.mem_cons] at hc
    rcases hc with rfl | rfl | rfl | rfl | hc
    · exact isField_letter _
    · exact isField_letter _
    · exact isField_letter _
    · exact isField_letter _
    · exact isField_encode rest c hc

/-- Whatever the user name and the password, they make up a header. -/
theorem headers?_basicAuth (username password : String) :
    headers? [("authorization", basicAuth username password)] =
      some [⟨Text.lower "authorization", basicAuth username password⟩] := by
  have fields : (basicAuth username password).toList.all isField = true := by
    have letters := Base64.isField_encode (Text.Utf8.bytes (username ++ ":" ++ password))
    unfold basicAuth Base64.ofText
    rw [String.toList_append, List.all_append, Bool.and_eq_true]
    refine ⟨by decide, List.all_eq_true.mpr fun c hc => letters c ?_⟩
    rwa [String.toList_ofList] at hc
  have name : (!"authorization".isEmpty && "authorization".toList.all isToken) = true := by decide
  unfold headers? header?
  rw [name, fields]
  rfl

/-! ## Endpoints -/

namespace Connection

/-- A connection to a site, with `room` for paths in its URLs. -/
def AtSite (room : Nat) (c : Connection) : Prop :=
  ∃ (scheme authority username password : String) (u : Url),
    c.endpoint = scheme ++ "://" ++ authority ∧ SiteText scheme authority u ∧
      u.text.utf8ByteSize + room ≤ longestUrl ∧ c.authorization = basicAuth username password

/-- The connection for a configuration whose endpoint is a site. -/
theorem ofConfig_atSite {config : Config} {c : Connection} {room : Nat}
    (configured : ofConfig config = .ok c) (site : IsSite room config.endpoint) :
    c.AtSite room := by
  obtain ⟨scheme, authority, slashes, u, endpoint, text, fits⟩ := site
  obtain ⟨-, rfl⟩ := eq_of_ofConfig configured
  refine ⟨scheme, authority, config.username, config.password, u, ?_, text, fits, rfl⟩
  -- The slashes are cut off, and nothing in front of them.
  have filled := text.filled
  have split := List.dropLast_append_getLast filled
  have last : (authority.toList.getLast filled == '/') = false := by
    have ends := (text.plain _ (List.getLast_mem filled)).2.1
    rw [beq_eq_false_iff_ne]
    intro eq
    rw [eq] at ends
    exact absurd ends (by decide)
  have chars : config.endpoint.toList = ((scheme ++ "://").toList ++ authority.toList.dropLast) ++
      authority.toList.getLast filled :: List.replicate slashes '/' := by
    rw [endpoint, String.toList_append, String.toList_append, String.toList_ofList]
    conv_lhs => rw [← split]
    simp
  have cut : Text.trimEnd (· == '/') (List.replicate slashes '/') = [] := by
    unfold Text.trimEnd
    rw [List.reverse_replicate, List.dropWhile_eq_nil_iff.mpr, List.reverse_nil]
    intro x hx
    simpa using List.eq_of_mem_replicate hx
  dsimp only
  rw [chars, trimEnd_append_of_neg (p := (· == '/')) last, cut]
  apply String.toList_injective
  rw [String.toList_ofList, List.append_assoc, split, ← String.toList_append]

/-- A resource as it follows the slash behind the endpoint. -/
def resource (path : String) : Option String → String
  | some id => path ++ "/" ++ id
  | none => path

/-- Resources below one path are told apart by their ids. -/
theorem resource_injective {path : String} {a b : Option String}
    (h : resource path a = resource path b) : a = b := by
  have chars : ∀ id : Option String, (resource path id).toList =
      path.toList ++ (id.map fun id => '/' :: id.toList).getD [] := by
    intro id
    cases id <;> simp [resource]
  have ends := congrArg String.toList h
  rw [chars, chars, List.append_cancel_left_eq] at ends
  -- Without an id nothing follows the path, and with one a slash does.
  cases a with
  | none =>
    cases b with
    | none => rfl
    | some b => cases ends
  | some a =>
    cases b with
    | none => cases ends
    | some b => exact congrArg some (String.toList_injective (List.cons.inj ends).2)

/-- Of things with distinct ids, the one of an id is found by its resource. -/
theorem find?_resource {α : Type} {as : List α} {id : α → String} (distinct : (as.map id).Nodup)
    {a : α} (mem : a ∈ as) (path : String) :
    as.find? (fun b => "/" ++ resource path (some (id b)) == "/" ++ resource path (some (id a))) =
      some a := by
  cases found : as.find? fun b =>
      "/" ++ resource path (some (id b)) == "/" ++ resource path (some (id a)) with
  | none => exact absurd (beq_self_eq_true _) (List.find?_eq_none.mp found a mem)
  | some b =>
    have same := List.find?_some found
    rw [beq_iff_eq, String.append_right_inj] at same
    have ids := Option.some.inj (resource_injective same)
    rw [List.inj_on_of_nodup_map distinct (List.mem_of_find?_eq_some found) mem ids]

/-- There is room on the wire for the URL of a resource, perhaps with a query behind it. -/
def Fits (c : Connection) (resource : String) : Prop :=
  ∃ u, Url.parse c.endpoint = .ok u ∧
    u.text.utf8ByteSize + resource.utf8ByteSize ≤ longestUrl

variable {c : Connection} {room : Nat}

/-- A site with so much room has room for shorter resources. -/
theorem AtSite.fits (site : c.AtSite room) {resource : String}
    (short : resource.utf8ByteSize ≤ room) : c.Fits resource := by
  obtain ⟨scheme, authority, username, password, u, endpoint, text, enough, -⟩ := site
  exact ⟨u, by rw [endpoint]; exact text.parsed, by omega⟩

variable {ask : Ask} {first : Char} {path : List Char}

/-- The raw URL of a resource is the endpoint with one slash and the resource behind it. -/
theorem rawUrl_resource (start : ask.path.toList = first :: path) (relative : first ≠ '/')
    (filled : ask.id ≠ some "") :
    c.rawUrl ask.path ask.id = c.endpoint ++ ("/" ++ resource ask.path ask.id) := by
  have whole : String.ofList (ask.path.toList.dropWhile (· == '/')) = ask.path := by
    rw [start, List.dropWhile_cons_of_neg (by simpa using relative), ← start,
      String.ofList_toList]
  unfold rawUrl resource
  rw [whole]
  cases given : ask.id with
  | none => simp [String.append_assoc]
  | some id =>
    have named : id ≠ "" := fun empty => filled (by rw [given, empty])
    have : id.isEmpty = false := by simpa using named
    simp [this, String.append_assoc]

/-- A query for a resource with a plain path goes out as a request for it, with its parameters, if
there is room for its URL. -/
theorem requestFor_query (site : c.AtSite room) (start : ask.path.toList = first :: path)
    (relative : first ≠ '/') (filled : ask.id ≠ some "")
    (plain : ∀ c ∈ (resource ask.path ask.id).toList, isPlainMark c = true)
    (bare : ask.headers = []) :
    (c.Fits (resource ask.path ask.id ++ marked "?" (queryOf ask.params)) →
      ∃ r, c.requestFor ask = .ok r ∧ r.method = ask.method ∧
        r.url.pathText = "/" ++ resource ask.path ask.id ∧ r.url.query = queryOf ask.params ∧
        r.body = ((ask.body.map Value.text).map Text.Utf8.bytes).getD []) ∧
    (¬ c.Fits (resource ask.path ask.id ++ marked "?" (queryOf ask.params)) →
      ∃ u, c.requestFor ask = .error (.request (.illegalAddress u))) := by
  have raw := rawUrl_resource (c := c) start relative filled
  obtain ⟨scheme, authority, username, password, u, endpoint, text, -, authorized⟩ := site
  obtain ⟨⟨found, rfl⟩, below⟩ := text.parse_below
  have parsed := below (resource ask.path ask.id) fun c hc => (isPlainMark_spec (plain c hc)).1
  rw [← endpoint] at parsed
  -- The URL below the site, with the parameters as its query and nothing taken out of it.
  let full : Url := { (root (Text.lower scheme) found).below (resource ask.path ask.id) with
    query := queryOf ask.params }
  have queried : ((root (Text.lower scheme) found).below (resource ask.path ask.id)).withPairs
      ask.params = full := Url.withPairs_eq _ _ rfl
  have whole : bareUrl full = full := bareUrl_unnamed rfl rfl
  have fits : c.Fits (resource ask.path ask.id ++ marked "?" (queryOf ask.params)) ↔
      isSendable full = true := by
    refine Iff.trans ?_ (isSendable_below plain text.sendable _).symm
    unfold Fits
    rw [endpoint, text.parsed]
    simp
  have made : c.url ask.path ask.id ask.params = .ok full := by
    rw [← raw] at parsed
    rw [url_of_parse parsed, queried]
  -- With a header and a scheme that will do, it depends on the length alone.
  have legal := headers?_basicAuth username password
  rw [← authorized] at legal
  have request := requestFor_of_url legal bare made text.web
  rw [whole] at request
  rw [fits]
  constructor
  · intro sendable
    rw [if_pos sendable] at request
    have path := pathText_below (root (Text.lower scheme) found) plain
    exact ⟨_, request, rfl, path, rfl, rfl⟩
  · intro long
    rw [if_neg long] at request
    exact ⟨full, request⟩

/-- A query for a resource with a plain path goes out as a request for it. -/
theorem requestFor_atSite (site : c.AtSite room) (start : ask.path.toList = first :: path)
    (relative : first ≠ '/') (filled : ask.id ≠ some "")
    (plain : ∀ c ∈ (resource ask.path ask.id).toList, isPlainMark c = true)
    (fits : (resource ask.path ask.id).utf8ByteSize ≤ room)
    (bare : ask.params = [] ∧ ask.headers = []) :
    ∃ r, c.requestFor ask = .ok r ∧ r.method = ask.method ∧
      r.url.target = "/" ++ resource ask.path ask.id ∧
      r.body = ((ask.body.map Value.text).map Text.Utf8.bytes).getD [] := by
  have asked := (requestFor_query site start relative filled plain bare.2).1
  rw [bare.1] at asked
  obtain ⟨r, request, method, path, query, body⟩ := asked (site.fits (by
    show (resource ask.path ask.id ++ "").utf8ByteSize ≤ room
    rw [String.append_empty]
    exact fits))
  refine ⟨r, request, method, ?_, body⟩
  unfold Url.target
  rw [path, query]
  exact String.append_empty

end Connection

end OneFs
