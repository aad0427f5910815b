import OneFs.Proofs.Connection.Request
import OneFs.Proofs.Url.Path
import OneFs.Proofs.Url.Query

/-!
# Addresses below an endpoint

What is asked for is written into a URL as it is, and what is read from there need not be the same.
A request is for the resource that was written just if that is a plain path.

- `Connection.base?`, `Connection.Reaches`: the path of the endpoint, and requests for a resource
  below it;
- `url_extended`, `url_of_rawUrl`: what is read of a URL behind its endpoint;
- `decode_pathText_iff`: paths that are read as they were written;
- `reaches_iff_plain`, `Reaches.unique`: requests for what was written, and for nothing else.
-/

namespace OneFs

open Http Url Percent
open Text.Utf8 (bytes bytesOfChar flatMap_bytesOfChar_injective)

namespace Connection

/-- What the path of the endpoint stands for, without slashes at its end. -/
def base? (c : Connection) : Option (List UInt8) :=
  match Url.parse (c.endpoint ++ "/") with
  | .ok u => some (decode u.pathText.toList.dropLast)
  | .error _ => none

/-- A request is for a resource: its path stands for the path of the endpoint, a slash and the path
of the resource. -/
def Reaches (c : Connection) (resource : String) (r : Request) : Prop :=
  ∃ base, c.base? = some base ∧ decode r.url.pathText.toList = base ++ 0x2F :: bytes resource

theorem endpoint_marks {config : Config} {c : Connection} (configured : ofConfig config = .ok c)
    (marks : ∀ x ∈ config.endpoint.toList, x ≠ '?' ∧ x ≠ '#') :
    ∀ x ∈ c.endpoint.toList, endsPath x = false := by
  obtain ⟨-, rfl⟩ := eq_of_ofConfig configured
  intro x hx
  rw [String.toList_ofList] at hx
  obtain ⟨question, number⟩ := marks x ((trimEnd_sublist _ _).subset hx)
  simp [endsPath, question, number]

/-- A URL that is read from a text after an endpoint goes on from the URL of the endpoint. -/
theorem url_extended {c : Connection} (marks : ∀ x ∈ c.endpoint.toList, endsPath x = false)
    {base : List UInt8} (hbase : c.base? = some base) {after : List Char} {v : Url}
    (parsed : Url.parse (String.ofList (c.endpoint.toList ++ '/' :: after)) = .ok v)
    (web : IsWeb v.scheme) :
    ∃ (u : Url) (done : List (List Char)),
      v = u.extended done after ∧ base = pathBytes done.reverse := by
  unfold base? at hbase
  have slash : c.endpoint ++ "/" = String.ofList (c.endpoint.toList ++ ['/']) := by
    apply String.toList_injective
    simp
  rw [slash] at hbase
  cases hu : Url.parse (String.ofList (c.endpoint.toList ++ ['/'])) with
  | error f => rw [hu] at hbase; cases hbase
  | ok u =>
    have same : v.scheme = u.scheme := scheme_below (by simp) hu parsed
    obtain ⟨done, all⟩ := parse_extended marks hu (same ▸ web)
    refine ⟨u, done, Except.ok.inj (parsed.symm.trans (all after)), ?_⟩
    -- The endpoint alone ends in an empty segment.
    have path : u.path = pathOf (done.reverse ++ [[]]) := by
      have here : u = u.extended done [] := Except.ok.inj (hu.symm.trans (all []))
      have last : resolve false done [[]] = done.reverse ++ [[]] :=
        resolve_plain [[]] done fun s hs => by rw [List.mem_singleton.mp hs]; decide
      exact (congrArg Url.path here).trans (congrArg pathOf last)
    rw [hu] at hbase
    simp only [Option.some.injEq] at hbase
    have ends : pathChars (done.reverse ++ [[]]) = pathChars done.reverse ++ ['/'] := by
      unfold pathChars
      rw [List.flatMap_append, List.flatMap_singleton]
      rfl
    rw [← hbase, toList_pathText u _ path, ends, List.dropLast_concat, decode_pathChars]

variable {c : Connection} {base : List UInt8} {ask : Ask} {r : Request}

/-- What a request for something behind the endpoint has in its URL. -/
theorem url_of_rawUrl (marks : ∀ x ∈ c.endpoint.toList, endsPath x = false)
    (hbase : c.base? = some base) {after : List Char}
    (raw : c.rawUrl ask.path ask.id = String.ofList (c.endpoint.toList ++ '/' :: after))
    (request : c.requestFor ask = .ok r) :
    ∃ done, base = pathBytes done.reverse ∧
      r.url.path = pathOf (resolve false done (Text.pieces (isSlash true) (front after))) ∧
      (heard after = front after → r.url.query = queryOf ask.params) := by
  obtain ⟨v, parsed, web, url⟩ := url_of_requestFor request
  rw [raw] at parsed
  obtain ⟨u, done, rfl, same⟩ := url_extended marks hbase parsed web
  refine ⟨done, same, ?_, fun whole => ?_⟩
  · rw [url, path_bareUrl, Url.path_withPairs]
    rfl
  · have none : (u.extended done after).query = none := by
      have : (heard after).dropWhile (fun x => !endsPath x) = [] :=
        List.dropWhile_eq_nil_iff.mpr (List.takeWhile_eq_self_iff.mp whole.symm)
      change (queryAndFragment true (List.dropWhile _ _)).1 = _
      rw [this]
      rfl
    rw [url, query_bareUrl, Url.query_withPairs _ _ none]

/-- A path that follows others is read as it was written just if it is plain. -/
theorem decode_pathText_iff {u : Url} {done : List (List Char)} {after : List Char}
    (path : u.path = pathOf (resolve false done (Text.pieces (isSlash true) (front after)))) :
    decode u.pathText.toList = pathBytes done.reverse ++ 0x2F :: after.flatMap bytesOfChar ↔
      PlainPath after := by
  rw [toList_pathText u _ path, decode_pathChars, pathBytes_resolve_iff]

variable {resource : String}

/-- A request for what stands behind the endpoint is for that just if it is a plain path, and the
endpoint is a URL. -/
theorem reaches_iff_plain (marks : ∀ x ∈ c.endpoint.toList, endsPath x = false)
    (raw : c.rawUrl ask.path ask.id =
      String.ofList (c.endpoint.toList ++ '/' :: resource.toList))
    (request : c.requestFor ask = .ok r) :
    c.Reaches resource r ↔ c.base?.isSome = true ∧ PlainPath resource.toList := by
  unfold Reaches
  cases hbase : c.base? with
  | none =>
    constructor
    · rintro ⟨base, eq, -⟩
      cases eq
    · rintro ⟨based, -⟩
      cases based
  | some base =>
    obtain ⟨done, same, path, -⟩ := url_of_rawUrl marks hbase raw request
    rw [← decode_pathText_iff path, ← same]
    constructor
    · rintro ⟨base', hbase', eq⟩
      cases hbase'
      exact ⟨rfl, eq⟩
    · rintro ⟨-, eq⟩
      exact ⟨base, rfl, eq⟩

/-- A request is for one resource only. -/
theorem Reaches.unique {other : String} (first : c.Reaches resource r)
    (second : c.Reaches other r) : resource = other := by
  obtain ⟨base, hbase, path⟩ := first
  obtain ⟨base', hbase', path'⟩ := second
  rw [hbase] at hbase'
  cases hbase'
  rw [path] at path'
  exact String.toList_injective
    (flatMap_bytesOfChar_injective (List.cons.inj (List.append_cancel_left path')).2)

end Connection

end OneFs
