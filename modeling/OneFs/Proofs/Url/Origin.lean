import OneFs.Proofs.Url.Blank
import OneFs.Proofs.Url.Endpoint
import OneFs.Proofs.Url.Query

/-!
# Origins

Where requests for a URL go: scheme, host and port. Whatever follows an endpoint and a slash leaves
all three as they are.

- `Url.Origin`, `Url.origin`: where requests for a URL go;
- `site_below`: texts that go on from an endpoint are no URLs, or say what it says in front of its
  path;
- `origin_below`: so they have its origin.
-/

namespace OneFs.Url

open Text Http

/-- A server, by what names it in a URL. The port is left out if it is the usual one. -/
structure Origin where
  scheme : String
  host : Option Host
  port : Option Nat
  deriving DecidableEq

/-- Where requests for a URL go. -/
def origin (u : Url) : Origin :=
  ⟨u.scheme, u.host, u.port⟩

@[simp] theorem origin_behind (u : Url) (rest : List Char) : (u.behind rest).origin = u.origin :=
  rfl

/-- All that an authority says. -/
theorem site_spec {scheme : String} {cs : List Char} {s : Url} (h : site scheme cs = .ok s) :
    ∃ found, hostAndPort scheme (splitUserInfo cs).2 = .ok found ∧
      s = ⟨scheme, (userInfoOf ((splitUserInfo cs).1.getD [])).1,
        (userInfoOf ((splitUserInfo cs).1.getD [])).2, some found.1, found.2, .segments [], none,
        none⟩ := by
  unfold site at h
  dsimp only at h
  split at h
  · cases h
  · cases known : hostAndPort scheme (splitUserInfo cs).2 with
    | error f =>
      rw [known] at h
      cases h
    | ok found =>
      rw [known] at h
      simp only [bind, Except.bind] at h
      split at h
      · cases h
      · cases h
        exact ⟨found, rfl, rfl⟩

/-- A URL has the site of its authority. -/
theorem eq_behind_of_afterSlashes {scheme : String} {cs : List Char} {u : Url}
    (special : isSpecial scheme = true) (h : afterSlashes scheme cs = .ok u) :
    ∃ s, site scheme (cs.takeWhile fun c => !endsAuthority c) = .ok s ∧
      u = s.behind (cs.dropWhile fun c => !endsAuthority c) := by
  rw [afterSlashes_eq special] at h
  cases known : site scheme (cs.takeWhile fun c => !endsAuthority c) with
  | error f =>
    rw [known] at h
    cases h
  | ok s =>
    rw [known] at h
    cases h
    exact ⟨s, rfl, rfl⟩

/-- A user name stands in front, so what is last in an authority is last behind it. -/
theorem splitUserInfo_concat (cs : List Char) {b : Char} (other : b ≠ '@') :
    ∃ front, (splitUserInfo (cs ++ [b])).2 = front ++ [b] := by
  unfold splitUserInfo
  dsimp only
  split
  · exact ⟨cs, rfl⟩
  · refine ⟨(cs.reverse.takeWhile (· != '@')).reverse, ?_⟩
    rw [List.reverse_append, List.reverse_singleton, List.singleton_append,
      List.takeWhile_cons_of_pos (by simpa using other), List.reverse_cons]

/-- An authority that ends in a blank is none. -/
theorem site_blank {scheme : String} (special : isSpecial scheme = true) {b : Char}
    (low : b.toNat ≤ 0x20) (cs : List Char) {s : Url} : site scheme (cs ++ [b]) ≠ .ok s := by
  intro h
  obtain ⟨found, host, -⟩ := site_spec h
  obtain ⟨front, last⟩ := splitUserInfo_concat cs (forall_blank (· ≠ '@') (by decide) low)
  rw [last] at host
  exact hostAndPort_blank special low front host

/-- So an authority that goes on with blanks in front of a slash does not go on at all. -/
theorem authority_append {scheme : String} {cs blanks after : List Char} {s : Url}
    (special : isSpecial scheme = true) (low : ∀ c ∈ blanks, c.toNat ≤ 0x20)
    (h : site scheme ((cs ++ (blanks ++ '/' :: after)).takeWhile fun c => !endsAuthority c) =
      .ok s) :
    (cs ++ (blanks ++ '/' :: after)).takeWhile (fun c => !endsAuthority c) =
      cs.takeWhile fun c => !endsAuthority c := by
  have inside : ∀ c ∈ blanks, (!endsAuthority c) = true := fun c hc =>
    forall_blank (fun c => (!endsAuthority c) = true) (by decide) (low c hc)
  have cut : (blanks ++ '/' :: after).takeWhile (fun c => !endsAuthority c) = blanks := by
    rw [List.takeWhile_append_of_pos inside, List.takeWhile_cons_of_neg (by decide),
      List.append_nil]
  rw [List.takeWhile_append, cut] at h ⊢
  split
  · rename_i length
    have whole : cs.takeWhile (fun c => !endsAuthority c) = cs :=
      (List.takeWhile_sublist _).eq_of_length length
    rw [if_pos length] at h
    rcases List.eq_nil_or_concat' blanks with rfl | ⟨init, b, rfl⟩
    · rw [whole, List.append_nil]
    · rw [← List.append_assoc] at h
      exact absurd h (site_blank special (low b (by simp)) (cs ++ init))
  · rfl

/-- Whatever follows an endpoint without the slashes at its end, and a slash, is no URL or has the
site of the endpoint, which is a URL then. Otherwise there is no authority in the endpoint, and it
comes from what follows. -/
theorem site_below {endpoint : String} {after : List Char} {v : Url}
    (h : parse (String.ofList (trimEnd (· == '/') endpoint.toList ++ '/' :: after)) = .ok v)
    (web : IsWeb v.scheme) :
    (∃ (s : Url) (here there : List Char),
        parse endpoint = .ok (s.behind here) ∧ v = s.behind there) ∨
      (∀ u, parse endpoint ≠ .ok u) ∧ ∃ (s : Url) (there : List Char), v = s.behind there ∧
        site v.scheme ((('/' :: heard after).dropWhile (isSlash true)).takeWhile
          fun c => !endsAuthority c) = .ok s := by
  have special := web.special
  have slashFree : (!endsAuthority '/') = false := by decide
  obtain ⟨slashes, plain, eq⟩ := eq_trimEnd_append (· == '/') endpoint.toList
  generalize trimEnd (· == '/') endpoint.toList = cs at eq h
  have text : endpoint = String.ofList (cs ++ slashes) := by
    rw [← eq, String.ofList_toList]
  subst text
  obtain ⟨more, blanks, low, -, alone, read⟩ := parse_onward h web
  have below := (read after).symm.trans h
  cases slashes with
  | nil =>
    rw [List.append_nil, alone]
    rw [List.append_assoc, List.dropWhile_append] at below
    by_cases empty : more.dropWhile (isSlash true) = []
    · rw [empty, List.isEmpty_nil, if_pos rfl] at below
      rw [empty]
      -- With blanks in front of it the authority would be these.
      have none : blanks = [] := by
        cases blanks with
        | nil => rfl
        | cons b rest =>
          have blank : b.toNat ≤ 0x20 := low b List.mem_cons_self
          have begins : isSlash true b = false :=
            forall_blank (isSlash true · = false) (by decide) blank
          have inside : (!endsAuthority b) = true :=
            forall_blank (fun c => (!endsAuthority c) = true) (by decide) blank
          rw [List.cons_append, List.dropWhile_cons_of_neg (by simp [begins])] at below
          obtain ⟨s, known, -⟩ := eq_behind_of_afterSlashes special below
          have same : ([] ++ (b :: rest ++ '/' :: heard after)).takeWhile
              (fun c => !endsAuthority c) = [] := authority_append special low known
          simp [inside] at same
      rw [none, List.nil_append] at below
      obtain ⟨s, known, behind⟩ := eq_behind_of_afterSlashes special below
      exact .inr ⟨fun _ => afterSlashes_nil special, s, _, behind, known⟩
    · rw [if_neg (by simpa using empty)] at below
      obtain ⟨s, known, behind⟩ := eq_behind_of_afterSlashes special below
      have same := authority_append special low known
      refine .inl ⟨s, (more.dropWhile (isSlash true)).dropWhile fun c => !endsAuthority c, _, ?_,
        behind⟩
      rw [afterSlashes_eq special, ← same, known]
      rfl
  | cons c slashes =>
    obtain rfl : c = '/' := beq_iff_eq.mp (plain c List.mem_cons_self)
    have slash : ∀ c ∈ heard slashes, isSlash true c = true := fun c hc => by
      have mem := (List.filter_sublist.trans (trimEnd_sublist _ slashes)).subset hc
      rw [beq_iff_eq.mp (plain c (List.mem_cons_of_mem _ mem))]
      rfl
    rw [read slashes]
    rw [List.dropWhile_append] at below ⊢
    by_cases empty : (more ++ blanks).dropWhile (isSlash true) = []
    · rw [empty, List.isEmpty_nil, if_pos rfl] at below
      rw [empty, List.isEmpty_nil, if_pos rfl,
        List.dropWhile_eq_nil_iff.mpr (List.forall_mem_cons.mpr ⟨by decide, slash⟩)]
      obtain ⟨s, known, behind⟩ := eq_behind_of_afterSlashes special below
      exact .inr ⟨fun _ => afterSlashes_nil special, s, _, behind, known⟩
    · rw [if_neg (by simpa using empty)] at below ⊢
      obtain ⟨s, known, behind⟩ := eq_behind_of_afterSlashes special below
      rw [takeWhile_append_of_neg (p := fun c => !endsAuthority c) slashFree] at known
      refine .inl ⟨s, (((more ++ blanks).dropWhile (isSlash true)).dropWhile
        fun c => !endsAuthority c) ++ '/' :: heard slashes, _, ?_, behind⟩
      rw [afterSlashes_append special, known]
      rfl

/-- Whatever follows an endpoint without the slashes at its end, and a slash, is no URL or has the
origin of the endpoint. -/
theorem origin_below {endpoint : String} {u v : Url} (parsed : parse endpoint = .ok u)
    (web : IsWeb u.scheme) {after : List Char}
    (h : parse (String.ofList (trimEnd (· == '/') endpoint.toList ++ '/' :: after)) = .ok v) :
    v.origin = u.origin := by
  have scheme : v.scheme = u.scheme := by
    obtain ⟨slashes, plain, eq⟩ := eq_trimEnd_append (· == '/') endpoint.toList
    refine scheme_below (fun c hc => beq_iff_eq.mp (plain c hc)) ?_ h
    rw [← eq, String.ofList_toList]
    exact parsed
  rcases site_below h (scheme ▸ web) with ⟨s, here, there, alone, rfl⟩ | ⟨none, -⟩
  · rw [← Except.ok.inj (alone.symm.trans parsed), origin_behind, origin_behind]
  · exact absurd parsed (none u)

end OneFs.Url
