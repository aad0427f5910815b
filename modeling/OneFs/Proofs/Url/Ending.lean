import OneFs.Proofs.Url.Site

/-!
# What URLs end in

Whatever an endpoint is, whether it has a query or a fragment or no host of its own: the text of a
URL that is read from it, a path and a name of plain characters ends in a slash and the name.

- `behind_ending`: what follows an authority, by whether the name is in the path, in the query or in
  the fragment;
- `parse_renamed`, `parse_ending`: URLs that are read from an endpoint, a path and a name.
-/

namespace OneFs.Url

open Text Percent

variable {name : List Char}

/-! ## Plain characters -/

/-- Plain characters are written as they are in every part of a URL. -/
theorem isPlainMark_written {c : Char} (h : isPlainMark c = true) :
    inFragment c = false ∧ inSpecialQuery c = false := by
  have all : ∀ n < 128, isPlainMark (Char.ofNat n) = true →
      inFragment (Char.ofNat n) = false ∧ inSpecialQuery (Char.ofNat n) = false := by
    decide
  have := all c.toNat (isPlainMark_small h)
  rw [Char.ofNat_toNat] at this
  exact this h

/-- So they stay at the end of what is written. -/
theorem encode_ending {excluded : Char → Bool}
    (written : ∀ {c}, isPlainMark c = true → excluded c = false)
    (plain : ∀ c ∈ name, isPlainMark c = true) (before : List Char) :
    encode excluded (before ++ name) = encode excluded before ++ name := by
  have append : encode excluded (before ++ name) =
      encode excluded before ++ encode excluded name := List.flatMap_append
  rw [append, encode_plain fun c hc => written (plain c hc)]

/-- All of a text of plain characters counts at the end of a URL. -/
theorem heard_plain (plain : ∀ c ∈ name, isPlainMark c = true) : heard name = name := by
  have marks : ∀ c ∈ name, c ≠ '\t' ∧ c ≠ '\n' ∧ c ≠ '\r' ∧ c ≠ '?' ∧ c ≠ '#' := by
    intro c hc
    refine ⟨?_, ?_, ?_, ?_, ?_⟩ <;> rintro rfl <;> exact absurd (plain _ hc) (by decide)
  have whole : front name = name := (front_eq_iff name).mpr
    ⟨marks, fun c hc => (isPlainMark_spec (plain c (List.mem_of_getLast? hc))).1.1⟩
  rw [heard_eq_front whole, whole]

/-! ## Behind an authority -/

/-- A query ends in front of the number sign that begins the fragment. -/
theorem queryAndFragment_query (cs : List Char) :
    queryAndFragment true ('?' :: cs) =
      (some (String.ofList (encode inSpecialQuery (cs.takeWhile (· != '#')))),
        (queryAndFragment true (cs.dropWhile (· != '#'))).2) := by
  cases eq : cs.dropWhile (· != '#') with
  | nil =>
    simp only [queryAndFragment, eq]
    rfl
  | cons c rest =>
    have number : c = '#' := by
      have kept := List.head_dropWhile_not (· != '#') (by rw [eq]; exact List.cons_ne_nil c rest)
      simpa [eq] using kept
    subst number
    simp only [queryAndFragment, eq]
    rfl

/-- The query and the fragment end in plain characters that they are read from. -/
theorem queryAndFragment_ending {m : Char} (mark : endsPath m = true) (tail : List Char)
    (plain : ∀ c ∈ name, isPlainMark c = true) :
    ∃ before, (marked "?" (queryAndFragment true (m :: (tail ++ name))).1 ++
        marked "#" (queryAndFragment true (m :: (tail ++ name))).2).toList = before ++ name := by
  have fragment : ∀ cs, queryAndFragment true ('#' :: (cs ++ name)) =
      (none, some (String.ofList (encode inFragment cs ++ name))) := by
    intro cs
    rw [← encode_ending (fun h => (isPlainMark_written h).1) plain]
    rfl
  rcases Bool.or_eq_true_iff.mp mark with question | number
  · obtain rfl := eq_of_beq question
    rw [queryAndFragment_query]
    by_cases hash : '#' ∈ tail
    -- The query ends in front of them.
    · obtain ⟨query, rest, rfl, none⟩ := List.eq_append_cons_of_mem hash
      have free : ∀ c ∈ query, (c != '#') = true := fun c hc =>
        bne_iff_ne.mpr fun eq => none (eq ▸ hc)
      rw [List.append_assoc, List.cons_append, List.takeWhile_append_of_pos free,
        List.dropWhile_append_of_pos free, List.takeWhile_cons_of_neg (by decide),
        List.dropWhile_cons_of_neg (by decide), fragment]
      refine ⟨'?' :: encode inSpecialQuery query ++ '#' :: encode inFragment rest, ?_⟩
      simp [marked]
    · have free : ∀ c ∈ tail ++ name, (c != '#') = true := by
        intro c hc
        rw [bne_iff_ne]
        rintro rfl
        rcases List.mem_append.mp hc with inTail | inName
        · exact hash inTail
        · exact absurd (plain _ inName) (by decide)
      rw [List.takeWhile_eq_self_iff.mpr free, List.dropWhile_eq_nil_iff.mpr free,
        encode_ending (fun h => (isPlainMark_written h).2) plain]
      refine ⟨'?' :: encode inSpecialQuery tail, ?_⟩
      simp [marked, queryAndFragment]
  · obtain rfl := eq_of_beq number
    rw [fragment]
    refine ⟨'#' :: encode inFragment tail, ?_⟩
    simp [marked]

/-- The part of a URL that follows its authority ends in a plain name behind a slash. -/
theorem behind_ending (u : Url) (tail : List Char) (plain : ∀ c ∈ name, isPlainMark c = true) :
    ∃ before, ((u.behind (tail ++ '/' :: name)).target ++
      marked "#" (u.behind (tail ++ '/' :: name)).fragment).toList = before ++ '/' :: name := by
  have slashed : ∀ c ∈ '/' :: name, isPlainMark c = true := List.forall_mem_cons.mpr ⟨rfl, plain⟩
  by_cases marks : ∀ c ∈ tail, (!endsPath c) = true
  -- All of it is a path.
  · have free : ∀ c ∈ tail ++ '/' :: name, (!endsPath c) = true :=
      List.forall_mem_append.mpr
        ⟨marks, fun c hc => by rw [(isPlainMark_spec (slashed c hc)).1.2]; rfl⟩
    obtain ⟨done, all⟩ := pathAfterAuthority_append tail
    have path : (u.behind (tail ++ '/' :: name)).path =
        pathOf (resolve false done (pieces (isSlash true) name)) := by
      rw [behind, List.takeWhile_eq_self_iff.mpr free]
      exact all name
    have last : queryAndFragment true ((tail ++ '/' :: name).dropWhile fun c => !endsPath c) =
        (none, none) := by
      rw [List.dropWhile_eq_nil_iff.mpr free]
      rfl
    refine ⟨pathChars done.reverse, ?_⟩
    rw [← pathChars_resolve done plain, ← toList_pathText _ _ path]
    simp [target, behind, last, marked]
  -- The first mark is in front of the name.
  · have some : tail.dropWhile (fun c => !endsPath c) ≠ [] :=
      fun nil => marks (List.dropWhile_eq_nil_iff.mp nil)
    obtain ⟨m, rest, cut⟩ := List.exists_cons_of_ne_nil some
    have mark : endsPath m = true := by
      have kept := List.head_dropWhile_not (fun c => !endsPath c) some
      simpa [cut] using kept
    have last : (tail ++ '/' :: name).dropWhile (fun c => !endsPath c) =
        m :: (rest ++ '/' :: name) := by
      rw [List.dropWhile_append, if_neg (by simpa using some), cut]
      rfl
    obtain ⟨before, ending⟩ := queryAndFragment_ending mark rest slashed
    refine ⟨(u.behind (tail ++ '/' :: name)).pathText.toList ++ before, ?_⟩
    rw [List.append_assoc, ← ending, ← String.toList_append]
    simp only [target, behind, last, String.append_assoc]

/-- If one text that goes on from an endpoint and a path with a plain name is a URL, all such texts
are, and differ in what follows their authority, which ends in the name. -/
theorem parse_renamed {endpoint path : List Char} {first : Char} {u : Url}
    (plain : ∀ c ∈ first :: path, isPlainMark c = true) (relative : first ≠ '/')
    (named : ∀ c ∈ name, isPlainMark c = true)
    (h : parse (String.ofList (endpoint ++ '/' :: (first :: path ++ '/' :: name))) = .ok u)
    (web : IsWeb u.scheme) :
    ∃ (v : Url) (tail : List Char), ∀ other : List Char, (∀ c ∈ other, isPlainMark c = true) →
      parse (String.ofList (endpoint ++ '/' :: (first :: path ++ '/' :: other))) =
        .ok (v.behind (tail ++ '/' :: other)) := by
  obtain ⟨before, blanks, -, -, -, onward⟩ := parse_onward h web
  generalize before ++ blanks = more at onward
  -- The path begins with no slash, so the slashes in front of the authority end before the name.
  have goesOn : ∀ other : List Char, (more ++ '/' :: (first :: path ++ '/' :: other)).dropWhile
      (isSlash true) = (more ++ '/' :: (first :: path)).dropWhile (isSlash true) ++
        '/' :: other := by
    intro other
    have ends : isSlash true first = false := by
      simp [isSlash, relative, (isPlainMark_spec (plain first List.mem_cons_self)).2.2.1]
    have cut := dropWhile_append_of_neg ends
    have shift : ∀ rest : List Char, more ++ '/' :: (first :: rest) =
        (more ++ ['/']) ++ first :: rest := fun rest => by simp
    rw [List.cons_append, shift, shift, cut, cut, List.append_assoc, List.cons_append]
  have read : ∀ other : List Char, (∀ c ∈ other, isPlainMark c = true) →
      parse (String.ofList (endpoint ++ '/' :: (first :: path ++ '/' :: other))) =
        afterSlashes u.scheme
          ((more ++ '/' :: (first :: path)).dropWhile (isSlash true) ++ '/' :: other) := by
    intro other plainly
    have all : ∀ c ∈ first :: path ++ '/' :: other, isPlainMark c = true :=
      List.forall_mem_append.mpr ⟨plain, List.forall_mem_cons.mpr ⟨rfl, plainly⟩⟩
    rw [onward, heard_plain all, goesOn]
  generalize (more ++ '/' :: (first :: path)).dropWhile (isSlash true) = cs at read
  simp only [afterSlashes_append web.special] at read
  cases known : site u.scheme (cs.takeWhile fun c => !endsAuthority c) with
  | error f =>
    rw [read name named, known] at h
    cases h
  | ok v =>
    rw [known] at read
    exact ⟨v, _, read⟩

/-- What is read from an endpoint, a path and a plain name ends in the name. -/
theorem parse_ending {endpoint path : List Char} {first : Char} {u : Url}
    (plain : ∀ c ∈ first :: path, isPlainMark c = true) (relative : first ≠ '/')
    (named : ∀ c ∈ name, isPlainMark c = true)
    (h : parse (String.ofList (endpoint ++ '/' :: (first :: path ++ '/' :: name))) = .ok u)
    (web : IsWeb u.scheme) :
    ∃ before, (u.target ++ marked "#" u.fragment).toList = before ++ '/' :: name := by
  obtain ⟨v, tail, all⟩ := parse_renamed plain relative named h web
  obtain rfl := Except.ok.inj (h.symm.trans (all name named))
  exact behind_ending v tail named

/-- The text of a URL ends as its part behind the authority does. -/
theorem text_ending {u : Url} {before : List Char}
    (ending : (u.target ++ marked "#" u.fragment).toList = before ++ '/' :: name) :
    ∃ before, u.text.toList = before ++ '/' :: name := by
  refine ⟨(u.scheme ++ ":" ++ u.authority ++ u.guard).toList ++ before, ?_⟩
  rw [List.append_assoc, ← ending, ← String.toList_append]
  simp only [text, target, String.append_assoc]

end OneFs.Url
