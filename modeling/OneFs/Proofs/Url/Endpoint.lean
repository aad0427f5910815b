import OneFs.Proofs.Url.Path

/-!
# URLs below an endpoint

An endpoint followed by a slash and a text is a URL just if the endpoint is one. All but the path,
the query and the fragment comes from the endpoint, and the path goes on from that of the endpoint.

- `parse_onward`, `parse_behind`: the URLs of all texts that go on from an endpoint and a slash;
- `parse_extended`: the URL of an endpoint, a slash and a text, by that of the endpoint.
-/

namespace OneFs.Url

open Text Percent

/-! ## Lists with a mark in them -/

section Marks

variable {α : Type} {p : α → Bool} {x : α}

theorem dropWhile_append_of_neg (h : p x = false) (xs ys : List α) :
    (xs ++ x :: ys).dropWhile p = xs.dropWhile p ++ x :: ys := by
  induction xs with
  | nil => simp [h]
  | cons y xs ih =>
    rw [List.cons_append, List.dropWhile_cons, List.dropWhile_cons, ih]
    split <;> rfl

theorem takeWhile_append_of_neg (h : p x = false) (xs ys : List α) :
    (xs ++ x :: ys).takeWhile p = xs.takeWhile p := by
  induction xs with
  | nil => simp [h]
  | cons y xs ih =>
    rw [List.cons_append, List.takeWhile_cons, List.takeWhile_cons, ih]

theorem trimEnd_append_of_neg {p : Char → Bool} {x : Char} (h : p x = false) (xs ys : List Char) :
    trimEnd p (xs ++ x :: ys) = xs ++ x :: trimEnd p ys := by
  unfold trimEnd
  rw [List.reverse_append, List.reverse_cons, List.append_assoc, List.singleton_append,
    dropWhile_append_of_neg h]
  simp

/-- What is left out at the end of a text is all of one kind. -/
theorem eq_trimEnd_append (p : Char → Bool) (cs : List Char) :
    ∃ tail, (∀ c ∈ tail, p c = true) ∧ cs = trimEnd p cs ++ tail := by
  refine ⟨(cs.reverse.takeWhile p).reverse, ?_, ?_⟩
  · intro c hc
    exact List.mem_takeWhile_imp (List.mem_reverse.mp hc)
  · unfold trimEnd
    rw [← List.reverse_append, List.takeWhile_append_dropWhile, List.reverse_reverse]

end Marks

/-- The characters of a text that count when it is read as a URL. -/
def cleaned (cs : List Char) : List Char :=
  (trimBoth (fun c => c.toNat ≤ 0x20) cs).filter fun c => !(c == '\t' || c == '\n' || c == '\r')

/-- What counts in front of a slash does not depend on what follows it. It is all that counts of the
text in front of the slash, and the blanks at its end, which do not count without the slash. -/
theorem cleaned_append (cs : List Char) :
    ∃ blanks : List Char, (∀ c ∈ blanks, c.toNat ≤ 0x20) ∧ (cleaned cs ++ blanks).Sublist cs ∧
      ∀ after, cleaned (cs ++ '/' :: after) = cleaned cs ++ blanks ++ '/' :: heard after := by
  let low (c : Char) : Bool := c.toNat ≤ 0x20
  let counts (c : Char) : Bool := !(c == '\t' || c == '\n' || c == '\r')
  have slash : low '/' = false := by decide
  -- The text without the blanks in front of it, cut where those at its end begin.
  obtain ⟨tail, blank, cut⟩ := eq_trimEnd_append low (cs.dropWhile low)
  have whole : (cs.dropWhile low).filter counts = cleaned cs ++ tail.filter counts := by
    have parts := congrArg (List.filter counts) cut
    rwa [List.filter_append] at parts
  refine ⟨tail.filter counts, ?_, ?_, ?_⟩
  · intro c hc
    exact of_decide_eq_true (blank c (List.mem_filter.mp hc).1)
  · rw [← whole]
    exact List.filter_sublist.trans (List.dropWhile_sublist _)
  · intro after
    rw [← whole]
    unfold cleaned trimBoth
    rw [dropWhile_append_of_neg (p := low) slash]
    change (trimEnd low _).filter counts = _
    rw [trimEnd_append_of_neg slash, List.filter_append, List.filter_cons]
    rfl

/-- The scheme in front of a colon. -/
theorem scheme?_colon {a : List Char} (ha : ∀ c ∈ a, c ≠ ':') (rest : List Char) :
    scheme? (a ++ ':' :: rest) =
      (scheme? (a ++ [':'])).map fun s => (s.1, rest) := by
  have front : ∀ rest, (a ++ ':' :: rest).takeWhile (· != ':') = a := fun rest => by
    rw [takeWhile_append_of_neg (p := (· != ':')) (by decide), List.takeWhile_eq_self_iff]
    exact fun c hc => by simpa using ha c hc
  have back : ∀ rest, (a ++ ':' :: rest).dropWhile (· != ':') = ':' :: rest := fun rest => by
    rw [dropWhile_append_of_neg (p := (· != ':')) (by decide),
      List.dropWhile_eq_nil_iff.mpr fun c hc => by simpa using ha c hc, List.nil_append]
  unfold scheme?
  rw [front, front, back, back]
  cases a with
  | nil => rfl
  | cons first a =>
    dsimp only
    split <;> rfl

/-- A scheme has no slash in it. -/
theorem slash_notMem_of_scheme? {a : List Char} (ha : ∀ c ∈ a, c ≠ ':')
    {found : String × List Char} (h : scheme? (a ++ [':']) = some found) : '/' ∉ a := by
  intro slash
  have front : (a ++ [':']).takeWhile (· != ':') = a := by
    rw [takeWhile_append_of_neg (p := (· != ':')) (by decide), List.takeWhile_eq_self_iff]
    exact fun c hc => by simpa using ha c hc
  unfold scheme? at h
  rw [front] at h
  dsimp only at h
  split at h
  · split at h
    · rename_i marks
      exact absurd (List.all_eq_true.mp (Bool.and_eq_true_iff.mp marks).2 '/' slash) (by decide)
    · cases h
  · cases h

/-- A scheme ends in front of a colon, and does not depend on what follows it. -/
theorem scheme?_split {cs rest : List Char} {s : String} (h : scheme? cs = some (s, rest)) :
    ∃ front, cs = front ++ ':' :: rest ∧ '/' ∉ front ∧
      ∀ other, scheme? (front ++ ':' :: other) = some (s, other) := by
  by_cases colon : ':' ∈ cs
  · obtain ⟨front, back, rfl, none⟩ := List.eq_append_cons_of_mem colon
    have free : ∀ c ∈ front, c ≠ ':' := fun c hc eq => none (eq ▸ hc)
    rw [scheme?_colon free] at h
    cases hs : scheme? (front ++ [':']) with
    | none =>
      rw [hs] at h
      cases h
    | some p =>
      rw [hs] at h
      cases h
      exact ⟨front, rfl, slash_notMem_of_scheme? free hs,
        fun other => by rw [scheme?_colon free, hs]; rfl⟩
  -- Without a colon there is no scheme to be found.
  · have none : cs.dropWhile (· != ':') = [] := by
      refine List.dropWhile_eq_nil_iff.mpr fun c hc => ?_
      rw [bne_iff_ne]
      rintro rfl
      exact colon hc
    unfold scheme? at h
    rw [none] at h
    cases h

/-- A scheme does not change when the text goes on. -/
theorem scheme?_append_right {cs rest : List Char} {s : String} (h : scheme? cs = some (s, rest))
    (more : List Char) : scheme? (cs ++ more) = some (s, rest ++ more) := by
  obtain ⟨front, rfl, -, all⟩ := scheme?_split h
  rw [List.append_assoc, List.cons_append]
  exact all (rest ++ more)

/-- A scheme stands in front of the first slash, and is there without the slash. -/
theorem scheme?_append {before a rest : List Char} {s : String}
    (h : scheme? (before ++ '/' :: a) = some (s, rest)) :
    ∃ more, scheme? before = some (s, more) := by
  obtain ⟨front, eq, slash, all⟩ := scheme?_split h
  rcases List.append_eq_append_iff.mp eq with ⟨c, inFront, behind⟩ | ⟨c, rfl, inBefore⟩
  -- The slash would be in the scheme.
  · exfalso
    cases c with
    | nil => exact absurd (List.cons.inj behind).1 (by decide)
    | cons d more =>
      obtain ⟨rfl, -⟩ := List.cons.inj behind
      exact slash (by simp [inFront])
  · cases c with
    | nil => exact absurd (List.cons.inj inBefore).1 (by decide)
    | cons colon more =>
      obtain ⟨rfl, -⟩ := List.cons.inj inBefore
      exact ⟨more, all more⟩

/-- A scheme in front of blanks is there without them. -/
theorem scheme?_of_blanks {cs blanks rest : List Char} {s : String}
    (low : ∀ c ∈ blanks, c.toNat ≤ 0x20) (h : scheme? (cs ++ blanks) = some (s, rest)) :
    ∃ more, rest = more ++ blanks ∧ scheme? cs = some (s, more) := by
  obtain ⟨front, eq, -, all⟩ := scheme?_split h
  rcases List.append_eq_append_iff.mp eq with ⟨c, -, behind⟩ | ⟨c, rfl, inBlanks⟩
  · have colon : ':' ∈ blanks := by simp [behind]
    exact absurd (low ':' colon) (by decide)
  · cases c with
    | nil =>
      have same : ':' :: rest = blanks := inBlanks
      have colon : ':' ∈ blanks := same ▸ List.mem_cons_self
      exact absurd (low ':' colon) (by decide)
    | cons colon more =>
      obtain ⟨rfl, rfl⟩ := List.cons.inj inBlanks
      exact ⟨more, rfl, all more⟩

theorem pieces_append {sep : Char → Bool} {x : Char} (h : sep x = true) (xs ys : List Char) :
    pieces sep (xs ++ x :: ys) = pieces sep xs ++ pieces sep ys := by
  induction xs with
  | nil =>
    simp only [List.nil_append, pieces, h, if_true]
    rfl
  | cons c xs ih =>
    rw [List.cons_append, pieces, pieces, ih]
    split
    · rfl
    · obtain ⟨p, ps, hp⟩ := List.exists_cons_of_ne_nil (pieces_ne_nil sep xs)
      rw [hp]
      rfl

/-- Segments resolve one after the other. -/
theorem resolve_append (file : Bool) (xs done : List (List Char)) :
    ∃ done' : List (List Char), ∀ ys, ys ≠ [] →
      resolve file done (xs ++ ys) = resolve file done' ys := by
  induction xs generalizing done with
  | nil => exact ⟨done, fun _ _ => rfl⟩
  | cons s xs ih =>
    have step : ∀ ys, ys ≠ [] → resolve file done (s :: xs ++ ys) =
        if isAbove s then resolve file (pop done) (xs ++ ys)
        else if isHere s then resolve file done (xs ++ ys)
        else resolve file (push file done s) (xs ++ ys) := by
      intro ys hys
      obtain ⟨t, rest, h⟩ := List.exists_cons_of_ne_nil (List.append_ne_nil_of_right_ne_nil xs hys)
      rw [List.cons_append, h, resolve]
    by_cases above : isAbove s = true
    · obtain ⟨done', eq⟩ := ih (pop done)
      exact ⟨done', fun ys hys => by rw [step ys hys, if_pos above, eq ys hys]⟩
    · by_cases here : isHere s = true
      · obtain ⟨done', eq⟩ := ih done
        exact ⟨done', fun ys hys => by rw [step ys hys, if_neg above, if_pos here, eq ys hys]⟩
      · obtain ⟨done', eq⟩ := ih (push file done s)
        exact ⟨done', fun ys hys => by rw [step ys hys, if_neg above, if_neg here, eq ys hys]⟩

/-- A path goes on behind a slash. -/
theorem pathAfterAuthority_append (cs : List Char) :
    ∃ done : List (List Char), ∀ after, pathAfterAuthority true (cs ++ '/' :: after) =
      pathOf (resolve false done (pieces (isSlash true) after)) := by
  cases cs with
  | nil => exact ⟨[], fun after => rfl⟩
  | cons c cs =>
    obtain ⟨done, eq⟩ := resolve_append false (pieces (isSlash true) cs) []
    refine ⟨done, fun after => ?_⟩
    rw [List.cons_append, pathAfterAuthority, pieces_append (by decide),
      eq _ (pieces_ne_nil _ _)]

/-- What the authority of a URL says of it, if something follows the authority. -/
def site (scheme : String) (cs : List Char) : Except UrlFault Url := do
  let (login, authority) := splitUserInfo cs
  if login == some [] && authority.isEmpty then throw .emptyHost
  let (host, port) ← hostAndPort scheme authority
  let (username, password) := userInfoOf (login.getD [])
  if host = .name "" && (username != "" || password.isSome) then throw .emptyHost
  pure {
    scheme, username, password, host := some host, port, path := .segments [],
    query := none, fragment := none }

/-- A URL with what follows its authority. -/
def behind (u : Url) (rest : List Char) : Url :=
  { u with
    path := pathAfterAuthority true (rest.takeWhile fun c => !endsPath c)
    query := (queryAndFragment true (rest.dropWhile fun c => !endsPath c)).1
    fragment := (queryAndFragment true (rest.dropWhile fun c => !endsPath c)).2 }

/-- Whether a character ends an authority. -/
def endsAuthority (c : Char) : Bool :=
  isSlash true c || endsPath c

/-- An authority without a host is none. -/
theorem hostAndPort_nil {scheme : String} (special : isSpecial scheme = true) :
    hostAndPort scheme [] = .error .emptyHost := by
  simp [hostAndPort, splitPort, special]
  rfl

/-- A URL is that of its authority with what follows it. -/
theorem afterSlashes_eq {scheme : String} (special : isSpecial scheme = true) (cs : List Char) :
    afterSlashes scheme cs = (site scheme (cs.takeWhile fun c => !endsAuthority c)).map
      fun u => u.behind (cs.dropWhile fun c => !endsAuthority c) := by
  have ends : ∀ c, (isSlash true c || endsPath c) = endsAuthority c := fun _ => rfl
  unfold afterSlashes site
  simp only [special, ends]
  generalize splitUserInfo (cs.takeWhile fun c => !endsAuthority c) = split
  -- A user name alone is refused for want of a host, whether something follows it or not.
  by_cases alone : (split.1 == some [] && split.2.isEmpty) = true
  · have empty : split.2 = [] := List.isEmpty_iff.mp (Bool.and_eq_true_iff.mp alone).2
    rw [if_pos alone, empty, hostAndPort_nil special]
    split <;> rfl
  · have other (b : Bool) : (split.1 == some [] && split.2.isEmpty && b) = false := by
      rw [Bool.not_eq_true] at alone
      rw [alone]
      rfl
    rw [other, if_neg alone, if_neg Bool.false_ne_true]
    cases hostAndPort scheme split.2 with
    | error f => rfl
    | ok found =>
      by_cases nameless : (decide (found.1 = .name "") && ((userInfoOf (split.1.getD [])).1 != "" ||
          (userInfoOf (split.1.getD [])).2.isSome)) = true
      · simp only [bind, Except.bind, if_pos nameless]
        rfl
      · simp only [bind, Except.bind, if_neg nameless]
        rfl

/-! ## Schemes -/

theorem scheme_afterSlashes {scheme : String} {cs : List Char} {u : Url}
    (h : afterSlashes scheme cs = .ok u) : u.scheme = scheme := by
  unfold afterSlashes at h
  dsimp only at h
  split at h
  · cases h
  · cases hp : hostAndPort scheme (splitUserInfo
        (cs.takeWhile fun c => !(isSlash (isSpecial scheme) c || endsPath c))).2 with
    | error f => rw [hp] at h; cases h
    | ok found =>
      rw [hp] at h
      simp only [bind, Except.bind] at h
      split at h
      · cases h
      · cases h
        rfl

theorem scheme_afterFile {cs : List Char} {u : Url} (h : afterFile cs = .ok u) :
    u.scheme = "file" := by
  unfold afterFile at h
  cases hf : fileHost cs with
  | error f => rw [hf] at h; cases h
  | ok found => rw [hf] at h; cases h; rfl

/-- The scheme of a URL stands at its start. -/
theorem scheme_parse {s : String} {u : Url} (h : parse s = .ok u) :
    ∃ rest, scheme? (cleaned s.toList) = some (u.scheme, rest) := by
  unfold parse at h
  dsimp only at h
  unfold cleaned
  split at h
  · cases h
  · rename_i scheme rest hs
    rw [hs]
    refine ⟨rest, ?_⟩
    split at h
    · rename_i file
      rw [file, scheme_afterFile h]
    · split at h
      · rw [scheme_afterSlashes h]
      · split at h
        · rw [scheme_afterSlashes h]
        · cases h
          rfl

/-- Without a host there is no URL. -/
theorem afterSlashes_nil {scheme : String} {u : Url} (special : isSpecial scheme = true) :
    afterSlashes scheme [] ≠ .ok u := by
  intro h
  unfold afterSlashes at h
  change ((hostAndPort scheme []) >>= _) = _ at h
  rw [hostAndPort_nil special] at h
  cases h

/-- The schemes that requests are sent with. -/
def IsWeb (scheme : String) : Prop :=
  scheme = "http" ∨ scheme = "https"

theorem IsWeb.special {scheme : String} (web : IsWeb scheme) : isSpecial scheme = true := by
  rcases web with rfl | rfl <;> decide

/-- A text whose scheme is one of them is read from its authority on. -/
theorem parse_web {s scheme : String} {rest : List Char} (web : IsWeb scheme)
    (h : scheme? (cleaned s.toList) = some (scheme, rest)) :
    parse s = afterSlashes scheme (rest.dropWhile (isSlash true)) := by
  have other : scheme ≠ "file" := by
    rcases web with rfl | rfl <;> decide
  unfold parse
  dsimp only
  unfold cleaned at h
  rw [h]
  dsimp only
  rw [if_neg other, if_pos web.special]

/-! ## Below an endpoint -/

/-- Two texts that go on from one have one scheme. -/
theorem scheme_below {cs slashes after : List Char} {u v : Url}
    (plain : ∀ c ∈ slashes, c = '/') (hu : parse (String.ofList (cs ++ slashes)) = .ok u)
    (hv : parse (String.ofList (cs ++ '/' :: after)) = .ok v) : v.scheme = u.scheme := by
  obtain ⟨blanks, -, -, clean⟩ := cleaned_append cs
  obtain ⟨rest, hs⟩ := scheme_parse hu
  obtain ⟨rest', hs'⟩ := scheme_parse hv
  rw [String.toList_ofList] at hs hs'
  rw [clean, List.append_assoc] at hs'
  have found : ∃ rest, scheme? (cleaned cs ++ (blanks ++ '/' :: heard after)) =
      some (u.scheme, rest) := by
    cases slashes with
    | nil =>
      rw [List.append_nil] at hs
      exact ⟨_, scheme?_append_right hs _⟩
    | cons c slashes =>
      obtain rfl : c = '/' := plain c List.mem_cons_self
      rw [clean] at hs
      obtain ⟨more, before⟩ := scheme?_append hs
      rw [← List.append_assoc]
      exact ⟨_, scheme?_append_right before _⟩
  obtain ⟨_, same⟩ := found
  exact (Prod.mk.inj (Option.some.inj (hs'.symm.trans same))).1

/-- The scheme of a text that goes on from an endpoint and a slash is in the endpoint, and the
endpoint and all texts that do are read alike from their authority on, but for blanks at the end of
the endpoint, which do not count without the slash. -/
theorem parse_onward {endpoint after : List Char} {u : Url}
    (h : parse (String.ofList (endpoint ++ '/' :: after)) = .ok u) (web : IsWeb u.scheme) :
    ∃ more blanks : List Char, (∀ c ∈ blanks, c.toNat ≤ 0x20) ∧ (more ++ blanks).Sublist endpoint ∧
      parse (String.ofList endpoint) = afterSlashes u.scheme (more.dropWhile (isSlash true)) ∧
      ∀ after, parse (String.ofList (endpoint ++ '/' :: after)) =
        afterSlashes u.scheme
          ((more ++ blanks ++ '/' :: heard after).dropWhile (isSlash true)) := by
  obtain ⟨blanks, low, inEndpoint, clean⟩ := cleaned_append endpoint
  obtain ⟨rest, hs⟩ := scheme_parse h
  rw [String.toList_ofList, clean] at hs
  obtain ⟨_, before⟩ := scheme?_append hs
  obtain ⟨more, rfl, scheme⟩ := scheme?_of_blanks low before
  refine ⟨more, blanks, low, ?_, parse_web web (by rw [String.toList_ofList]; exact scheme),
    fun after => parse_web web ?_⟩
  · obtain ⟨front, eq, -, -⟩ := scheme?_split before
    refine List.Sublist.trans ?_ inEndpoint
    rw [eq]
    exact (List.sublist_cons_self _ _).trans (List.sublist_append_right _ _)
  · rw [String.toList_ofList, clean after]
    exact scheme?_append_right before ('/' :: heard after)

/-- An authority and what follows it in front of a slash do not depend on what follows the slash. -/
theorem afterSlashes_append {scheme : String} (special : isSpecial scheme = true)
    (cs after : List Char) :
    afterSlashes scheme (cs ++ '/' :: after) =
      (site scheme (cs.takeWhile fun c => !endsAuthority c)).map fun v =>
        v.behind ((cs.dropWhile fun c => !endsAuthority c) ++ '/' :: after) := by
  have slash : (!endsAuthority '/') = false := by decide
  have back := dropWhile_append_of_neg (p := fun c => !endsAuthority c) slash cs after
  rw [afterSlashes_eq special, back,
    takeWhile_append_of_neg (p := fun c => !endsAuthority c) slash]

/-- The URL of an endpoint that is followed by slashes determines those of all texts that go on from
the first slash. They differ in what follows the authority, which starts with what the endpoint has
there. -/
theorem parse_behind {endpoint slashes : List Char} {u : Url}
    (plain : ∀ c ∈ slashes, isSlash true c = true)
    (h : parse (String.ofList (endpoint ++ '/' :: slashes)) = .ok u) (web : IsWeb u.scheme) :
    ∃ (v : Url) (tail : List Char), tail.Sublist endpoint ∧ ∀ after,
      parse (String.ofList (endpoint ++ '/' :: after)) =
        .ok (v.behind (tail ++ '/' :: heard after)) := by
  have special := web.special
  have alone : ∀ c ∈ heard slashes, isSlash true c = true := fun c hc =>
    plain c ((List.filter_sublist.trans (trimEnd_sublist _ slashes)).subset hc)
  obtain ⟨before, blanks, -, inEndpoint, -, read⟩ := parse_onward h web
  generalize before ++ blanks = more at inEndpoint read
  -- The authority is in the endpoint, too.
  have authority : more.dropWhile (isSlash true) ≠ [] := by
    intro empty
    have none : ('/' :: heard slashes).dropWhile (isSlash true) = [] :=
      List.dropWhile_eq_nil_iff.mpr (List.forall_mem_cons.mpr ⟨by decide, alone⟩)
    rw [read, List.dropWhile_append, empty] at h
    simp only [List.isEmpty_nil, if_true, none] at h
    exact afterSlashes_nil special h
  have known : ∀ after, parse (String.ofList (endpoint ++ '/' :: after)) =
      afterSlashes u.scheme (more.dropWhile (isSlash true) ++ '/' :: heard after) := by
    intro after
    rw [read, List.dropWhile_append, if_neg (by simpa using authority)]
  have inEndpoint := (List.dropWhile_sublist (isSlash true)).trans inEndpoint
  generalize more.dropWhile (isSlash true) = cs at known inEndpoint
  simp only [afterSlashes_append special] at known
  cases hv : site u.scheme (cs.takeWhile fun c => !endsAuthority c) with
  | error f =>
    rw [known, hv] at h
    cases h
  | ok v =>
    rw [hv] at known
    exact ⟨v, _, (List.dropWhile_sublist _).trans inEndpoint, known⟩

/-- The URL of a text that starts with an endpoint and a slash. -/
def extended (u : Url) (done : List (List Char)) (after : List Char) : Url :=
  { u with
    path := pathOf (resolve false done (pieces (isSlash true) (front after)))
    query := (queryAndFragment true ((heard after).dropWhile fun c => !endsPath c)).1
    fragment := (queryAndFragment true ((heard after).dropWhile fun c => !endsPath c)).2 }

/-- The URL of an endpoint that is followed by a slash determines those of all texts that go on from
there. The segments of the endpoint are resolved on their own, and come first. -/
theorem parse_extended {endpoint : List Char} {u : Url} (marks : ∀ c ∈ endpoint, endsPath c = false)
    (h : parse (String.ofList (endpoint ++ ['/'])) = .ok u) (web : IsWeb u.scheme) :
    ∃ done, ∀ after,
      parse (String.ofList (endpoint ++ '/' :: after)) = .ok (u.extended done after) := by
  obtain ⟨v, path, inEndpoint, known⟩ := parse_behind (by simp) h web
  -- What follows the authority starts with what the endpoint has there.
  have tail : ∀ c ∈ path, (!endsPath c) = true := fun c hc => by
    rw [marks c (inEndpoint.subset hc)]
    rfl
  obtain ⟨done, paths⟩ := pathAfterAuthority_append path
  have same : u = v.behind (path ++ '/' :: heard []) := Except.ok.inj (h.symm.trans (known []))
  refine ⟨done, fun after => (known after).trans ?_⟩
  rw [same]
  have slash : (!endsPath '/') = true := by decide
  simp only [behind, extended, List.takeWhile_append_of_pos tail,
    List.dropWhile_append_of_pos tail, List.takeWhile_cons, List.dropWhile_cons, slash, if_true,
    paths]
  rfl

end OneFs.Url
