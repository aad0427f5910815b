import Mathlib.Data.Bool.AllAny
import Mathlib.Data.List.Basic
import OneFs.Http.Request
import OneFs.Proofs.Url.Endpoint
import OneFs.Proofs.Url.Query

/-!
# Sites

A site is an endpoint that says no more than where requests go: a scheme, a host and perhaps a port.
Texts of letters, digits, dashes and slashes behind it are its paths as they are.

- `IsSite`: the endpoints that are sites;
- `parse_root`: what the URL of a site consists of;
- `parse_below`: the URL of a path below a site.
-/

namespace OneFs.Url

open Text Percent Http

/-! ## Endpoints that are sites -/

/-- A scheme, and a host with or without a port behind it, which make up the URL `u`. Requests can
be sent there. -/
structure SiteText (scheme authority : String) (u : Url) : Prop where
  web : IsWeb (Text.lower scheme)
  plain : ∀ c ∈ authority.toList, 0x20 < c.toNat ∧ endsAuthority c = false ∧ c ≠ '@'
  parsed : parse (scheme ++ "://" ++ authority) = .ok u
  sendable : isSendable u = true

/-- A site with any number of slashes behind it. Its name leaves room for `room` more characters in
a URL; names of hosts have no more than 253, and URLs on the wire may have `longestUrl`. -/
def IsSite (room : Nat) (endpoint : String) : Prop :=
  ∃ (scheme authority : String) (slashes : Nat) (u : Url),
    endpoint = scheme ++ "://" ++ authority ++ String.ofList (List.replicate slashes '/') ∧
      SiteText scheme authority u ∧ u.text.utf8ByteSize + room ≤ longestUrl

theorem IsSite.mono {room less : Nat} {endpoint : String} (h : IsSite room endpoint)
    (le : less ≤ room) : IsSite less endpoint := by
  obtain ⟨scheme, authority, slashes, u, eq, text, fits⟩ := h
  exact ⟨scheme, authority, slashes, u, eq, text, by omega⟩

theorem toLower_mem_of_web {scheme : String} (web : IsWeb (Text.lower scheme)) {c : Char}
    (hc : c ∈ scheme.toList) : c.toLower ∈ "https".toList := by
  have mem : c.toLower ∈ (Text.lower scheme).toList := by
    unfold Text.lower
    rw [String.toList_ofList]
    exact List.mem_map_of_mem hc
  rcases web with eq | eq
  · rw [eq] at mem
    have more : ∀ x ∈ "http".toList, x ∈ "https".toList :=
      List.all_iff_forall_prop.mp (by decide)
    exact more _ mem
  · rwa [eq] at mem

/-- The characters of a scheme are letters, so they are neither blanks nor colons. -/
theorem letters_of_web {scheme : String} (web : IsWeb (Text.lower scheme)) :
    ∀ c ∈ scheme.toList, 0x20 < c.toNat ∧ c ≠ ':' ∧ c.isAlpha = true := by
  intro c hc
  have small := toLower_mem_of_web web hc
  have fine : ∀ x ∈ "https".toList, 0x20 < x.toNat ∧ x ≠ ':' ∧ x.isAlpha = true :=
    List.all_iff_forall_prop.mp (by decide)
  -- Only the capital letters differ from their small ones.
  by_cases upper : c.val ≥ 'A'.val ∧ c.val ≤ 'Z'.val
  · have low : 65 ≤ c.toNat := upper.1
    refine ⟨by omega, ?_, Bool.or_eq_true_iff.mpr (.inl (decide_eq_true upper))⟩
    rintro rfl
    exact absurd upper.1 (by decide)
  · have same : c.toLower = c := dif_neg upper
    rw [same] at small
    exact fine c small

/-- A text without an `@` has no user name in it. -/
theorem splitUserInfo_plain {cs : List Char} (plain : ∀ c ∈ cs, c ≠ '@') :
    splitUserInfo cs = (none, cs) := by
  have whole : cs.reverse.takeWhile (· != '@') = cs.reverse :=
    List.takeWhile_eq_self_iff.mpr fun c hc => by
      simpa using plain c (List.mem_reverse.mp hc)
  unfold splitUserInfo
  rw [whole, List.reverse_reverse]
  exact if_pos rfl

/-- A URL that consists of a host and a port. -/
def root (scheme : String) (found : Host × Option Nat) : Url :=
  ⟨scheme, "", none, some found.1, found.2, .segments [""], none, none⟩

/-- A URL with a text as its path. -/
def below (u : Url) (path : String) : Url :=
  { u with path := pathAfterAuthority true ('/' :: path.toList) }

/-- An authority without user name is a host and a port, with a path behind it or none. -/
theorem afterSlashes_root {scheme : String} {cs tail : List Char}
    (special : isSpecial scheme = true)
    (plain : ∀ c ∈ cs, endsAuthority c = false ∧ c ≠ '@')
    (starts : ∀ c rest, tail = c :: rest → c = '/') (unmarked : ∀ c ∈ tail, endsPath c = false) :
    afterSlashes scheme (cs ++ tail) = (hostAndPort scheme cs).map
      fun found => { root scheme found with path := pathAfterAuthority true tail } := by
  have inside : ∀ c ∈ cs, (!endsAuthority c) = true := fun c hc => by rw [(plain c hc).1]; rfl
  -- The authority ends where the tail begins, and the tail is all path.
  have front : (cs ++ tail).takeWhile (fun c => !endsAuthority c) = cs := by
    rw [List.takeWhile_append_of_pos inside]
    cases tail with
    | nil => simp
    | cons c rest =>
      rw [starts c rest rfl, List.takeWhile_cons_of_neg (by decide), List.append_nil]
  have back : (cs ++ tail).dropWhile (fun c => !endsAuthority c) = tail := by
    rw [List.dropWhile_append_of_pos inside]
    cases tail with
    | nil => rfl
    | cons c rest => exact starts c rest rfl ▸ List.dropWhile_cons_of_neg (by decide)
  have path : tail.takeWhile (fun c => !endsPath c) = tail :=
    List.takeWhile_eq_self_iff.mpr fun c hc => by rw [unmarked c hc]; rfl
  have rest : tail.dropWhile (fun c => !endsPath c) = [] :=
    List.dropWhile_eq_nil_iff.mpr fun c hc => by rw [unmarked c hc]; rfl
  have same : ∀ c, (isSlash true c || endsPath c) = endsAuthority c := fun _ => rfl
  unfold afterSlashes
  simp only [special, same, front, back, path, rest,
    splitUserInfo_plain fun c hc => (plain c hc).2]
  cases hostAndPort scheme cs with
  | error f => rfl
  | ok found =>
    simp [bind, Except.bind, userInfoOf, encode, queryAndFragment]
    rfl

/-- Text without blanks counts as it is. -/
theorem cleaned_solid {cs : List Char} (solid : ∀ c ∈ cs, 0x20 < c.toNat) : cleaned cs = cs := by
  have first : ∀ cs : List Char, (∀ c ∈ cs, 0x20 < c.toNat) →
      cs.dropWhile (fun c => c.toNat ≤ 0x20) = cs := by
    intro cs solid
    cases cs with
    | nil => rfl
    | cons c cs =>
      have := solid c List.mem_cons_self
      exact List.dropWhile_cons_of_neg (by simp; omega)
  unfold cleaned trimBoth
  rw [first cs solid, first _ fun c hc => solid c (List.mem_reverse.mp hc), List.reverse_reverse,
    List.filter_eq_self]
  intro c hc
  have := solid c hc
  have other : ∀ d : Char, d.toNat ≤ 0x20 → (c == d) = false := by
    intro d hd
    rw [beq_eq_false_iff_ne]
    rintro rfl
    omega
  simp [other '\t' (by decide), other '\n' (by decide), other '\r' (by decide)]

/-- A scheme is read in small letters. -/
theorem scheme?_lower {cs rest : List Char} {s : String} (free : ∀ c ∈ cs, c ≠ ':')
    (h : scheme? (cs ++ [':']) = some (s, rest)) : s = String.ofList (cs.map Char.toLower) := by
  have front : (cs ++ [':']).takeWhile (· != ':') = cs := by
    rw [takeWhile_append_of_neg (p := (· != ':')) (by decide), List.takeWhile_eq_self_iff]
    exact fun c hc => by simpa using free c hc
  unfold scheme? at h
  rw [front] at h
  dsimp only at h
  split at h
  · split at h
    · exact (Prod.mk.inj (Option.some.inj h)).1.symm
    · cases h
  · cases h

namespace SiteText

variable {scheme authority : String} {u : Url}

/-- Whatever solid text follows a site, it is read from the authority on. -/
theorem parse_append (h : SiteText scheme authority u) {tail : String}
    (solid : ∀ c ∈ tail.toList, 0x20 < c.toNat) :
    parse (scheme ++ "://" ++ authority ++ tail) = afterSlashes (Text.lower scheme)
      ((authority.toList ++ tail.toList).dropWhile (isSlash true)) := by
  have letters := letters_of_web h.web
  have text : ∀ tail : String, (scheme ++ "://" ++ authority ++ tail).toList =
      scheme.toList ++ ':' :: '/' :: '/' :: (authority.toList ++ tail.toList) := by
    intro tail
    simp [String.toList_append]
  -- Without blanks in it the text counts as it is, and its scheme ends at the colon.
  have read : ∀ tail : String, (∀ c ∈ tail.toList, 0x20 < c.toNat) →
      scheme? (cleaned (scheme ++ "://" ++ authority ++ tail).toList) =
        (scheme? (scheme.toList ++ [':'])).map
          fun s => (s.1, '/' :: '/' :: (authority.toList ++ tail.toList)) := by
    intro tail solid
    rw [text, cleaned_solid, scheme?_colon fun c hc => (letters c hc).2.1]
    intro c hc
    simp only [List.mem_append, List.mem_cons] at hc
    rcases hc with hc | rfl | rfl | rfl | hc | hc
    · exact (letters c hc).1
    · decide
    · decide
    · decide
    · exact (h.plain c hc).1
    · exact solid c hc
  obtain ⟨rest, found⟩ := scheme_parse h.parsed
  have alone : scheme ++ "://" ++ authority ++ "" = scheme ++ "://" ++ authority :=
    String.append_empty
  have here := read "" (by simp)
  rw [alone, found] at here
  cases hs : scheme? (scheme.toList ++ [':']) with
  | none => rw [hs] at here; cases here
  | some p =>
    have lower : p.1 = Text.lower scheme :=
      scheme?_lower (fun c hc => (letters c hc).2.1) hs
    rw [hs] at read
    rw [parse_web h.web (by rw [read tail solid, ← lower]; rfl)]
    rfl

theorem special (h : SiteText scheme authority u) : isSpecial (Text.lower scheme) = true :=
  h.web.special

/-- A site by itself is read from its authority on. -/
theorem parse_eq (h : SiteText scheme authority u) :
    .ok u = afterSlashes (Text.lower scheme)
      ((authority.toList ++ []).dropWhile (isSlash true)) := by
  have alone : parse (scheme ++ "://" ++ authority ++ "") = _ := h.parse_append (by simp)
  rwa [String.append_empty, h.parsed] at alone

theorem filled (h : SiteText scheme authority u) : authority.toList ≠ [] := by
  intro empty
  have alone := h.parse_eq
  rw [empty] at alone
  exact afterSlashes_nil h.special alone.symm

/-- There is a host, and so the slashes behind it are not taken for those in front of it. -/
theorem dropWhile_append (h : SiteText scheme authority u) (tail : List Char) :
    (authority.toList ++ tail).dropWhile (isSlash true) = authority.toList ++ tail := by
  cases chars : authority.toList with
  | nil => exact absurd chars h.filled
  | cons c cs =>
    have ends := (h.plain c (by rw [chars]; exact List.mem_cons_self)).2.1
    unfold endsAuthority at ends
    rw [Bool.or_eq_false_iff] at ends
    exact List.dropWhile_cons_of_neg (by rw [ends.1]; decide)

/-- A site is read as its host and its port, and what follows a slash behind it as the path. -/
theorem parse_below (h : SiteText scheme authority u) :
    (∃ found, u = root (Text.lower scheme) found) ∧
      ∀ path : String, (∀ c ∈ path.toList, 0x20 < c.toNat ∧ endsPath c = false) →
        parse (scheme ++ "://" ++ authority ++ ("/" ++ path)) = .ok (u.below path) := by
  have plain : ∀ c ∈ authority.toList, endsAuthority c = false ∧ c ≠ '@' :=
    fun c hc => (h.plain c hc).2
  have alone := h.parse_eq
  have bare : afterSlashes (Text.lower scheme) (authority.toList ++ []) = _ :=
    afterSlashes_root h.special plain (fun _ _ h => by cases h)
      (fun _ h => absurd h List.not_mem_nil)
  rw [h.dropWhile_append, bare] at alone
  cases found : hostAndPort (Text.lower scheme) authority.toList with
  | error f => rw [found] at alone; cases alone
  | ok p =>
    rw [found] at alone
    have url : u = root (Text.lower scheme) p := Except.ok.inj alone
    refine ⟨⟨p, url⟩, fun path fine => ?_⟩
    have chars : ("/" ++ path).toList = '/' :: path.toList := by
      rw [String.toList_append]
      rfl
    have solid : ∀ c ∈ ("/" ++ path).toList, 0x20 < c.toNat ∧ endsPath c = false := by
      intro c hc
      rw [chars] at hc
      rcases List.mem_cons.mp hc with rfl | hc
      · decide
      · exact fine c hc
    rw [h.parse_append fun c hc => (solid c hc).1, h.dropWhile_append,
      afterSlashes_root h.special plain
      (fun c rest eq => ((List.cons.inj (chars.symm.trans eq)).1).symm)
      (fun c hc => (solid c hc).2), found, url, chars]
    rfl

end SiteText

/-- A host that is written as a number, with its port, is a site with much room. -/
theorem isSite_loopback : IsSite 1000 "http://[::1]:8080/" := by
  refine ⟨"http", "[::1]:8080", 1,
    root "http" (.ipv6 [0, 0, 0, 0, 0, 0, 0, 1], some 8080), rfl, ?_, by decide⟩
  exact ⟨.inl rfl, List.all_iff_forall_prop.mp (by decide), rfl, by decide⟩

/-! ## Paths below a site -/

/-- The characters of paths that stand for themselves in every URL. -/
def isPlainMark (c : Char) : Bool :=
  c.isAlphanum || c == '-' || c == '/'

theorem isPlainMark_small {c : Char} (h : isPlainMark c = true) : c.toNat < 128 := by
  have below : ∀ {d : Char}, d.toNat < 128 → c.val ≤ d.val → c.toNat < 128 :=
    fun small le => Nat.lt_of_le_of_lt le small
  unfold isPlainMark at h
  rw [Bool.or_eq_true, Bool.or_eq_true] at h
  rcases h with (alphanum | dash) | slash
  · rcases Bool.or_eq_true_iff.mp alphanum with alpha | digit
    · rcases Bool.or_eq_true_iff.mp alpha with upper | lower
      · exact below (by decide) (of_decide_eq_true upper).2
      · exact below (by decide) (of_decide_eq_true (Bool.and_eq_true_iff.mp lower).2)
    · exact below (by decide) (of_decide_eq_true (Bool.and_eq_true_iff.mp digit).2)
  · rw [eq_of_beq dash]
    decide
  · rw [eq_of_beq slash]
    decide

/-- What makes them stand for themselves. -/
theorem isPlainMark_spec {c : Char} (h : isPlainMark c = true) :
    (0x20 < c.toNat ∧ endsPath c = false) ∧ inPath c = false ∧ c ≠ '\\' ∧ c ≠ '.' ∧ c ≠ '%' := by
  have all : ∀ n < 128, isPlainMark (Char.ofNat n) = true →
      (0x20 < (Char.ofNat n).toNat ∧ endsPath (Char.ofNat n) = false) ∧
        inPath (Char.ofNat n) = false ∧ Char.ofNat n ≠ '\\' ∧ Char.ofNat n ≠ '.' ∧
        Char.ofNat n ≠ '%' := by
    decide
  have := all c.toNat (isPlainMark_small h)
  rw [Char.ofNat_toNat] at this
  exact this h

/-- Characters that are not excluded are written as they are. -/
theorem encode_plain {excluded : Char → Bool} {cs : List Char}
    (plain : ∀ c ∈ cs, excluded c = false) : encode excluded cs = cs := by
  induction cs with
  | nil => rfl
  | cons c cs ih =>
    have first := plain c List.mem_cons_self
    rw [encode_cons, ih fun d hd => plain d (List.mem_cons_of_mem c hd), first]
    rfl

/-- Every piece behind a slash, the pieces make up the text behind a slash. -/
theorem flatMap_pieces (cs : List Char) :
    (pieces (· == '/') cs).flatMap ('/' :: ·) = '/' :: cs := by
  have joined : ∀ ps : List (List Char), ps ≠ [] →
      ps.flatMap ('/' :: ·) = '/' :: Text.joined '/' ps := by
    intro ps
    induction ps with
    | nil => intro h; exact absurd rfl h
    | cons p ps ih =>
      intro _
      cases ps with
      | nil => simp [Text.joined]
      | cons q rest =>
        rw [List.flatMap_cons, ih (by simp), Text.joined]
        rfl
  rw [joined _ (pieces_ne_nil _ _), joined_pieces]

/-- Such characters stand for themselves behind segments that are there already. -/
theorem pathChars_resolve (done : List (List Char)) {cs : List Char}
    (plain : ∀ c ∈ cs, isPlainMark c = true) :
    pathChars (resolve false done (pieces (isSlash true) cs)) =
      pathChars done.reverse ++ '/' :: cs := by
  have inPieces : ∀ s ∈ pieces (· == '/') cs, ∀ c ∈ s, isPlainMark c = true := by
    intro s hs c hc
    obtain ⟨before, after, eq⟩ := infix_of_mem_pieces _ _ s hs
    exact plain c (by rw [eq]; simp [hc])
  -- Without dots and triples, no piece is one of the names for directories.
  have kept : ∀ s ∈ pieces (· == '/') cs, isAbove s = false ∧ isHere s = false := by
    intro s hs
    have free : HasNoTriple s := by
      intro before a b rest eq
      have percent := inPieces s hs '%' (by rw [eq]; simp)
      exact absurd rfl (isPlainMark_spec percent).2.2.2.2
    have dotless : '.' ∉ s := fun hc => (isPlainMark_spec (inPieces s hs '.' hc)).2.2.2.1 rfl
    unfold isAbove isHere
    rw [dots_of_hasNoTriple free]
    constructor <;> rw [beq_eq_false_iff_ne] <;> rintro rfl <;> simp at dotless
  have written : ∀ s ∈ pieces (· == '/') cs, '/' :: encode inPath s = '/' :: s :=
    fun s hs => by rw [encode_plain fun c hc => (isPlainMark_spec (inPieces s hs c hc)).2.1]
  rw [pieces_isSlash fun c hc => (isPlainMark_spec (plain c hc)).2.2.1, resolve_plain _ _ kept]
  unfold pathChars
  rw [List.flatMap_append, List.flatMap_congr written, flatMap_pieces]

/-- A path of such characters has the text that it is read from. -/
theorem pathText_below (u : Url) {path : String}
    (plain : ∀ c ∈ path.toList, isPlainMark c = true) :
    (u.below path).pathText = "/" ++ path := by
  apply String.toList_injective
  rw [toList_pathText (u.below path) _ rfl, pathChars_resolve [] plain]
  simp [pathChars]

/-! ## Requests to a site -/

/-- A URL without user name has no login to take out of it. -/
theorem bareUrl_unnamed {u : Url} (username : u.username = "") (password : u.password = none) :
    bareUrl u = u := by
  have empty : Percent.decodeText? [] = some "" := by
    unfold Percent.decodeText?
    rw [decode_nil]
    rfl
  have none : u.login? = none := by
    unfold login?
    rw [username, password]
    cases u.host with
    | none => rfl
    | some _ =>
      dsimp only
      rw [String.toList_empty, empty]
      rfl
  unfold bareUrl
  rw [none]
  rfl

section Root

variable {scheme : String} {found : Host × Option Nat} {path : String}

/-- The text of a URL of a site ends in its path. -/
theorem text_root (scheme : String) (found : Host × Option Nat) (path : UrlPath) :
    { root scheme found with path }.text = scheme ++ ":" ++ (root scheme found).authority ++
      { root scheme found with path }.pathText := by
  show scheme ++ ":" ++ (root scheme found).authority ++ "" ++ _ ++ "" ++ "" = _
  simp only [String.append_empty]

/-- A path below a site takes as much more room as it has characters. -/
theorem size_below (plain : ∀ c ∈ path.toList, isPlainMark c = true) :
    ((root scheme found).below path).text.utf8ByteSize =
      (root scheme found).text.utf8ByteSize + path.utf8ByteSize := by
  have slash : (root scheme found).pathText = "/" := by
    unfold pathText root
    simp [String.join]
  have here := text_root scheme found (.segments [""])
  have there := text_root scheme found (pathAfterAuthority true ('/' :: path.toList))
  change (root scheme found).text = _ ++ (root scheme found).pathText at here
  change ((root scheme found).below path).text =
    _ ++ ((root scheme found).below path).pathText at there
  rw [slash] at here
  rw [pathText_below _ plain] at there
  rw [here, there]
  simp only [String.utf8ByteSize_append]
  omega

/-- A site can be sent requests for all paths and queries for which there is room. -/
theorem isSendable_below (plain : ∀ c ∈ path.toList, isPlainMark c = true)
    (sendable : isSendable (root scheme found) = true) (q : Option String) :
    isSendable { (root scheme found).below path with query := q } = true ↔
      (root scheme found).text.utf8ByteSize + (path ++ marked "?" q).utf8ByteSize ≤
        longestUrl := by
  have text := ((root scheme found).below path).text_query rfl rfl q
  have size : ((root scheme found).below path).text.utf8ByteSize = _ := size_below plain
  unfold isSendable at sendable ⊢
  rw [Bool.and_eq_true] at sendable ⊢
  rw [text, String.utf8ByteSize_append, size, String.utf8ByteSize_append, decide_eq_true_eq,
    Nat.add_assoc]
  exact and_iff_right sendable.1

end Root

end OneFs.Url
