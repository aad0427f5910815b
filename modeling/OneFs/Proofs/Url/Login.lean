import OneFs.Proofs.Url.Origin
import OneFs.Proofs.Url.Site

/-!
# Logins

A URL can name a user and a password in front of its host. The password in an endpoint is that of
its URL, and of all URLs below it, and nothing else in these depends on it.

- `login?_behind`, `bareUrl_behind`: what follows the authority has no part in a login;
- `login?_site`, `authority_heard`: where there is no login;
- `Entrance`: endpoints that name a user, but for the password;
- `Entrance.parse_text`: their URLs;
- `Entrance.text_below`: what follows such an endpoint and a slash is such an endpoint.
-/

namespace OneFs.Url

open Text Percent Http

/-! ## Logins of URLs -/

@[simp] theorem login?_behind (u : Url) (rest : List Char) : (u.behind rest).login? = u.login? :=
  rfl

@[simp] theorem bareUrl_behind (u : Url) (rest : List Char) :
    bareUrl (u.behind rest) = (bareUrl u).behind rest := by
  unfold bareUrl
  rw [login?_behind]
  split <;> rfl

@[simp] theorem login?_withPairs (u : Url) (pairs : List (String × String)) :
    (u.withPairs pairs).login? = u.login? := by
  unfold withPairs
  split
  · rfl
  · dsimp only
    split <;> rfl

/-- Without an `@` there is no user name in an authority. -/
theorem login?_site {scheme : String} {cs : List Char} {s : Url} (plain : ∀ c ∈ cs, c ≠ '@')
    (h : site scheme cs = .ok s) : s.login? = none := by
  obtain ⟨found, -, rfl⟩ := site_spec h
  rw [splitUserInfo_plain plain]
  rfl

/-- Whether a character counts inside a URL. -/
def counts (c : Char) : Bool :=
  !(c == '\t' || c == '\n' || c == '\r')

theorem counts_of_high {c : Char} (high : 0x20 < c.toNat) : counts c = true := by
  have other (mark : Char) (low : mark.toNat ≤ 0x20) : (c == mark) = false := by
    rw [beq_eq_false_iff_ne]
    rintro rfl
    omega
  unfold counts
  rw [other '\t' (by decide), other '\n' (by decide), other '\r' (by decide)]
  rfl

/-- The characters of a text that count inside a URL. -/
def counted (cs : List Char) : List Char :=
  cs.filter counts

theorem counted_eq {cs : List Char} (solid : ∀ c ∈ cs, 0x20 < c.toNat) : counted cs = cs :=
  List.filter_eq_self.mpr fun c hc => counts_of_high (solid c hc)

theorem counted_append {mark : Char} (high : 0x20 < mark.toNat) (cs rest : List Char) :
    counted (cs ++ mark :: rest) = counted cs ++ mark :: counted rest := by
  unfold counted
  rw [List.filter_append, List.filter_cons_of_pos (counts_of_high high)]

/-- What counts in front of a mark that counts, and behind it. -/
theorem heard_append {mark : Char} (high : 0x20 < mark.toNat) (cs rest : List Char) :
    heard (cs ++ mark :: rest) = counted cs ++ mark :: heard rest := by
  have last : decide (mark.toNat ≤ 0x20) = false := by simpa using high
  unfold heard
  rw [trimEnd_append_of_neg last]
  exact counted_append high cs _

/-- Below an endpoint without an authority, a word in front of a slash stands in for it. -/
theorem authority_heard {first : Char} {word : List Char}
    (plain : ∀ c ∈ first :: word, endsAuthority c = false ∧ 0x20 < c.toNat) (rest : List Char) :
    (('/' :: heard (first :: word ++ '/' :: rest)).dropWhile (isSlash true)).takeWhile
      (fun c => !endsAuthority c) = first :: word := by
  have begins : isSlash true first = false :=
    (Bool.or_eq_false_iff.mp (plain first List.mem_cons_self).1).1
  have inside : ∀ c ∈ first :: word, (!endsAuthority c) = true := fun c hc => by
    rw [(plain c hc).1]
    rfl
  rw [heard_append (by decide), counted_eq fun c hc => (plain c hc).2,
    List.dropWhile_cons_of_pos (by decide), List.cons_append,
    List.dropWhile_cons_of_neg (by rw [begins]; decide), ← List.cons_append,
    List.takeWhile_append_of_pos inside, List.takeWhile_cons_of_neg (by decide), List.append_nil]

/-! ## Endpoints that name a user -/

theorem scheme?_web {scheme : String} (web : IsWeb (Text.lower scheme)) (rest : List Char) :
    scheme? (scheme.toList ++ ':' :: rest) = some (Text.lower scheme, rest) := by
  have letters := letters_of_web web
  have front : (scheme.toList ++ ':' :: rest).takeWhile (· != ':') = scheme.toList := by
    rw [takeWhile_append_of_neg (p := (· != ':')) (by decide), List.takeWhile_eq_self_iff]
    exact fun c hc => by simpa using (letters c hc).2.1
  have back : (scheme.toList ++ ':' :: rest).dropWhile (· != ':') = ':' :: rest := by
    rw [dropWhile_append_of_neg (p := (· != ':')) (by decide),
      List.dropWhile_eq_nil_iff.mpr fun c hc => by simpa using (letters c hc).2.1, List.nil_append]
  have marks : scheme.toList.all
      (fun c => c.isAlphanum || c == '+' || c == '-' || c == '.') = true := by
    refine List.all_eq_true.mpr fun c hc => ?_
    simp [Char.isAlphanum, (letters c hc).2.2]
  unfold scheme?
  rw [front, back]
  cases chars : scheme.toList with
  | nil =>
    have none : Text.lower scheme = "" := by rw [Text.lower, chars]; rfl
    rw [none] at web
    rcases web with eq | eq <;> exact absurd eq (by decide)
  | cons first more =>
    rw [chars] at marks
    have begins := (letters first (chars ▸ List.mem_cons_self)).2.2
    dsimp only
    rw [marks, begins, Text.lower, chars]
    rfl

/-- The host of a special scheme has a name, if it is not an address. -/
theorem host_ne_of_parse {cs : List Char} {h : Host} (parsed : Host.parse cs = .ok h) :
    h ≠ .name "" := by
  unfold Host.parse at parsed
  split at parsed
  · unfold Host.bracketed at parsed
    split at parsed
    · split at parsed <;> cases parsed
      exact nofun
    · cases parsed
  · split at parsed
    · cases parsed
    · split at parsed
      · cases parsed
      · rename_i filled
        split at parsed
        · split at parsed <;> cases parsed
          exact nofun
        · cases parsed
          intro same
          have empty := String.ofList_injective (Host.name.inj same : _ = String.ofList [])
          exact filled (List.isEmpty_iff.mpr empty)

theorem host_ne_of_hostAndPort {scheme : String} (special : isSpecial scheme = true)
    {cs : List Char} {found : Host × Option Nat} (h : hostAndPort scheme cs = .ok found) :
    found.1 ≠ .name "" := by
  unfold hostAndPort at h
  generalize splitPort false cs = split at h
  simp only [special, if_true] at h
  split at h
  · cases h
  · cases parsed : Host.parse split.1 with
    | error f =>
      rw [parsed] at h
      cases h
    | ok host =>
      rw [parsed] at h
      simp only [bind, Except.bind] at h
      cases port : portOf scheme (split.2.getD []) with
      | error f =>
        rw [port] at h
        cases h
      | ok port' =>
        rw [port] at h
        cases h
        exact host_ne_of_parse parsed

/-- A user name and a password stand in front of the last `@`. -/
theorem splitUserInfo_append {cs authority : List Char} (last : ∀ c ∈ authority, c ≠ '@') :
    splitUserInfo (cs ++ '@' :: authority) = (some cs, authority) := by
  have host : (cs ++ '@' :: authority).reverse.takeWhile (· != '@') = authority.reverse := by
    rw [List.reverse_append, List.reverse_cons, List.append_assoc,
      List.takeWhile_append_of_pos fun c hc => by simpa using last c (List.mem_reverse.mp hc)]
    simp
  unfold splitUserInfo
  rw [host, List.reverse_reverse]
  have front : (cs ++ '@' :: authority).length - authority.length - 1 = cs.length := by
    simp only [List.length_append, List.length_cons]
    omega
  dsimp only
  rw [if_neg (by simp; omega), front, List.take_left]

/-- The password of a URL, as a password is written there. An empty one is none. -/
def written (password : String) : Option String :=
  if (counted password.toList).isEmpty then none
  else some (String.ofList (encode inUserInfo (counted password.toList)))

/-- A text that may stand as a password in front of a host. -/
def IsPassword (password : String) : Prop :=
  ∀ c ∈ password.toList, endsAuthority c = false

/-- An endpoint that names a user, but for the password of the user. -/
structure Entrance where
  scheme : String
  user : String
  rest : String
  web : IsWeb (Text.lower scheme)
  within : ∀ c ∈ user.toList, endsAuthority c = false ∧ c ≠ ':'
  named : ∃ name, name ≠ "" ∧ decodeText? (encode inUserInfo (counted user.toList)) = some name
  last : ∀ c ∈ rest.toList.takeWhile fun c => !endsAuthority c, c ≠ '@'

namespace Entrance

/-- The endpoint with a password. -/
def text (e : Entrance) (password : String) : String :=
  e.scheme ++ "://" ++ e.user ++ ":" ++ password ++ "@" ++ e.rest

/-- The URL of the endpoint, without the password. -/
def url (e : Entrance) : Except UrlFault Url :=
  (hostAndPort (Text.lower e.scheme)
      ((heard e.rest.toList).takeWhile fun c => !endsAuthority c)).map
    fun found => behind ⟨Text.lower e.scheme,
      String.ofList (encode inUserInfo (counted e.user.toList)), none, some found.1, found.2,
      .segments [], none, none⟩ ((heard e.rest.toList).dropWhile fun c => !endsAuthority c)

theorem takeWhile_trimEnd_subset (p : Char → Bool) {q : Char → Bool} {cs : List Char} :
    (trimEnd p cs).takeWhile q ⊆ cs.takeWhile q := by
  obtain ⟨tail, -, whole⟩ := eq_trimEnd_append p cs
  intro c hc
  rw [whole, List.takeWhile_append]
  split
  · exact List.mem_append_left _ ((List.takeWhile_sublist _).subset hc)
  · exact hc

/-- The authority in what counts of a text is in that of the text. -/
theorem takeWhile_heard_subset {cs : List Char} :
    (heard cs).takeWhile (fun c => !endsAuthority c) ⊆ cs.takeWhile fun c => !endsAuthority c := by
  have inside : ∀ c, (!counts c || !endsAuthority c) = !endsAuthority c := by
    intro c
    cases kept : counts c with
    | true => rfl
    | false =>
      have mark : (c = '\t' ∨ c = '\n') ∨ c = '\r' := by
        simpa only [counts, Bool.not_eq_false', Bool.or_eq_true, beq_iff_eq] using kept
      rcases mark with (rfl | rfl) | rfl <;> decide
  intro c hc
  have mem : c ∈ ((trimEnd (fun c => c.toNat ≤ 0x20) cs).filter counts).takeWhile
    fun c => !endsAuthority c := hc
  rw [List.takeWhile_filter] at mem
  simp only [inside] at mem
  exact takeWhile_trimEnd_subset _ (List.mem_filter.mp mem).1

/-- What counts in the endpoint with a password. -/
theorem cleaned_text (e : Entrance) (password : String) :
    cleaned (e.text password).toList = e.scheme.toList ++ ':' :: '/' :: '/' ::
      (counted e.user.toList ++ ':' ::
        (counted password.toList ++ '@' :: heard e.rest.toList)) := by
  have letters := letters_of_web e.web
  have chars : (e.text password).toList = (e.scheme.toList ++ ':' :: ('/' :: '/' :: e.user.toList ++
      ':' :: password.toList)) ++ '@' :: e.rest.toList := by
    simp [text, String.toList_append]
  -- A text that begins with a letter has no blanks in front.
  have whole : (e.text password).toList.dropWhile (fun c => c.toNat ≤ 0x20) =
      (e.text password).toList := by
    rw [chars]
    cases scheme : e.scheme.toList with
    | nil => rfl
    | cons c cs =>
      have high := (letters c (scheme ▸ List.mem_cons_self)).1
      exact List.dropWhile_cons_of_neg (by simpa using high)
  have heard : cleaned (e.text password).toList = heard (e.text password).toList := by
    show heard ((e.text password).toList.dropWhile fun c => c.toNat ≤ 0x20) = _
    rw [whole]
  rw [heard, chars, heard_append (by decide), counted_append (by decide),
    counted_append (by decide), counted_eq fun c hc => (letters c hc).1]
  have slashes : counted ('/' :: '/' :: e.user.toList) = '/' :: '/' :: counted e.user.toList := rfl
  rw [slashes]
  simp

/-- The authority of the endpoint: a user name and a password stand in front of a host. -/
theorem site_login {scheme : String} (special : isSpecial scheme = true)
    {user password authority : List Char} (plain : ∀ c ∈ user, c ≠ ':')
    (last : ∀ c ∈ authority, c ≠ '@') :
    site scheme (user ++ ':' :: (password ++ '@' :: authority)) =
      (hostAndPort scheme authority).map fun found =>
        ⟨scheme, String.ofList (encode inUserInfo user),
          if password.isEmpty then none else some (String.ofList (encode inUserInfo password)),
          some found.1, found.2, .segments [], none, none⟩ := by
  have split : splitUserInfo (user ++ ':' :: (password ++ '@' :: authority)) =
      (some (user ++ ':' :: password), authority) := by
    have whole : splitUserInfo ((user ++ ':' :: password) ++ '@' :: authority) =
      (some (user ++ ':' :: password), authority) := splitUserInfo_append last
    rwa [List.append_assoc] at whole
  have login : userInfoOf (user ++ ':' :: password) = (String.ofList (encode inUserInfo user),
      if password.isEmpty then none else some (String.ofList (encode inUserInfo password))) := by
    have front : (user ++ ':' :: password).takeWhile (· != ':') = user := by
      rw [takeWhile_append_of_neg (p := (· != ':')) (by decide), List.takeWhile_eq_self_iff]
      exact fun c hc => by simpa using plain c hc
    have back : (user ++ ':' :: password).dropWhile (· != ':') = ':' :: password := by
      rw [dropWhile_append_of_neg (p := (· != ':')) (by decide),
        List.dropWhile_eq_nil_iff.mpr fun c hc => by simpa using plain c hc, List.nil_append]
    unfold userInfoOf
    rw [front, back]
    rfl
  have filled : (some (user ++ ':' :: password) == some []) = false := by simp
  unfold site
  rw [split]
  dsimp only
  rw [filled]
  cases known : hostAndPort scheme authority with
  | error f => rfl
  | ok found =>
    have host : found.1 ≠ .name "" := host_ne_of_hostAndPort special known
    simp only [bind, Except.bind, login, Option.getD_some, host, decide_false, Bool.false_and,
      Bool.false_eq_true, if_false]
    rfl

/-- The password of the endpoint is that of its URL, and nothing else in the URL depends on it. -/
theorem parse_text (e : Entrance) {password : String} (fits : IsPassword password) :
    parse (e.text password) = e.url.map fun u => { u with password := written password } := by
  have special := e.web.special
  have scheme := scheme?_web e.web ('/' :: '/' :: (counted e.user.toList ++
    ':' :: (counted password.toList ++ '@' :: heard e.rest.toList)))
  rw [parse_web e.web (by rw [cleaned_text]; exact scheme)]
  unfold url written
  have within : ∀ c ∈ counted e.user.toList, endsAuthority c = false ∧ c ≠ ':' := fun c hc =>
    e.within c (List.mem_filter.mp hc).1
  have fits : ∀ c ∈ counted password.toList, endsAuthority c = false := fun c hc =>
    fits c (List.mem_filter.mp hc).1
  have last : ∀ c ∈ (heard e.rest.toList).takeWhile fun c => !endsAuthority c, c ≠ '@' :=
    fun c hc => e.last c (takeWhile_heard_subset hc)
  generalize counted e.user.toList = user at within
  generalize counted password.toList = password at fits
  generalize heard e.rest.toList = rest at last
  -- The slashes end in front of the user name, and the authority goes on behind the `@`.
  have begins : (user ++ ':' :: (password ++ '@' :: rest)).dropWhile (isSlash true) =
      user ++ ':' :: (password ++ '@' :: rest) := by
    cases user with
    | nil => exact List.dropWhile_cons_of_neg (by decide)
    | cons c cs =>
      have plain : isSlash true c = false :=
        (Bool.or_eq_false_iff.mp (within c List.mem_cons_self).1).1
      exact List.dropWhile_cons_of_neg (by rw [plain]; decide)
  have whole : user ++ ':' :: (password ++ '@' :: rest) =
      (user ++ ':' :: (password ++ ['@'])) ++ rest := by simp
  have inside : ∀ c ∈ user ++ ':' :: (password ++ ['@']), (!endsAuthority c) = true := by
    intro c hc
    simp only [List.mem_append, List.mem_cons, List.not_mem_nil, or_false] at hc
    rcases hc with hc | rfl | hc | rfl
    · rw [(within c hc).1]
      rfl
    · decide
    · rw [fits c hc]
      rfl
    · decide
  rw [List.dropWhile_cons_of_pos (by decide), List.dropWhile_cons_of_pos (by decide), begins,
    afterSlashes_eq special, whole, List.takeWhile_append_of_pos inside,
    List.dropWhile_append_of_pos inside]
  have authority :
      (user ++ ':' :: (password ++ ['@'])) ++ rest.takeWhile (fun c => !endsAuthority c) =
        user ++ ':' :: (password ++ '@' :: rest.takeWhile fun c => !endsAuthority c) := by simp
  rw [authority, site_login special (fun c hc => (within c hc).2) last]
  cases hostAndPort (Text.lower e.scheme) (rest.takeWhile fun c => !endsAuthority c) <;> rfl

/-- What follows such an endpoint and a slash is such an endpoint, with the same user. -/
def below (e : Entrance) (after : List Char) : Entrance where
  scheme := e.scheme
  user := e.user
  rest := String.ofList (trimEnd (· == '/') e.rest.toList ++ '/' :: after)
  web := e.web
  within := e.within
  named := e.named
  last := by
    rw [String.toList_ofList, takeWhile_append_of_neg (p := fun c => !endsAuthority c) (by decide)]
    exact fun c hc => e.last c (takeWhile_trimEnd_subset _ hc)

/-- The endpoint in front of the password. -/
def front (e : Entrance) : List Char :=
  (e.scheme ++ "://" ++ e.user ++ ":").toList

theorem toList_text (e : Entrance) (password : String) :
    (e.text password).toList = e.front ++ (password.toList ++ '@' :: e.rest.toList) := by
  simp [text, front, String.toList_append]

/-- The slashes at the end of the endpoint are behind the password. -/
theorem trimEnd_text (e : Entrance) (password : String) :
    trimEnd (· == '/') (e.text password).toList =
      e.front ++ (password.toList ++ '@' :: trimEnd (· == '/') e.rest.toList) := by
  rw [toList_text, ← List.append_assoc, trimEnd_append_of_neg (p := (· == '/')) (by decide),
    List.append_assoc]

theorem text_below (e : Entrance) (password : String) (after : List Char) :
    String.ofList (trimEnd (· == '/') (e.text password).toList ++ '/' :: after) =
      (e.below after).text password := by
  apply String.toList_injective
  rw [String.toList_ofList, trimEnd_text, toList_text]
  simp [front, below]

end Entrance

end OneFs.Url
