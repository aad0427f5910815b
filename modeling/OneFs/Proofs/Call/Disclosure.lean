import OneFs.Proofs.Call.Authorization
import OneFs.Proofs.Text.Quoted

/-!
# Passwords in endpoints

A password in the endpoint shows in the texts into which a client is taken apart, and in the URL of
every request that is told. It shows in no other event.

- `Entrance.url_below`, `Connection.url_entrance`: the URLs below an endpoint with a password;
- `Entrance.agree`: the password decides nothing that is sent but authorizations;
- `Config.detail_entrance`, `Connection.detail_entrance`: it shows when these are taken apart;
- `Session.told`: all that is told in a session; `Session.alike_of_entrance`,
  `Session.told_withPassword`: what of it depends on the password;
- `endpoint_password_shows`: sessions with different passwords in the endpoint.
-/

namespace OneFs

open Json Url Http Exchange

variable {α σ : Type}

/-! ## Below an endpoint with a password -/

namespace Url.Entrance

variable {e : Entrance} {password : String} {u : Url}

/-- Everything is found below an endpoint that is a URL with a slash behind it. -/
theorem url_below (fits : IsPassword password) (located : parse (e.text password ++ "/") = .ok u)
    (after : List Char) : ∃ v, (e.below after).url = .ok v := by
  -- The host does not depend on what follows the slash.
  have host (after : List Char) :
      (heard (e.below after).rest.toList).takeWhile (fun c => !endsAuthority c) =
        (counted (Text.trimEnd (· == '/') e.rest.toList)).takeWhile fun c => !endsAuthority c := by
    unfold below
    rw [String.toList_ofList, heard_append (by decide),
      takeWhile_append_of_neg (p := fun c => !endsAuthority c) (by decide)]
  -- With the slash, the slashes at the end of the endpoint are just more of these.
  have more : ∃ slashes, e.text password ++ "/" = (e.below slashes).text password := by
    obtain ⟨slashes, plain, whole⟩ := eq_trimEnd_append (· == '/') (e.text password).toList
    have again : ∃ others, slashes ++ ['/'] = '/' :: others := by
      cases slashes with
      | nil => exact ⟨[], rfl⟩
      | cons c cs =>
        obtain rfl := beq_iff_eq.mp (plain c List.mem_cons_self)
        exact ⟨cs ++ ['/'], rfl⟩
    obtain ⟨others, eq⟩ := again
    refine ⟨others, ?_⟩
    rw [← text_below, ← eq, ← List.append_assoc, ← whole, ← String.toList_inj]
    simp
  obtain ⟨slashes, eq⟩ := more
  rw [eq, parse_text _ fits] at located
  unfold Entrance.url at located ⊢
  rw [host] at located ⊢
  have same : Text.lower (e.below slashes).scheme = Text.lower (e.below after).scheme := rfl
  rw [same] at located
  cases known : hostAndPort (Text.lower (e.below after).scheme)
      ((counted (Text.trimEnd (· == '/') e.rest.toList)).takeWhile fun c => !endsAuthority c) with
  | error f =>
    rw [known] at located
    cases located
  | ok found => exact ⟨_, rfl⟩

/-- The user in the endpoint is that of every such URL. -/
theorem login?_isSome (h : e.url = .ok u) (password : Option String) :
    ({ u with password } : Url).login?.isSome = true := by
  unfold Entrance.url at h
  cases known : hostAndPort (Text.lower e.scheme)
      ((heard e.rest.toList).takeWhile fun c => !endsAuthority c) with
  | error f =>
    rw [known] at h
    cases h
  | ok found =>
    rw [known] at h
    cases h
    obtain ⟨name, filled, decoded⟩ := e.named
    have chars : name.isEmpty = false := by simpa using filled
    unfold login? behind
    simp only [String.toList_ofList, decoded, chars, Bool.false_and]
    rfl

end Url.Entrance

/-- The parameters of a URL have nothing to do with its password. -/
theorem Url.withPairs_password (u : Url) (password : Option String)
    (params : List (String × String)) :
    ({ u with password } : Url).withPairs params = { u.withPairs params with password } := by
  unfold withPairs
  split
  · rfl
  · dsimp only
    split <;> rfl

/-- URLs that differ in the password are sent alike, if they name a user. -/
theorem Http.SentAlike.of_login {u : Url}
    (named : ∀ password : Option String, ({ u with password } : Url).login?.isSome = true)
    (p q : Option String) : SentAlike { u with password := p } { u with password := q } := by
  have login (password : Option String) :
      (urlAuth { u with password }).map Header.redacted = [⟨"authorization", ""⟩] := by
    rw [urlAuth_login]
    obtain ⟨login, eq⟩ := Option.isSome_iff_exists.mp (named password)
    rw [eq]
    rfl
  constructor
  · unfold bareUrl
    rw [if_pos (named p), if_pos (named q)]
    rfl
  · rw [login p, login q]

/-! ## Events -/

/-- An event with another password in the URL of the request that it tells, if it tells one. -/
def Event.withPassword (password : Option String) : Event → Event
  | .request method url => .request method { url with password }
  | e => e

@[simp] theorem Event.withPassword_withPassword (p q : Option String) (e : Event) :
    (e.withPassword q).withPassword p = e.withPassword p := by
  cases e <;> rfl

theorem Event.map_withPassword {password : Option String} {told : List Event}
    (same : ∀ e ∈ told, e.withPassword password = e) : told.map (withPassword password) = told :=
  (List.map_congr_left same).trans (List.map_id told)

theorem Event.password_eq {password : Option String} {method : String} {url : Url}
    (same : (Event.request method url).withPassword password = .request method url) :
    url.password = password :=
  (congrArg Url.password (Event.request.inj same).2).symm

/-! ## Connections -/

/-- How a cluster is reached through an endpoint with a password. -/
def Url.Entrance.access (e : Entrance) (options : Options) (authorization password : String) :
    Access :=
  ⟨options, String.ofList (Text.trimEnd (· == '/') (e.text password).toList), authorization⟩

/-- The URL of a resource below an endpoint with a password has that password, and nothing else in
it depends on it. -/
theorem Connection.url_entrance {e : Entrance} {q : String} {u : Url} (fits : IsPassword q)
    (located : Url.parse (e.text q ++ "/") = .ok u) (path : String) (id : Option String)
    (params : List (String × String)) :
    ∃ v : Url, (∀ password : Option String, { v with password }.login?.isSome = true) ∧
      ∀ (c : Connection) (options : Options) (authorization p : String), IsPassword p →
        (c.via (e.access options authorization p)).url path id params =
          .ok { v with password := written p } := by
  obtain ⟨more, raw⟩ := rawUrl_below path id
  obtain ⟨v, known⟩ := e.url_below fits located (path.toList.dropWhile (· == '/') ++ more)
  refine ⟨v.withPairs params, fun password => ?_, fun c options authorization p fits => ?_⟩
  · rw [← withPairs_password, login?_withPairs]
    exact Entrance.login?_isSome known password
  · have text : (c.via (e.access options authorization p)).rawUrl path id =
        (e.below (path.toList.dropWhile (· == '/') ++ more)).text p := by
      have endpoint : (c.via (e.access options authorization p)).endpoint =
        String.ofList (Text.trimEnd (· == '/') (e.text p).toList) := rfl
      rw [raw, ← Entrance.text_below, endpoint, String.toList_ofList]
    unfold Connection.url
    dsimp only
    rw [text, Entrance.parse_text _ fits, known]
    exact congrArg Except.ok (withPairs_password v (written p) params)

/-- Below an endpoint that is a URL, its password decides nothing of what is sent but values of
authorizations, and nothing of what is told but the password in the URLs of requests. -/
theorem Url.Entrance.agree {e : Entrance} {p q : String} {u : Url} (hp : IsPassword p)
    (hq : IsPassword q) (located : Url.parse (e.text q ++ "/") = .ok u) (options : Options)
    {authorization : String} (legal : IsLegal authorization) :
    (e.access options authorization p).Agree (Event.withPassword none)
      (e.access options authorization q) := by
  intro α c ask r
  obtain ⟨v, named, urls⟩ := Connection.url_entrance hq located ask.path ask.id ask.params
  have told : Event.withPassword none (.request ask.method { v with password := written p }) =
      Event.withPassword none (.request ask.method { v with password := written q }) := rfl
  have options_eq : (e.access options authorization p).options =
    (e.access options authorization q).options := rfl
  exact c.query_mapped options_eq legal legal (urls c options authorization p hp)
    (urls c options authorization q hq) told (.of_login named _ _) r

/-- The configuration with another endpoint. -/
def Config.withEndpoint (c : Config) (endpoint : String) : Config :=
  { c with endpoint }

/-- The connection for a configuration whose endpoint has a password is that for another password,
but for the endpoint. -/
theorem Connection.ofConfig_entrance (config : Config) (e : Entrance) (p q : String) :
    ofConfig (config.withEndpoint (e.text p)) =
      (ofConfig (config.withEndpoint (e.text q))).map fun c =>
        c.via (e.access c.options c.authorization p) := by
  have filled (password : String) : (e.text password).isEmpty = false := by
    rw [String.isEmpty_eq_false_iff, ne_eq, ← String.toList_inj, Entrance.toList_text]
    simp
  have valid : (config.withEndpoint (e.text p)).validate =
      (config.withEndpoint (e.text q)).validate := by
    simp only [Config.validate, Config.withEndpoint, filled]
  unfold ofConfig
  rw [valid]
  cases (config.withEndpoint (e.text q)).validate <;> rfl

/-- Such a connection is reached through that endpoint. -/
theorem Connection.via_access {config : Config} {e : Entrance} {password : String} {c : Connection}
    (configured : ofConfig (config.withEndpoint (e.text password)) = .ok c) :
    c.via (e.access c.options c.authorization password) = c := by
  obtain ⟨-, rfl⟩ := eq_of_ofConfig configured
  rfl

/-- The endpoint can be told from a configuration taken apart. -/
theorem Config.endpoint_of_detail {config : Config} {e e' : String}
    (same : (config.withEndpoint e).detail = (config.withEndpoint e').detail) : e = e' := by
  unfold detail at same
  have chars := congrArg String.toList same
  simp only [Config.withEndpoint, String.toList_append, List.append_assoc,
    List.append_cancel_left_eq] at chars
  exact Text.quoted_injective (String.toList_injective (List.append_cancel_right chars))

/-- And from a connection. -/
theorem Connection.endpoint_of_detail {c : Connection} {a b : Access}
    (same : (c.via a).detail = (c.via b).detail) : a.endpoint = b.endpoint := by
  unfold detail at same
  have chars := congrArg String.toList same
  simp only [Connection.via, String.toList_append, List.append_assoc,
    List.append_cancel_left_eq] at chars
  exact Text.quoted_injective (String.toList_injective (List.append_cancel_right chars))

/-- The texts into which configurations and connections are taken apart differ just if the passwords
in their endpoints do. -/
theorem Config.detail_entrance (config : Config) (e : Entrance) (p q : String) :
    (config.withEndpoint (e.text p)).detail = (config.withEndpoint (e.text q)).detail ↔ p = q := by
  refine ⟨fun same => ?_, congrArg fun p => (config.withEndpoint (e.text p)).detail⟩
  have chars := congrArg String.toList (endpoint_of_detail same)
  rw [Entrance.toList_text, Entrance.toList_text] at chars
  exact String.toList_injective (List.append_cancel_right (List.append_cancel_left chars))

theorem Connection.detail_entrance (c : Connection) (e : Entrance) (options : Options)
    (authorization p q : String) :
    (c.via (e.access options authorization p)).detail =
      (c.via (e.access options authorization q)).detail ↔ p = q := by
  refine ⟨fun same => ?_, congrArg fun p => (c.via (e.access options authorization p)).detail⟩
  have chars := String.ofList_injective (endpoint_of_detail same)
  rw [Entrance.trimEnd_text, Entrance.trimEnd_text] at chars
  exact String.toList_injective (List.append_cancel_right (List.append_cancel_left chars))

/-- The texts into which clients are taken apart differ just if those of their connections do. -/
theorem Client.detail_inj (c : Connection) (a b : Access) :
    Client.detail ⟨c.via a⟩ = Client.detail ⟨c.via b⟩ ↔ (c.via a).detail = (c.via b).detail := by
  unfold Client.detail
  simp only [← String.toList_inj, String.toList_append, List.append_cancel_left_eq,
    List.append_cancel_right_eq]

/-! ## Sessions -/

/-- Every event that was told in a session, in order. -/
def Session.told (s : Session σ) : List Event :=
  events s.opened.steps ++ s.performed.flatMap fun run => events run.steps

theorem Session.Does.forall_told {P : Step → Prop} {s : Session σ} (does : s.Does P) :
    ∀ e ∈ s.told, P (.noted e) := by
  intro e he
  rcases List.mem_append.mp he with he | he
  · exact does.opened _ (mem_events_iff.mp he)
  · obtain ⟨run, hrun, he⟩ := List.mem_flatMap.mp he
    exact does.performed run hrun _ (mem_events_iff.mp he)

variable {a b : Access} {f : Event → Event} {answer : σ → Request → Delivery × σ}

theorem Session.map_told (g : Request → Request) (s : Session σ) :
    s.told.map f = events (s.opened.steps.map (Step.mapped f g)) ++
      (s.performed.map (Run.mapped f g)).flatMap fun run => events run.steps := by
  unfold Session.told
  rw [List.map_append, events_mapped, List.map_flatMap, List.flatMap_map]
  simp only [Run.mapped, events_mapped]

/-- The same is left of what two clients tell in a session, and both are made or neither is. -/
theorem Session.told_ofPlan (c : Connection) (agree : a.Agree f b)
    (indifferent : Indifferent answer) {ask : Connection → Exchange Version}
    (made : MadeOfQueries c ask) {detail detail' : String} (actions : List Action) (s : σ)
    {R : String → String → Prop} (configs : R detail detail')
    (clients : ∀ version, R (Client.inVersion (c.via a) version).detail
      (Client.inVersion (c.via b) version).detail)
    (connections : ∀ version, R (Client.inVersion (c.via a) version).api.detail
      (Client.inVersion (c.via b) version).api.detail) :
    let one := ofPlan detail (Client.inVersion (c.via a) <$> ask (c.via a)) actions answer s
    let other := ofPlan detail' (Client.inVersion (c.via b) <$> ask (c.via b)) actions answer s
    List.Forall₂ R one.details other.details ∧ one.told.map f = other.told.map f := by
  have same := run_mapped_congr indifferent (made.mapped_eq agree) s
  simp only [map_told Request.redacted]
  unfold Session.ofPlan
  rw [run_map, run_map]
  generalize (ask (c.via a)).run answer s = opened at same
  generalize (ask (c.via b)).run answer s = opened' at same
  obtain ⟨result, steps, server⟩ := opened
  obtain ⟨result', steps', server'⟩ := opened'
  obtain ⟨rfl, told, rfl⟩ := Run.mk.inj same
  dsimp only at told ⊢
  cases result with
  | error failure => exact ⟨.cons configs .nil, by rw [told]; rfl⟩
  | ok version =>
    have performed := Client.mapped_perform { c with version } agree indifferent actions server
    refine ⟨.cons configs (.cons (clients version) (.cons (connections version) .nil)), ?_⟩
    rw [told]
    exact congrArg (events _ ++ List.flatMap (fun run => events run.steps) ·) performed

/-! ## The password in an endpoint -/

variable {e : Entrance} {p q : String} {u : Url}

/-- Clients whose endpoints differ in the password are taken apart into texts that do, and tell the
same but for the password in the URLs of requests. -/
theorem Session.alike_of_entrance (config : Config) (hp : IsPassword p) (hq : IsPassword q)
    (located : Url.parse (e.text q ++ "/") = .ok u) (opening : Opening) (actions : List Action)
    (indifferent : Indifferent answer) (s : σ) :
    let seen password := session opening (config.withEndpoint (e.text password)) actions answer s
    List.Forall₂ (fun one other => one = other ↔ p = q) (seen p).details (seen q).details ∧
      (seen p).told.map (Event.withPassword none) =
        (seen q).told.map (Event.withPassword none) := by
  have configs := config.detail_entrance e p q
  have connection := Connection.ofConfig_entrance config e p q
  have opens := opening.client_eq
  dsimp only
  unfold session
  rw [opens, opens, connection]
  generalize (config.withEndpoint (e.text p)).detail = detail at configs ⊢
  generalize (config.withEndpoint (e.text q)).detail = detail' at configs ⊢
  cases configured : Connection.ofConfig (config.withEndpoint (e.text q)) with
  | error f => exact ⟨.cons configs .nil, rfl⟩
  | ok c =>
    have connections (version : Version) :=
      Connection.detail_entrance { c with version } e c.options c.authorization p q
    have clients (version : Version) := (Client.detail_inj { c with version }
      (e.access c.options c.authorization p) (e.access c.options c.authorization q)).trans
        (connections version)
    have same := Session.told_ofPlan (R := fun one other => one = other ↔ p = q) c
      (e.agree hp hq located c.options (Connection.isLegal_ofConfig configured)) indifferent
      (opening.ask_madeOfQueries config.version c) actions s configs clients connections
    rw [Connection.via_access configured] at same
    exact same

/-- Every request that a client tells is told with the password in its endpoint. -/
theorem Session.told_withPassword (config : Config) (hp : IsPassword p) (hq : IsPassword q)
    (located : Url.parse (e.text q ++ "/") = .ok u) (opening : Opening) (calls : List ClientCall)
    (answer : σ → Request → Delivery × σ) (s : σ) :
    ∀ event ∈ (session opening (config.withEndpoint (e.text p))
        (calls.map fun call => .called (.ofClient call)) answer s).told,
      event.withPassword (written p) = event := by
  cases configured : Connection.ofConfig (config.withEndpoint (e.text p)) with
  | error f =>
    unfold session
    rw [opening.client_eq, configured]
    exact List.forall_mem_nil _
  | ok c =>
    intro event told
    have does := (session_does configured opening calls answer s).forall_told event told
    cases event with
    | request method url =>
      obtain ⟨ask, -, known⟩ := does
      obtain ⟨v, -, urls⟩ := Connection.url_entrance hq located ask.path ask.id ask.params
      have here := urls c c.options c.authorization p hp
      rw [Connection.via_access configured, known] at here
      cases here
      rfl
    | _ => rfl

/-- The password in an endpoint shows. Two configurations whose endpoints differ in the password of
the user that they name are made into clients in one way, and the same calls are made of the
clients, to servers that make nothing of authorizations. Then each of the texts into which the
configurations, the clients and their connections are taken apart is the same for both just if the
passwords are. Of what is told, the requests have the one password in their URLs where they have the
other, and nothing else depends on it. So the same is told just if no request is, or the passwords
are written alike in URLs. -/
theorem endpoint_password_shows (config : Config) (hp : IsPassword p) (hq : IsPassword q)
    (located : Url.parse (e.text q ++ "/") = .ok u) (opening : Opening) (calls : List ClientCall)
    (indifferent : Indifferent answer) (s : σ) :
    let seen password := session opening (config.withEndpoint (e.text password))
      (calls.map fun call => .called (.ofClient call)) answer s
    List.Forall₂ (fun one other => one = other ↔ p = q) (seen p).details (seen q).details ∧
      (seen p).told = (seen q).told.map (Event.withPassword (written p)) ∧
      ((seen p).told = (seen q).told ↔
        written p = written q ∨ ∀ method url, .request method url ∉ (seen q).told) := by
  intro seen
  have first : ∀ event ∈ (seen p).told, event.withPassword (written p) = event :=
    Session.told_withPassword config hp hq located opening calls answer s
  have second : ∀ event ∈ (seen q).told, event.withPassword (written q) = event :=
    Session.told_withPassword config hq hq located opening calls answer s
  obtain ⟨details, alike⟩ := Session.alike_of_entrance config hp hq located opening
    (calls.map fun call => .called (.ofClient call)) indifferent s
  have told : (seen p).told = (seen q).told.map (Event.withPassword (written p)) :=
    calc (seen p).told
      _ = (seen p).told.map (Event.withPassword (written p)) := (Event.map_withPassword first).symm
      _ = ((seen p).told.map (Event.withPassword none)).map (Event.withPassword (written p)) := by
        simp
      _ = ((seen q).told.map (Event.withPassword none)).map (Event.withPassword (written p)) := by
        rw [alike]
      _ = (seen q).told.map (Event.withPassword (written p)) := by simp
  refine ⟨details, told, fun same => ?_, fun either => ?_⟩
  · -- A request that is told has both passwords in its URL.
    rw [same] at first
    by_cases one : ∃ method url, .request method url ∈ (seen q).told
    · obtain ⟨method, url, mem⟩ := one
      exact .inl ((Event.password_eq (first _ mem)).symm.trans (Event.password_eq (second _ mem)))
    · exact .inr fun method url mem => one ⟨method, url, mem⟩
  · rw [told]
    rcases either with eq | silent
    · rw [eq, Event.map_withPassword second]
    · refine Event.map_withPassword fun event mem => ?_
      cases event with
      | request method url => exact absurd mem (silent method url)
      | _ => rfl

/-- With two passwords of `root` in its endpoint a client connects, creates a volume and publishes
it. It is taken apart into other texts, and the first line of its log shows the password. -/
theorem endpoint_password_shows_root :
    let e : Entrance := {
      scheme := "http"
      user := "root"
      rest := "[::1]:8080/"
      web := .inl rfl
      within := List.all_iff_forall_prop.mp (by decide)
      named := ⟨"root", by decide, by decide⟩
      last := List.all_iff_forall_prop.mp (by decide) }
    let seen password := session .connected
      ((Config.new "" "admin" "secret").withEndpoint (e.text password))
      ([.createVolume "data", .publish "data"].map fun call => .called (.ofClient call))
      (replies .closed) (fewReplies.take 3)
    e.text "toor" = "http://root:toor@[::1]:8080/" ∧ IsPassword "toor" ∧ IsPassword "hunter2" ∧
      List.Forall₂ (fun one other => one = other ↔ "toor" = "hunter2") (seen "toor").details
        (seen "hunter2").details ∧
      (seen "toor").details.length = 3 ∧
      (seen "toor").told = (seen "hunter2").told.map (Event.withPassword (some "toor")) ∧
      (seen "toor").told.head?.map Event.fields =
        some [("method", "GET"), ("url", "http://root:toor@[::1]:8080/platform/latest")] := by
  intro e seen
  have toor : IsPassword "toor" := List.all_iff_forall_prop.mp (by decide)
  have hunter2 : IsPassword "hunter2" := List.all_iff_forall_prop.mp (by decide)
  have located : Url.parse (e.text "hunter2" ++ "/") = .ok ⟨"http", "root", some "hunter2",
      some (.ipv6 [0, 0, 0, 0, 0, 0, 0, 1]), some 8080, .segments ["", ""], none, none⟩ := by
    decide +kernel
  obtain ⟨details, told, -⟩ := endpoint_password_shows (Config.new "" "admin" "secret") toor
    hunter2 located .connected [.createVolume "data", .publish "data"] (replies_indifferent .closed)
    (fewReplies.take 3)
  exact ⟨by decide, toor, hunter2, details, by decide +kernel, told, by decide +kernel⟩

end OneFs
