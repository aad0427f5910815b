import OneFs.Proofs.Call.Origin
import OneFs.Proofs.Call.Shape
import OneFs.Proofs.Url.Login

/-!
# Authorizations

Every request of a client is authorized as the configured user. A user name in the endpoint
authorizes it once more, and first.

- `Config.login?`: the user name and password in the endpoint;
- `session_does`: clients ask for nothing but their own;
- `Connection.authorizations_of_owned`: how a request for that is authorized;
- `requests_authorized`: all requests of a client, from its configuration on.
-/

namespace OneFs

open Json Url Http Exchange

variable {α σ : Type}

/-! ## What clients do -/

/-- To settle the version is to ask for it, if it is not configured. -/
theorem Opening.ask_does (opening : Opening) (version : Option Version) (c : Connection) :
    (opening.ask version c).Does (c.Does c.Owns) := by
  cases opening with
  | configured => exact .done _
  | connected =>
    cases version with
    | some v => exact .done _
    | none => exact c.detectVersion_wordless.does.bind fun _ => .noted trivial (.done _)

/-- A client that is asked for nothing but its calls does nothing but ask for what is its
connection's own. -/
theorem session_does {config : Config} {c : Connection}
    (configured : Connection.ofConfig config = .ok c) (opening : Opening)
    (calls : List ClientCall) (answer : σ → Request → Delivery × σ) (s : σ) :
    (session opening config (calls.map fun call => .called (.ofClient call)) answer s).Does
      (c.Does c.Owns) := by
  unfold session
  rw [opening.client_eq, configured]
  refine Session.ofPlan_does _ (opening.ask_does config.version c) ?_ config.detail answer s
  intro version action mem
  obtain ⟨call, -, rfl⟩ := List.mem_map.mp mem
  -- What is the connection's own, and where, does not depend on the version.
  have same : Connection.Owns { c with version } = c.Owns := by
    funext ask
    exact propext ⟨fun h => ⟨h.place, h.plain⟩, fun h => ⟨h.place, h.plain⟩⟩
  have does := call.does { c with version }
  rw [same] at does
  exact does

/-! ## How requests are authorized -/

/-- The user name and password in the endpoint. -/
def Config.login? (config : Config) : Option (String × Option String) :=
  match Url.parse config.endpoint with
  | .ok u => u.login?
  | .error _ => none

/-- The authorizations in a request, in order. -/
def Http.Request.authorizations (r : Request) : List String :=
  (r.headers.filter (·.name == "authorization")).map Header.value

theorem Http.urlAuth_login (u : Url) :
    urlAuth u = (u.login?.map fun login =>
      ⟨"authorization", basicAuth login.1 (login.2.getD "")⟩).toList := by
  unfold urlAuth
  cases u.login? with
  | none => rfl
  | some login => rfl

/-- What a connection owns is below its endpoint, and begins with a word. -/
theorem Connection.Owns.rawUrl_eq {config : Config} {c : Connection} {ask : Ask}
    (configured : ofConfig config = .ok c) (owned : c.Owns ask) :
    ∃ first word rest,
      (∀ x ∈ first :: word, (endsAuthority x = false ∧ 0x20 < x.toNat) ∧ x ≠ '@') ∧
      c.rawUrl ask.path ask.id = String.ofList (Text.trimEnd (· == '/') config.endpoint.toList ++
        '/' :: (first :: word ++ '/' :: rest)) := by
  obtain ⟨-, rfl⟩ := eq_of_ofConfig configured
  have place : ∃ first word rest,
      (∀ x ∈ first :: word, (endsAuthority x = false ∧ 0x20 < x.toNat) ∧ x ≠ '@') ∧
      ask.path.toList = first :: word ++ '/' :: rest := by
    rcases owned.place with eq | ⟨rest, eq⟩
    · obtain ⟨below, directory⟩ := config.directory_eq
      refine ⟨'n', "amespace".toList, ("ifs/volumes" ++ below).toList,
        List.all_iff_forall_prop.mp (by decide), ?_⟩
      rw [eq, Connection.namespacePath, directory]
      simp [OneFs.namespacePath, namespaceRoot]
    · refine ⟨'p', "latform".toList, rest.toList, List.all_iff_forall_prop.mp (by decide), ?_⟩
      rw [eq, String.toList_append]
      rfl
  obtain ⟨first, word, rest, plain, eq⟩ := place
  have relative : ¬ (first == '/') = true := fun slash => by
    obtain rfl := beq_iff_eq.mp slash
    exact absurd (plain '/' List.mem_cons_self).1.1 (by decide)
  obtain ⟨more, raw⟩ := Connection.rawUrl_below ask.path ask.id
  refine ⟨first, word, rest ++ more, plain, ?_⟩
  rw [raw, eq, List.cons_append, List.dropWhile_cons_of_neg (p := (· == '/')) relative]
  simp

/-- Whatever a connection owns has the user name and password of the endpoint in its URL. -/
theorem Connection.Owns.login?_eq {config : Config} {c : Connection} {ask : Ask} {u : Url}
    (configured : ofConfig config = .ok c) (owned : c.Owns ask) (web : IsWeb u.scheme)
    (parsed : Url.parse (c.rawUrl ask.path ask.id) = .ok u) : u.login? = config.login? := by
  obtain ⟨first, word, rest, plain, raw⟩ := owned.rawUrl_eq configured
  rw [raw] at parsed
  unfold Config.login?
  rcases site_below parsed web with ⟨s, here, there, alone, rfl⟩ | ⟨none, s, there, rfl, known⟩
  · rw [alone]
    rfl
  -- Such an endpoint has no authority, and the word has no `@` in it.
  · rw [authority_heard fun x hx => (plain x hx).1] at known
    rw [login?_behind, login?_site (fun x hx => (plain x hx).2) known]
    cases alone : Url.parse config.endpoint with
    | error f => rfl
    | ok u => exact absurd alone (none u)

/-- A request for something of the connection's own is authorized by the endpoint, if it names a
user, and then by the connection. -/
theorem Connection.authorizations_of_owned {config : Config} {c : Connection} {r : Request}
    (configured : ofConfig config = .ok c)
    (sent : ∃ ask, c.Owns ask ∧ c.requestFor ask = .ok r) :
    r.authorizations = (config.login?.map fun login =>
        basicAuth login.1 (login.2.getD "")).toList ++
      [basicAuth config.username config.password] := by
  obtain ⟨ask, owned, request⟩ := sent
  obtain ⟨url, located, prepared⟩ := requestFor_spec request
  obtain ⟨given, legal, web, -, rfl⟩ := prepare_spec prepared
  obtain ⟨u, parsed, rfl⟩ := url_spec located
  rw [scheme_bareUrl, scheme_withPairs] at web
  have login : (u.withPairs ask.params).login? = config.login? := by
    rw [login?_withPairs, owned.login?_eq configured web parsed]
  -- No other header is an authorization.
  have others : ((ask.headers.map fun h => (⟨Text.lower h.1, h.2⟩ : Header)).filter
      (·.name == "authorization")) = [] := by
    rw [List.filter_eq_nil_iff, List.forall_mem_map]
    exact fun h hh => by simpa using owned.plain h hh
  have content (body : Option (List UInt8)) :
      (contentType ask.headers body).filter (·.name == "authorization") = [] := by
    unfold contentType
    cases body with
    | none => rfl
    | some _ =>
      dsimp only
      split <;> rfl
  have own : (Text.lower "authorization" == "authorization") = true := by decide
  rw [← authorization_ofConfig configured]
  unfold Request.authorizations
  dsimp only
  rw [List.filter_append, List.filter_append, content, eq_map_of_headers? legal, urlAuth_login,
    login, List.map_cons,
    List.filter_cons_of_pos (p := fun h : Header => h.name == "authorization") own, others,
    List.append_nil]
  cases config.login? with
  | none => rfl
  | some login => rfl

/-- Every request is authorized as the configured user, but perhaps not as that user alone. Whatever
is configured, whether the cluster is asked for its version or not, whatever calls are made of the
client and whatever the replies are: the authorizations of a request are first that of the user in
the endpoint, if it names one, and then that of the configured user. So there is exactly one just if
the endpoint names no user. -/
theorem requests_authorized (opening : Opening) (config : Config) (calls : List ClientCall)
    (answer : σ → Request → Delivery × σ) (s : σ) :
    ∀ r ∈ (session opening config (calls.map fun call => .called (.ofClient call)) answer
        s).requests,
      r.authorizations = (config.login?.map fun login =>
          basicAuth login.1 (login.2.getD "")).toList ++
        [basicAuth config.username config.password] := by
  cases configured : Connection.ofConfig config with
  | error f =>
    unfold session
    rw [opening.client_eq, configured]
    exact List.forall_mem_nil _
  | ok c =>
    exact (session_does configured opening calls answer s).forall_requests fun r _ sent =>
      c.authorizations_of_owned configured sent

/-- A client whose endpoint names a user connects, creates a volume and publishes it. Each of its
four requests is authorized twice. -/
theorem requests_authorized_twice :
    let config := Config.new "http://root:toor@[::1]:8080/" "admin" "secret"
    let seen := session .connected config
      ([.createVolume "data", .publish "data"].map fun call => .called (.ofClient call))
      (replies .closed) (fewReplies.take 3)
    seen.requests.length = 4 ∧ ∀ r ∈ seen.requests,
      r.authorizations = ["Basic cm9vdDp0b29y", "Basic YWRtaW46c2VjcmV0"] := by
  intro config seen
  have login : config.login? = some ("root", some "toor") := by decide +kernel
  refine ⟨by decide +kernel, fun r hr => ?_⟩
  have both := requests_authorized .connected config _ (replies .closed) (fewReplies.take 3) r hr
  rw [login] at both
  exact both.trans (by decide +kernel)

end OneFs
