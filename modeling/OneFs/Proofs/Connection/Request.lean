import OneFs.Proofs.Exchange.Course
import OneFs.Proofs.Url.Endpoint
import OneFs.Proofs.Url.Query

/-!
# Connections and what requests are made of

A connection has its settings from a valid configuration. A request that can be sent has the method,
the headers and the body of what is asked, and its URL without a user name. It goes to a web server.

- `Config.directory_eq`, `Connection.eq_of_ofConfig`: the connection for a configuration;
- `Http.prepare_spec`, `Connection.requestFor_spec`, `Connection.requestFor_of_url`: all that a
  request is made of;
- `Connection.url_of_requestFor`, `Connection.rawUrl_below`: its URL;
- `Connection.method_of_requestFor`, `Connection.body_of_requestFor`,
  `Connection.headers_of_requestFor`: its method, body and headers.
-/

namespace OneFs

open Url

/-- Whatever is configured, the volumes are below the root of the volumes. -/
theorem Config.directory_eq (config : Config) :
    ∃ below, config.directory = "/ifs/" ++ ("volumes" ++ below) := by
  have root : volumesRoot = "/ifs/" ++ "volumes" := by decide
  unfold Config.directory volumesDirectory
  rw [root]
  split
  · exact ⟨"", by rw [String.append_empty]⟩
  · split
    · exact ⟨config.volumesPath, String.append_assoc⟩
    · exact ⟨"/" ++ config.volumesPath, by rw [String.append_assoc, String.append_assoc]⟩

/-- The connection for a configuration, which is valid if there is one. -/
theorem Connection.eq_of_ofConfig {config : Config} {c : Connection}
    (configured : ofConfig config = .ok c) :
    config.validate = .ok () ∧
      c = {
        options := ⟨config.insecure, config.timeout⟩
        endpoint := String.ofList (Text.trimEnd (· == '/') config.endpoint.toList)
        username := config.username
        group := config.owningGroup
        authorization := Http.basicAuth config.username config.password
        volumesPath := config.directory
        version := config.version.getD .v1 } := by
  unfold ofConfig at configured
  cases valid : config.validate with
  | error f => rw [valid] at configured; cases configured
  | ok _ =>
    rw [valid] at configured
    cases configured
    exact ⟨rfl, rfl⟩

/-- All that a prepared request is made of. -/
theorem Http.prepare_spec {options : Options} {method auth : String} {url : Url}
    {headers : List (String × String)} {body : Option (List UInt8)} {r : Request}
    (prepared : prepare options method url auth headers body = .ok r) :
    ∃ given, headers? (("authorization", auth) :: headers) = some given ∧
      IsWeb (bareUrl url).scheme ∧ isSendable (bareUrl url) = true ∧
      r = ⟨method, bareUrl url, urlAuth url ++ given ++ contentType headers body, body.getD [],
        options⟩ := by
  unfold prepare at prepared
  cases given : headers? (("authorization", auth) :: headers) with
  | none => rw [given] at prepared; cases prepared
  | some hs =>
    rw [given] at prepared
    dsimp only at prepared
    -- Two refusals are left: a scheme without a connection, and a URL that cannot be sent.
    by_cases other : (bareUrl url).scheme ≠ "http" ∧ (bareUrl url).scheme ≠ "https"
    · rw [if_pos other] at prepared
      cases prepared
    · rw [if_neg other] at prepared
      have web : IsWeb (bareUrl url).scheme := by
        by_cases http : (bareUrl url).scheme = "http"
        · exact .inl http
        · exact .inr (Decidable.not_not.mp fun https => other ⟨http, https⟩)
      by_cases sendable : isSendable (bareUrl url) = true
      · rw [if_pos sendable] at prepared
        cases prepared
        exact ⟨hs, rfl, web, sendable, rfl⟩
      · rw [if_neg sendable] at prepared
        cases prepared

/-- What is given as a header is one, with its name in small letters. -/
theorem Http.eq_map_of_headers? {given : List (String × String)} {headers : List Header}
    (legal : headers? given = some headers) :
    headers = given.map fun h => ⟨Text.lower h.1, h.2⟩ := by
  induction given generalizing headers with
  | nil => cases legal; rfl
  | cons h rest ih =>
    obtain ⟨name, value⟩ := h
    unfold headers? header? at legal
    split at legal
    · cases others : headers? rest with
      | none => rw [others] at legal; cases legal
      | some hs =>
        rw [others] at legal
        cases legal
        rw [ih others]
        rfl
    · cases legal

namespace Connection

open Http Json

variable {c : Connection} {ask : Ask} {r : Request}

/-- The request for what is asked is prepared for the URL of what is asked. -/
theorem requestFor_spec (request : c.requestFor ask = .ok r) :
    ∃ url, c.url ask.path ask.id ask.params = .ok url ∧
      prepare c.options ask.method url c.authorization ask.headers
        ((ask.body.map Value.text).map Text.Utf8.bytes) = .ok r := by
  unfold requestFor at request
  cases url : c.url ask.path ask.id ask.params with
  | error f => rw [url] at request; cases request
  | ok u =>
    rw [url] at request
    dsimp only at request
    refine ⟨u, rfl, ?_⟩
    cases prepared : prepare c.options ask.method u c.authorization ask.headers
        ((ask.body.map Value.text).map Text.Utf8.bytes) with
    | error fault => rw [prepared] at request; cases request
    | ok r' =>
      rw [prepared] at request
      cases request
      rfl

/-- What is asked for is below the endpoint, whatever that is, and an id only adds to it. -/
theorem rawUrl_below (path : String) (id : Option String) :
    ∃ more, ∀ c : Connection, c.rawUrl path id =
      String.ofList (c.endpoint.toList ++ '/' :: (path.toList.dropWhile (· == '/') ++ more)) := by
  have base (c : Connection) :
      c.endpoint ++ "/" ++ String.ofList (path.toList.dropWhile (· == '/')) =
        String.ofList (c.endpoint.toList ++ '/' :: (path.toList.dropWhile (· == '/') ++ [])) := by
    apply String.toList_injective
    simp
  unfold rawUrl
  cases id with
  | none => exact ⟨[], base⟩
  | some id =>
    dsimp only
    split
    · exact ⟨[], base⟩
    · refine ⟨'/' :: id.toList, fun c => ?_⟩
      apply String.toList_injective
      simp

/-- The URL of a resource is read below the endpoint, and then has the parameters. -/
theorem url_spec {path : String} {id : Option String} {params : List (String × String)} {url : Url}
    (located : c.url path id params = .ok url) :
    ∃ u, Url.parse (c.rawUrl path id) = .ok u ∧ url = u.withPairs params := by
  unfold Connection.url at located
  cases parsed : Url.parse (c.rawUrl path id) with
  | error f => simp only [parsed] at located; cases located
  | ok u =>
    simp only [parsed] at located
    cases located
    exact ⟨u, rfl, rfl⟩

theorem url_of_parse {path : String} {id : Option String} {u : Url}
    (parsed : Url.parse (c.rawUrl path id) = .ok u) (params : List (String × String)) :
    c.url path id params = .ok (u.withPairs params) := by
  unfold Connection.url
  dsimp only
  rw [parsed]

/-- Without a URL there is no request. -/
theorem requestFor_of_error {f : Failure} (located : c.url ask.path ask.id ask.params = .error f) :
    c.requestFor ask = .error f := by
  unfold requestFor
  rw [located]

/-- What is asked without headers of its own becomes a request if its URL can be sent. -/
theorem requestFor_of_url {url : Url} {given : List Header}
    (legal : headers? [("authorization", c.authorization)] = some given) (bare : ask.headers = [])
    (located : c.url ask.path ask.id ask.params = .ok url) (web : IsWeb url.scheme) :
    c.requestFor ask =
      if isSendable (bareUrl url) then
        .ok ⟨ask.method, bareUrl url,
          urlAuth url ++ given ++ contentType [] ((ask.body.map Value.text).map Text.Utf8.bytes),
          ((ask.body.map Value.text).map Text.Utf8.bytes).getD [], c.options⟩
      else .error (.request (.illegalAddress (bareUrl url))) := by
  have spoken : ¬ ((bareUrl url).scheme ≠ "http" ∧ (bareUrl url).scheme ≠ "https") := by
    rw [scheme_bareUrl]
    rintro ⟨http, https⟩
    exact web.elim http https
  unfold requestFor prepare
  rw [located, bare, legal]
  dsimp only
  rw [if_neg spoken]
  cases isSendable (bareUrl url) <;> rfl

/-- A request that goes out has the URL of what is asked, but for a user name. -/
theorem url_of_requestFor (request : c.requestFor ask = .ok r) :
    ∃ u, Url.parse (c.rawUrl ask.path ask.id) = .ok u ∧ IsWeb u.scheme ∧
      r.url = bareUrl (u.withPairs ask.params) := by
  obtain ⟨url, located, prepared⟩ := requestFor_spec request
  obtain ⟨given, -, web, -, rfl⟩ := prepare_spec prepared
  obtain ⟨u, parsed, rfl⟩ := url_spec located
  rw [scheme_bareUrl, Url.scheme_withPairs] at web
  exact ⟨u, parsed, web, rfl⟩

/-- The request for what is asked has its method. -/
theorem method_of_requestFor (request : c.requestFor ask = .ok r) : r.method = ask.method := by
  obtain ⟨url, -, prepared⟩ := requestFor_spec request
  obtain ⟨given, -, -, -, rfl⟩ := prepare_spec prepared
  rfl

/-- The request for what is asked has its body. -/
theorem body_of_requestFor {value : Value} (request : c.requestFor ask = .ok r)
    (given : ask.body = some value) : r.body = Text.Utf8.bytes value.text := by
  obtain ⟨url, -, prepared⟩ := requestFor_spec request
  obtain ⟨headers, -, -, -, rfl⟩ := prepare_spec prepared
  rw [given]
  rfl

/-- If nothing is asked with a body, the request has an empty one. -/
theorem body_of_requestFor_none (request : c.requestFor ask = .ok r) (bare : ask.body = none) :
    r.body = [] := by
  obtain ⟨url, -, prepared⟩ := requestFor_spec request
  obtain ⟨headers, -, -, -, rfl⟩ := prepare_spec prepared
  rw [bare]
  rfl

/-- The request for what is asked has its headers, behind those that authorize it. -/
theorem headers_of_requestFor (request : c.requestFor ask = .ok r) :
    ∃ url given, headers? (("authorization", c.authorization) :: ask.headers) = some given ∧
      r.headers = urlAuth url ++ given ++ contentType ask.headers
        ((ask.body.map Value.text).map Text.Utf8.bytes) := by
  obtain ⟨url, -, prepared⟩ := requestFor_spec request
  obtain ⟨given, legal, -, -, rfl⟩ := prepare_spec prepared
  exact ⟨url, given, legal, rfl⟩

end Connection

end OneFs
