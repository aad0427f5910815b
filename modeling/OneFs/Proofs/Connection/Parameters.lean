import OneFs.Proofs.Call.Targets
import OneFs.Proofs.Connection.Address
import OneFs.Proofs.Connection.Site
import OneFs.Proofs.Exchange.Ends
import OneFs.Proofs.Url.Form
import OneFs.Proofs.Url.Login
import OneFs.Proofs.Volume.Address

/-!
# Parameters of requests

Whatever is given as parameters is in the query of the URL as it was given, and nothing else is
there, as long as no mark that ends a path is in the endpoint, the path or the id.

- `parse_markless`: a text without marks is a URL without a query or a fragment;
- `parse_goesOn`, `parse_onEndpoint`: endpoints that do not end in a blank, and what follows them;
- `Connection.Markless`, `Connection.Markless.url_params`: a URL with parameters, by the one without
  them;
- `Connection.deleteQuota_asks`, `Connection.Markless.request_deleteQuota`: removing the quota on a
  path, and the request for that;
- `params_arrive`: parameters that are read back from URLs and from this request.
-/

namespace OneFs

open Http Url Exchange

/-! ## Texts and the marks in them -/

namespace Url

theorem cleaned_sublist (cs : List Char) : (cleaned cs).Sublist cs :=
  List.filter_sublist.trans ((trimEnd_sublist _ _).trans (List.dropWhile_sublist _))

/-- A text without marks is a URL without a query or a fragment. -/
theorem parse_markless {s : String} {u : Url} (h : parse s = .ok u) (web : IsWeb u.scheme)
    (marks : ∀ c ∈ s.toList, endsPath c = false) : u.query = none ∧ u.fragment = none := by
  obtain ⟨rest, hs⟩ := scheme_parse h
  rw [parse_web web hs] at h
  obtain ⟨v, -, eq⟩ := eq_behind_of_afterSlashes web.special h
  -- All that is read behind the scheme is in the text.
  have inText : (rest.dropWhile (isSlash true)).Sublist s.toList := by
    obtain ⟨front, cut, -, -⟩ := scheme?_split hs
    have behind : rest.Sublist (cleaned s.toList) := by
      rw [cut]
      exact (List.sublist_cons_self _ _).trans (List.sublist_append_right _ _)
    exact (List.dropWhile_sublist _).trans (behind.trans (cleaned_sublist _))
  generalize rest.dropWhile (isSlash true) = cs at inText eq
  have none : (cs.dropWhile fun c => !endsAuthority c).dropWhile (fun c => !endsPath c) = [] := by
    refine List.dropWhile_eq_nil_iff.mpr fun c hc => ?_
    rw [marks c (inText.subset ((List.dropWhile_sublist _).subset hc))]
    rfl
  rw [eq, behind, none]
  exact ⟨rfl, rfl⟩

/-- If a text does not end in a blank, all that counts of it counts in front of a slash as well, and
nothing else of it does. -/
theorem cleaned_append_of_filled {x : Char} (filled : 0x20 < x.toNat) (cs after : List Char) :
    cleaned (cs ++ [x] ++ '/' :: after) = cleaned (cs ++ [x]) ++ '/' :: heard after := by
  have high : decide (x.toNat ≤ 0x20) = false := decide_eq_false (by omega)
  have cut := dropWhile_append_of_neg (p := fun c : Char => c.toNat ≤ 0x20) high cs
  have slash : heard ('/' :: after) = '/' :: heard after := heard_append (by decide) [] after
  change heard ((cs ++ [x] ++ '/' :: after).dropWhile _) = heard ((cs ++ [x]).dropWhile _) ++ _
  rw [List.append_assoc, List.singleton_append, cut, cut, heard_append filled,
    heard_append filled, slash, List.append_assoc]
  rfl

/-- A URL that does not end in a blank goes on behind a slash. -/
theorem parse_goesOn {endpoint : List Char} {u : Url}
    (h : parse (String.ofList endpoint) = .ok u) (web : IsWeb u.scheme)
    (filled : ∀ x, endpoint.getLast? = some x → 0x20 < x.toNat) (after : List Char) :
    ∃ v, parse (String.ofList (endpoint ++ '/' :: after)) = .ok v := by
  obtain ⟨rest, hs⟩ := scheme_parse h
  rw [parse_web web hs] at h
  rw [String.toList_ofList] at hs
  obtain ⟨s, known, -⟩ := eq_behind_of_afterSlashes web.special h
  have authority : rest.dropWhile (isSlash true) ≠ [] := by
    intro empty
    rw [empty] at h
    exact afterSlashes_nil web.special h
  have clean : cleaned (endpoint ++ '/' :: after) = cleaned endpoint ++ '/' :: heard after := by
    rcases List.eq_nil_or_concat' endpoint with rfl | ⟨cs, x, rfl⟩
    · cases hs
    · exact cleaned_append_of_filled (filled x List.getLast?_concat) cs after
  have onward := scheme?_append_right hs ('/' :: heard after)
  rw [← clean, ← String.toList_ofList (l := endpoint ++ '/' :: after)] at onward
  rw [parse_web web onward, List.dropWhile_append, if_neg (by simpa using authority),
    afterSlashes_append web.special, known]
  exact ⟨_, rfl⟩

/-- Whatever follows an endpoint without the slashes at its end, and a slash, is a URL, unless the
endpoint ends in a blank. -/
theorem parse_onEndpoint {endpoint : String} {u : Url} (parsed : parse endpoint = .ok u)
    (web : IsWeb u.scheme) (filled : ∀ x, endpoint.toList.getLast? = some x → 0x20 < x.toNat)
    (after : List Char) :
    ∃ v, parse (String.ofList (Text.trimEnd (· == '/') endpoint.toList ++ '/' :: after)) =
      .ok v := by
  obtain ⟨slashes, plain, eq⟩ := eq_trimEnd_append (· == '/') endpoint.toList
  generalize Text.trimEnd (· == '/') endpoint.toList = cs at eq ⊢
  rw [← String.ofList_toList (s := endpoint), eq] at parsed
  cases slashes with
  | nil =>
    rw [List.append_nil] at parsed eq
    exact parse_goesOn parsed web (eq ▸ filled) after
  | cons c slashes =>
    obtain rfl : c = '/' := beq_iff_eq.mp (plain c List.mem_cons_self)
    have slash : ∀ c ∈ slashes, isSlash true c = true := fun c hc => by
      rw [beq_iff_eq.mp (plain c (List.mem_cons_of_mem _ hc))]
      rfl
    obtain ⟨v, tail, -, all⟩ := parse_behind slash parsed web
    exact ⟨_, all after⟩

end Url

/-! ## URLs with parameters -/

theorem decode_queryOf (params : List (String × String)) :
    Form.decode ((queryOf params).getD "").toList = params := by
  unfold queryOf
  split
  · rename_i empty
    rw [List.isEmpty_iff.mp empty]
    rfl
  · rw [Option.getD_some, String.toList_ofList, Form.decode_encode]

namespace Connection

variable {σ : Type} {c : Connection} {path : String} {id : Option String}

/-- What is asked for is written with the characters of its path and its id. -/
theorem mem_rawUrl {x : Char} (h : x ∈ (c.rawUrl path id).toList) :
    x = '/' ∨ x ∈ c.endpoint.toList ∨ x ∈ path.toList ++ (id.getD "").toList := by
  have inPath : ∀ {x}, x ∈ path.toList.dropWhile (· == '/') → x ∈ path.toList :=
    fun hx => (List.dropWhile_sublist _).subset hx
  have base : x ∈ (c.endpoint ++ "/" ++ String.ofList (path.toList.dropWhile (· == '/'))).toList →
      x = '/' ∨ x ∈ c.endpoint.toList ∨ x ∈ path.toList := by
    intro hx
    simp only [String.toList_append, String.toList_ofList, List.mem_append] at hx
    rcases hx with (inEndpoint | slash) | inRest
    · exact .inr (.inl inEndpoint)
    · exact .inl (List.mem_singleton.mp slash)
    · exact .inr (.inr (inPath inRest))
  unfold rawUrl at h
  rw [List.mem_append]
  cases id with
  | none => exact (base h).imp_right (.imp_right .inl)
  | some id =>
    dsimp only at h
    split at h
    · exact (base h).imp_right (.imp_right .inl)
    · rw [String.toList_append, String.toList_append, List.mem_append, List.mem_append] at h
      rcases h with (inBase | slash) | inId
      · exact (base inBase).imp_right (.imp_right .inl)
      · exact .inl (List.mem_singleton.mp slash)
      · exact .inr (.inr (.inr inId))

/-- A connection to a web address in which no mark ends the path. -/
structure Markless (c : Connection) : Prop where
  web : ∀ {path : String} {id : Option String} {u : Url},
    Url.parse (c.rawUrl path id) = .ok u → IsWeb u.scheme
  marks : ∀ x ∈ c.endpoint.toList, endsPath x = false

/-- What is asked for is read behind the configured endpoint. -/
theorem rawUrl_ofConfig {config : Config} {api : Connection}
    (configured : ofConfig config = .ok api) (version : Version) (path : String)
    (id : Option String) :
    ∃ after, rawUrl { api with version } path id =
      String.ofList (Text.trimEnd (· == '/') config.endpoint.toList ++ '/' :: after) := by
  obtain ⟨more, raw⟩ := rawUrl_below path id
  have trimmed : api.endpoint.toList = Text.trimEnd (· == '/') config.endpoint.toList := by
    obtain ⟨-, rfl⟩ := eq_of_ofConfig configured
    exact String.toList_ofList
  exact ⟨_, trimmed ▸ raw { api with version }⟩

theorem markless_ofConfig {config : Config} {api : Connection}
    (configured : ofConfig config = .ok api) (version : Version) {u : Url}
    (endpoint : Url.parse config.endpoint = .ok u) (web : IsWeb u.scheme)
    (marks : ∀ x ∈ config.endpoint.toList, x ≠ '?' ∧ x ≠ '#') :
    Markless { api with version } where
  web := by
    intro path id v parsed
    obtain ⟨after, raw⟩ := rawUrl_ofConfig configured version path id
    rw [raw] at parsed
    have scheme : v.scheme = u.scheme := congrArg Origin.scheme (origin_below endpoint web parsed)
    exact scheme ▸ web
  marks := endpoint_marks (c := api) configured marks

theorem Markless.web_of_url (plain : c.Markless) {params : List (String × String)} {url : Url}
    (located : c.url path id params = .ok url) : IsWeb url.scheme := by
  obtain ⟨u, parsed, rfl⟩ := url_spec located
  rw [Url.scheme_withPairs]
  exact plain.web parsed

/-- The parameters of a URL without marks are in its query as they were given, and the rest of it is
as it is without them. -/
theorem Markless.url_params (plain : c.Markless)
    (marks : ∀ x ∈ path.toList ++ (id.getD "").toList, x ≠ '?' ∧ x ≠ '#')
    (params : List (String × String)) :
    ∃ query : Option String, Form.decode (query.getD "").toList = params ∧
      c.url path id params = (c.url path id []).map fun base => { base with query } := by
  have unmarked : ∀ x ∈ (c.rawUrl path id).toList, endsPath x = false := by
    intro x hx
    rcases mem_rawUrl hx with rfl | inEndpoint | inResource
    · rfl
    · exact plain.marks x inEndpoint
    · obtain ⟨question, number⟩ := marks x inResource
      simp [endsPath, question, number]
  refine ⟨queryOf params, decode_queryOf params, ?_⟩
  unfold Connection.url
  dsimp only
  cases parsed : Url.parse (c.rawUrl path id) with
  | error f => rfl
  | ok u =>
    have none := (parse_markless parsed (plain.web parsed) unmarked).1
    exact congrArg Except.ok (u.withPairs_eq params none)

/-! ## Removing the quota on a path -/

/-- Removing the quota on a path sends the request for that, if there is one, and fails without
it. -/
theorem deleteQuota_asks (c : Connection) {quota : String} (filled : quota ≠ "")
    (answer : σ → Request → Delivery × σ) (s : σ) :
    requests ((c.deleteQuota quota).run answer s).steps =
        (c.requestFor (c.version.askQuotaOff quota)).toOption.toList ∧
      ∀ f, c.requestFor (c.version.askQuotaOff quota) = .error f →
        (c.deleteQuota quota).Ends answer s (.error f) s := by
  have form : c.deleteQuota quota = c.execute (c.version.askQuotaOff quota) :=
    require_bind (by simpa using filled) _ _
  rw [form]
  exact ⟨execute_requests c _ answer s, fun f request => execute_unsent request⟩

/-- The request that removes the quota on a path goes to the URL of all quotas with the path as its
only parameter. There is none just if there is no such URL, or if it cannot be sent. -/
theorem Markless.request_deleteQuota (plain : c.Markless) {given : List Header}
    (legal : headers? [("authorization", c.authorization)] = some given) (quota : String) :
    (∀ f, c.url c.version.quotasPath none [("path", quota)] = .error f →
      c.requestFor (c.version.askQuotaOff quota) = .error f) ∧
    ∀ url, c.url c.version.quotasPath none [("path", quota)] = .ok url →
      (isSendable (bareUrl url) = true →
        ∃ base r, c.url c.version.quotasPath none [] = .ok base ∧
          c.requestFor (c.version.askQuotaOff quota) = .ok r ∧ r.url = bareUrl url ∧
          r.url.path = base.path ∧ Form.decode (r.url.query.getD "").toList = [("path", quota)]) ∧
      (isSendable (bareUrl url) = false →
        c.requestFor (c.version.askQuotaOff quota) =
          .error (.request (.illegalAddress (bareUrl url)))) := by
  have marks : ∀ x ∈ c.version.quotasPath.toList ++ ((none : Option String).getD "").toList,
      x ≠ '?' ∧ x ≠ '#' := by
    cases c.version <;> exact List.all_iff_forall_prop.mp (by decide)
  refine ⟨fun f none => requestFor_of_error none, fun url located => ?_⟩
  have asked : c.url (c.version.askQuotaOff quota).path (c.version.askQuotaOff quota).id
      (c.version.askQuotaOff quota).params = .ok url := located
  have request := requestFor_of_url legal rfl asked (plain.web_of_url located)
  constructor
  · intro sendable
    rw [if_pos sendable] at request
    obtain ⟨query, names, by_base⟩ := plain.url_params marks [("path", quota)]
    cases alone : c.url c.version.quotasPath none [] with
    | error f =>
      rw [alone, located] at by_base
      cases by_base
    | ok base =>
      rw [alone, located] at by_base
      obtain rfl : url = { base with query } := Except.ok.inj by_base
      refine ⟨base, _, rfl, request, rfl, path_bareUrl _, ?_⟩
      rw [query_bareUrl]
      exact names
  · intro long
    rw [if_neg (by rw [long]; exact Bool.false_ne_true)] at request
    exact request

end Connection

/-- Parameters arrive as they were given. Whatever is configured, in either version, with an
endpoint that is a web address without a question mark or a number sign: a URL with parameters, of a
path and an id without these marks, is the URL without parameters but for the query, which decodes
to the parameters in their order. There is one unless the endpoint ends in a blank.

So the request that removes the quota on a path has the path, and only this, as its parameter. It is
sent just if the URL of all quotas with this parameter is one that can be sent; otherwise the call
fails over that URL. -/
theorem params_arrive {config : Config} {api : Connection}
    (configured : Connection.ofConfig config = .ok api) (version : Version) {c : Connection}
    (speaks : c = { api with version }) {u : Url} (endpoint : Url.parse config.endpoint = .ok u)
    (web : IsWeb u.scheme) (marks : ∀ x ∈ config.endpoint.toList, x ≠ '?' ∧ x ≠ '#') :
    (∀ (path : String) (id : Option String),
      (∀ x ∈ path.toList ++ (id.getD "").toList, x ≠ '?' ∧ x ≠ '#') →
      ((∀ x, config.endpoint.toList.getLast? = some x → 0x20 < x.toNat) →
        ∃ base, c.url path id [] = .ok base) ∧
      ∀ params, ∃ query : Option String, Form.decode (query.getD "").toList = params ∧
        c.url path id params = (c.url path id []).map fun base => { base with query }) ∧
    ∀ quota, quota ≠ "" → ∀ {σ : Type} (answer : σ → Request → Delivery × σ) (s : σ),
      (∀ f, c.url c.version.quotasPath none [("path", quota)] = .error f →
        requests ((c.deleteQuota quota).run answer s).steps = [] ∧
          (c.deleteQuota quota).Ends answer s (.error f) s) ∧
      ∀ url, c.url c.version.quotasPath none [("path", quota)] = .ok url →
        (isSendable (bareUrl url) = true →
          ∃ base r, c.url c.version.quotasPath none [] = .ok base ∧
            requests ((c.deleteQuota quota).run answer s).steps = [r] ∧ r.method = "DELETE" ∧
            r.url = bareUrl url ∧ r.url.path = base.path ∧
            Form.decode (r.url.query.getD "").toList = [("path", quota)]) ∧
        (isSendable (bareUrl url) = false →
          requests ((c.deleteQuota quota).run answer s).steps = [] ∧
            (c.deleteQuota quota).Ends answer s
              (.error (.request (.illegalAddress (bareUrl url)))) s) := by
  subst speaks
  have plain := Connection.markless_ofConfig configured version endpoint web marks
  refine ⟨fun path id free => ⟨fun filled => ?_, plain.url_params free⟩, ?_⟩
  · obtain ⟨after, raw⟩ := Connection.rawUrl_ofConfig configured version path id
    obtain ⟨v, parsed⟩ := parse_onEndpoint endpoint web filled after
    rw [← raw] at parsed
    exact ⟨_, Connection.url_of_parse parsed []⟩
  · intro quota filled σ answer s
    obtain ⟨sent, unsent⟩ := Connection.deleteQuota_asks { api with version } filled answer s
    have legal := headers?_basicAuth config.username config.password
    have authorized : api.authorization = basicAuth config.username config.password := by
      obtain ⟨-, rfl⟩ := Connection.eq_of_ofConfig configured
      rfl
    rw [← authorized] at legal
    obtain ⟨nowhere, request⟩ := plain.request_deleteQuota legal quota
    have refused : ∀ f, Connection.requestFor { api with version }
        (version.askQuotaOff quota) = .error f →
        requests ((Connection.deleteQuota { api with version } quota).run answer s).steps = [] ∧
          (Connection.deleteQuota { api with version } quota).Ends answer s (.error f) s := by
      intro f none
      rw [none] at sent
      exact ⟨sent, unsent f none⟩
    refine ⟨fun f none => refused f (nowhere f none), fun url located => ⟨fun sendable => ?_,
      fun long => refused _ ((request url located).2 long)⟩⟩
    obtain ⟨base, r, alone, made, addressed, path, names⟩ := (request url located).1 sendable
    rw [made] at sent
    exact ⟨base, r, alone, sent, Connection.method_of_requestFor made, addressed, path, names⟩

/-- Texts with the marks of a query in them are read back from there, and removing the quota on a
path with such marks sends a request. -/
theorem params_arrive_locally :
    (∃ query : Option String,
      Form.decode (query.getD "").toList = [("a&b", "=+%"), ("", ""), ("ä #", "?")] ∧
        localConnection.url "namespace/ifs/volumes" (some "a")
            [("a&b", "=+%"), ("", ""), ("ä #", "?")] =
          (localConnection.url "namespace/ifs/volumes" (some "a") []).map
            fun base => { base with query }) ∧
      ∃ r, requests ((localConnection.deleteQuota "/ifs/volumes/a&b=c").run (replies .closed)
          []).steps = [r] ∧
        r.url.text =
          "http://[::1]:8080/platform/1/quota/quotas?path=%2Fifs%2Fvolumes%2Fa%26b%3Dc" ∧
        Form.decode (r.url.query.getD "").toList = [("path", "/ifs/volumes/a&b=c")] := by
  have configured :
      Connection.ofConfig (.new "http://[::1]:8080/" "admin" "secret") = .ok localConnection := rfl
  have unmarked : ∀ x ∈ "http://[::1]:8080/".toList, x ≠ '?' ∧ x ≠ '#' :=
    List.all_iff_forall_prop.mp (by decide)
  have free : ∀ x ∈ "namespace/ifs/volumes".toList ++ ((some "a").getD "").toList,
      x ≠ '?' ∧ x ≠ '#' :=
    List.all_iff_forall_prop.mp (by decide)
  let u : Url :=
    ⟨"http", "", none, some (.ipv6 [0, 0, 0, 0, 0, 0, 0, 1]), some 8080, .segments [""], none, none⟩
  have endpoint : Url.parse "http://[::1]:8080/" = .ok u := rfl
  obtain ⟨read, removal⟩ :=
    params_arrive configured .v1 (c := localConnection) rfl endpoint (.inl rfl) unmarked
  refine ⟨(read _ _ free).2 _, ?_⟩
  obtain ⟨url, located, sendable, text⟩ : ∃ url : Url,
      localConnection.url localConnection.version.quotasPath none
          [("path", "/ifs/volumes/a&b=c")] = .ok url ∧
        isSendable (bareUrl url) = true ∧ (bareUrl url).text =
          "http://[::1]:8080/platform/1/quota/quotas?path=%2Fifs%2Fvolumes%2Fa%26b%3Dc" :=
    ⟨_, rfl, rfl, rfl⟩
  obtain ⟨-, asked⟩ := removal "/ifs/volumes/a&b=c" (by decide) (replies .closed) []
  obtain ⟨base, r, -, one, -, addressed, -, names⟩ := (asked url located).1 sendable
  exact ⟨r, one, addressed ▸ text, names⟩

end OneFs
