import OneFs.Proofs.Call.Origin

/-!
# Spellings of a configuration

A setting may be spelled in several ways: with slashes at the end of the endpoint, with or without
one in front of the path of the volumes, with an empty group or with none. What is made of a
configuration does not depend on how it is spelled.

- `SameEndpoint`, `SamePath`, `SameGroup`: spellings of one setting, each with the normal form that
  decides it (`sameEndpoint_iff`, `samePath_iff`, `sameGroup_iff`);
- `Config.SpelledAlike`: configurations that differ in their spelling alone;
- `Connection.ofConfig_eq_iff`: these are the configurations of one connection;
- `Session.behaviour`: everything that can be seen of a client;
- `spellings_behave_alike`: it is the same for all spellings.
-/

namespace OneFs

open Http Exchange

/-! ## Endpoints -/

/-- So many slashes. -/
def slashes (n : Nat) : String :=
  String.ofList (List.replicate n '/')

/-- Two endpoints are the same but for the slashes at their ends. An empty one is no endpoint,
whatever is written behind it. -/
def SameEndpoint (a b : String) : Prop :=
  (a = "" ↔ b = "") ∧ ∃ base m n, a = base ++ slashes m ∧ b = base ++ slashes n

/-- An endpoint without the slashes at its end. -/
def trimmedEndpoint (a : String) : String :=
  String.ofList (Text.trimEnd (· == '/') a.toList)

/-- What is all of the kind that is dropped adds nothing in front of the end. -/
theorem trimEnd_append_of_pos {p : Char → Bool} (xs : List Char) {ys : List Char}
    (all : ∀ c ∈ ys, p c = true) : Text.trimEnd p (xs ++ ys) = Text.trimEnd p xs := by
  have dropped : ∀ c ∈ ys.reverse, p c = true := fun c hc => all c (List.mem_reverse.mp hc)
  unfold Text.trimEnd
  rw [List.reverse_append, List.dropWhile_append_of_pos dropped]

theorem trimmedEndpoint_slashes (base : String) (n : Nat) :
    trimmedEndpoint (base ++ slashes n) = trimmedEndpoint base := by
  have all : ∀ c ∈ List.replicate n '/', (c == '/') = true := by
    intro c hc
    rw [List.eq_of_mem_replicate hc]
    rfl
  unfold trimmedEndpoint slashes
  rw [String.toList_append, String.toList_ofList, trimEnd_append_of_pos _ all]

/-- Every endpoint is its trimmed form with slashes behind it. -/
theorem eq_trimmedEndpoint_slashes (a : String) : ∃ n, a = trimmedEndpoint a ++ slashes n := by
  obtain ⟨tail, all, split⟩ := Url.eq_trimEnd_append (· == '/') a.toList
  have same : tail = List.replicate tail.length '/' :=
    List.eq_replicate_iff.mpr ⟨rfl, fun c hc => eq_of_beq (all c hc)⟩
  refine ⟨tail.length, String.toList_injective ?_⟩
  unfold trimmedEndpoint slashes
  rw [String.toList_append, String.toList_ofList, String.toList_ofList, ← same]
  exact split

theorem sameEndpoint_iff {a b : String} :
    SameEndpoint a b ↔ (a = "" ↔ b = "") ∧ trimmedEndpoint a = trimmedEndpoint b := by
  unfold SameEndpoint
  refine and_congr_right fun _ => ?_
  constructor
  · rintro ⟨base, m, n, rfl, rfl⟩
    rw [trimmedEndpoint_slashes, trimmedEndpoint_slashes]
  · intro same
    obtain ⟨m, left⟩ := eq_trimmedEndpoint_slashes a
    obtain ⟨n, right⟩ := eq_trimmedEndpoint_slashes b
    rw [← same] at right
    exact ⟨trimmedEndpoint a, m, n, left, right⟩

instance (a b : String) : Decidable (SameEndpoint a b) :=
  decidable_of_iff _ sameEndpoint_iff.symm

/-! ## Paths of the volumes -/

/-- A path is spelled with a slash in front that another spelling of it goes without. -/
def AddsSlash (a b : String) : Prop :=
  a ≠ "" ∧ a.toList.head? ≠ some '/' ∧ b = "/" ++ a

/-- Two paths are the same but for a slash in front. -/
def SamePath (a b : String) : Prop :=
  a = b ∨ AddsSlash a b ∨ AddsSlash b a

/-- A path as it stands behind the root of the volumes. -/
def belowRoot (path : String) : String :=
  if path.isEmpty then ""
  else if path.toList.head? == some '/' then path
  else "/" ++ path

theorem volumesDirectory_eq (path : String) :
    volumesDirectory path = volumesRoot ++ belowRoot path := by
  unfold volumesDirectory belowRoot
  split
  · exact String.append_empty.symm
  · split
    · rfl
    · exact String.append_assoc

/-- The three ways in which a path stands behind the root. -/
theorem belowRoot_cases (path : String) :
    (path = "" ∧ belowRoot path = "") ∨
      (path ≠ "" ∧ path.toList.head? = some '/' ∧ belowRoot path = path) ∨
      (path ≠ "" ∧ path.toList.head? ≠ some '/' ∧ belowRoot path = "/" ++ path) := by
  unfold belowRoot
  by_cases empty : path = ""
  · subst empty
    exact .inl ⟨rfl, rfl⟩
  · have filled : ¬ path.isEmpty = true := by simpa using empty
    rw [if_neg filled]
    by_cases slash : path.toList.head? = some '/'
    · exact .inr (.inl ⟨empty, slash, by rw [slash]; rfl⟩)
    · exact .inr (.inr ⟨empty, slash, if_neg (by simpa using slash)⟩)

/-- With a slash in front a path stands behind the root as it does without. -/
theorem belowRoot_addsSlash {a b : String} (adds : AddsSlash a b) : belowRoot a = belowRoot b := by
  obtain ⟨filled, relative, rfl⟩ := adds
  have first : ("/" ++ a).toList.head? = some '/' := by
    rw [String.toList_append]
    rfl
  have left : belowRoot a = "/" ++ a := by
    rcases belowRoot_cases a with ⟨empty, -⟩ | ⟨-, slash, -⟩ | ⟨-, -, below⟩
    · exact absurd empty filled
    · exact absurd slash relative
    · exact below
  have right : belowRoot ("/" ++ a) = "/" ++ a := by
    rcases belowRoot_cases ("/" ++ a) with ⟨empty, -⟩ | ⟨-, -, below⟩ | ⟨-, relative, -⟩
    · rw [empty] at first
      cases first
    · exact below
    · exact absurd first relative
  rw [left, right]

/-- Nothing stands behind the root just if there is no path. -/
theorem belowRoot_eq_empty_iff {path : String} : belowRoot path = "" ↔ path = "" := by
  rcases belowRoot_cases path with ⟨empty, below⟩ | ⟨-, -, below⟩ | ⟨filled, -, below⟩
  · rw [below, empty]
  · rw [below]
  · rw [below]
    refine ⟨fun none => ?_, fun empty => absurd empty filled⟩
    exact absurd (congrArg String.toList none) (by simp)

theorem samePath_iff {a b : String} :
    SamePath a b ↔ volumesDirectory a = volumesDirectory b := by
  rw [volumesDirectory_eq, volumesDirectory_eq, String.append_right_inj]
  constructor
  · rintro (rfl | adds | adds)
    · rfl
    · exact belowRoot_addsSlash adds
    · exact (belowRoot_addsSlash adds).symm
  · intro same
    have empty : a = "" ↔ b = "" := by
      rw [← belowRoot_eq_empty_iff, same, belowRoot_eq_empty_iff]
    -- Two paths in one form are equal, and in two forms one has the slash that the other lacks.
    rcases belowRoot_cases a with ⟨none, -⟩ | ⟨filled, slash, below⟩ | ⟨filled, relative, below⟩
    · exact .inl (none.trans (empty.mp none).symm)
    · rcases belowRoot_cases b with ⟨none, -⟩ | ⟨-, -, below'⟩ | ⟨filled', relative', below'⟩
      · exact absurd (empty.mpr none) filled
      · rw [below, below'] at same
        exact .inl same
      · rw [below, below'] at same
        exact .inr (.inr ⟨filled', relative', same⟩)
    · rcases belowRoot_cases b with ⟨none, -⟩ | ⟨-, -, below'⟩ | ⟨-, -, below'⟩
      · exact absurd (empty.mpr none) filled
      · rw [below, below'] at same
        exact .inr (.inl ⟨filled, relative, same.symm⟩)
      · rw [below, below', String.append_right_inj] at same
        exact .inl same

instance (a b : String) : Decidable (SamePath a b) :=
  decidable_of_iff _ samePath_iff.symm

/-! ## Groups -/

/-- Two groups are the same, where an empty one is none. -/
def SameGroup (a b : Option String) : Prop :=
  a = b ∨ (a = none ∧ b = some "") ∨ (a = some "" ∧ b = none)

/-- What is kept of a group: nothing of an empty one. -/
theorem kept_cases (a : Option String) :
    ((a = none ∨ a = some "") ∧ (a.filter fun g => !g.isEmpty) = none) ∨
      ∃ g, g ≠ "" ∧ a = some g ∧ (a.filter fun g => !g.isEmpty) = some g := by
  cases a with
  | none => exact .inl ⟨.inl rfl, rfl⟩
  | some g =>
    by_cases empty : g = ""
    · subst empty
      exact .inl ⟨.inr rfl, rfl⟩
    · exact .inr ⟨g, empty, rfl, by simp [Option.filter, empty]⟩

theorem sameGroup_iff {a b : Option String} :
    SameGroup a b ↔ (a.filter fun g => !g.isEmpty) = b.filter fun g => !g.isEmpty := by
  constructor
  · rintro (rfl | ⟨rfl, rfl⟩ | ⟨rfl, rfl⟩)
    · rfl
    · rfl
    · rfl
  · intro same
    rcases kept_cases a with ⟨lacks, kept⟩ | ⟨g, -, rfl, kept⟩
    · rcases kept_cases b with ⟨lacks', -⟩ | ⟨h, -, rfl, kept'⟩
      · rcases lacks with rfl | rfl
        · rcases lacks' with rfl | rfl
          · exact .inl rfl
          · exact .inr (.inl ⟨rfl, rfl⟩)
        · rcases lacks' with rfl | rfl
          · exact .inr (.inr ⟨rfl, rfl⟩)
          · exact .inl rfl
      · rw [kept, kept'] at same
        cases same
    · rcases kept_cases b with ⟨-, kept'⟩ | ⟨h, -, rfl, kept'⟩
      · rw [kept, kept'] at same
        cases same
      · rw [kept, kept'] at same
        exact .inl same

instance (a b : Option String) : Decidable (SameGroup a b) :=
  decidable_of_iff _ sameGroup_iff.symm

/-! ## Configurations -/

namespace Config

/-- Two configurations are the same but for their spelling. -/
structure SpelledAlike (c d : Config) : Prop where
  endpoint : SameEndpoint c.endpoint d.endpoint
  username : c.username = d.username
  password : c.password = d.password
  group : SameGroup c.group d.group
  volumesPath : SamePath c.volumesPath d.volumesPath
  insecure : c.insecure = d.insecure
  timeout : c.timeout = d.timeout
  version : c.version = d.version

variable {c d : Config}

/-- A valid configuration has an endpoint. -/
theorem endpoint_ne_empty (valid : c.validate = .ok ()) : c.endpoint ≠ "" := by
  intro empty
  unfold validate at valid
  rw [empty] at valid
  cases valid

/-- A configuration lacks what another spelling of it lacks. -/
theorem SpelledAlike.validate_eq (alike : c.SpelledAlike d) : c.validate = d.validate := by
  have endpoint : c.endpoint.isEmpty = d.endpoint.isEmpty := by
    rw [Bool.eq_iff_iff, String.isEmpty_iff, String.isEmpty_iff]
    exact alike.endpoint.1
  unfold validate
  rw [endpoint, alike.username, alike.password]

end Config

namespace Connection

variable {c d : Config}

/-- There is a connection for every valid configuration. -/
theorem exists_ofConfig (valid : c.validate = .ok ()) : ∃ x, ofConfig c = .ok x := by
  unfold ofConfig
  rw [valid]
  exact ⟨_, rfl⟩

/-- All spellings of a configuration give one connection. -/
theorem ofConfig_eq (alike : c.SpelledAlike d) : ofConfig c = ofConfig d := by
  have endpoint := (sameEndpoint_iff.mp alike.endpoint).2
  have directory : c.directory = d.directory := samePath_iff.mp alike.volumesPath
  have group : c.owningGroup = d.owningGroup := sameGroup_iff.mp alike.group
  unfold trimmedEndpoint at endpoint
  unfold ofConfig
  rw [alike.validate_eq, endpoint, directory, group, alike.username, alike.password,
    alike.insecure, alike.timeout, alike.version]

/-- Of valid configurations with one password, those that give the same connection, and leave the
same version open, are the spellings of one configuration. -/
theorem ofConfig_eq_iff (valid : c.validate = .ok ()) (valid' : d.validate = .ok ())
    (password : c.password = d.password) :
    ofConfig c = ofConfig d ∧ c.version = d.version ↔ c.SpelledAlike d := by
  constructor
  · rintro ⟨same, version⟩
    obtain ⟨x, made⟩ := exists_ofConfig valid
    have fields := (eq_of_ofConfig made).2
    have made' : ofConfig d = .ok x := same ▸ made
    rw [(eq_of_ofConfig made').2] at fields
    injection fields with options endpoint username group authorization directory _
    injection options with insecure timeout
    have filled : c.endpoint ≠ "" := Config.endpoint_ne_empty valid
    have filled' : d.endpoint ≠ "" := Config.endpoint_ne_empty valid'
    exact {
      endpoint := sameEndpoint_iff.mpr
        ⟨⟨fun empty => absurd empty filled, fun empty => absurd empty filled'⟩, endpoint.symm⟩
      username := username.symm
      password
      group := sameGroup_iff.mpr group.symm
      volumesPath := samePath_iff.mpr directory.symm
      insecure := insecure.symm
      timeout := timeout.symm
      version }
  · intro alike
    exact ⟨ofConfig_eq alike, alike.version⟩

end Connection

/-! ## Sessions -/

/-- Everything that can be seen of a client, but not the configuration it was made of. -/
def Session.behaviour {σ : Type} (s : Session σ) : Session σ :=
  { s with details := s.details.tail }

/-- What is seen of a client does not depend on what was seen of its configuration. -/
theorem Session.behaviour_ofPlan {σ : Type} (detail detail' : String) (plan : Exchange Client)
    (actions : List Action) (answer : σ → Request → Delivery × σ) (s : σ) :
    (Session.ofPlan detail plan actions answer s).behaviour =
      (Session.ofPlan detail' plan actions answer s).behaviour := rfl

variable {σ : Type} {c d : Config}

/-- Every way to make a client takes all spellings for one configuration. -/
theorem Opening.client_congr (opening : Opening) (alike : c.SpelledAlike d) :
    opening.client c = opening.client d := by
  rw [opening.client_eq, opening.client_eq, Connection.ofConfig_eq alike, alike.version]

theorem Connection.connect_congr (alike : c.SpelledAlike d) : connect c = connect d := by
  rw [connect_eq, connect_eq, ofConfig_eq alike, alike.version]

/-- A client of an environment is the client of the configuration in it. -/
theorem Client.ofEnvironment_eq {env : String → Option String}
    (loads : Config.ofEnvironment env = .ok c) :
    ofEnvironment env = Opening.client .connected c := by
  unfold ofEnvironment
  rw [loads]
  rfl

/-- Spellings of one configuration behave alike. They give one connection, whether the cluster is
asked for its version or not. However a client is made of them, from a configuration or from the
environment, whatever calls are made, or queries with any path, id, parameters and headers, and
whatever the replies are: all that is seen of the client is the same, its details, its requests, its
results and its log. -/
theorem spellings_behave_alike (alike : c.SpelledAlike d) :
    Connection.ofConfig c = Connection.ofConfig d ∧ Connection.connect c = Connection.connect d ∧
      (∀ opening actions (answer : σ → Request → Delivery × σ) s,
        (session opening c actions answer s).behaviour =
          (session opening d actions answer s).behaviour) ∧
      ∀ env env', Config.ofEnvironment env = .ok c → Config.ofEnvironment env' = .ok d →
        ∀ actions (answer : σ → Request → Delivery × σ) s,
          (Session.ofPlan "" (Client.ofEnvironment env) actions answer s).behaviour =
            (Session.ofPlan "" (Client.ofEnvironment env') actions answer s).behaviour := by
  refine ⟨Connection.ofConfig_eq alike, Connection.connect_congr alike, ?_, ?_⟩
  · intro opening actions answer s
    unfold session
    rw [opening.client_congr alike]
    exact Session.behaviour_ofPlan _ _ _ actions answer s
  · intro env env' loads loads' actions answer s
    rw [Client.ofEnvironment_eq loads, Client.ofEnvironment_eq loads',
      Opening.client_congr .connected alike]

/-- With two spellings of one configuration a client connects, creates a volume and is refused the
list of volumes. It sends the same four requests each time. -/
theorem spellings_behave_alike_local :
    let c := (Config.new "http://[::1]:8080" "admin" "secret").withVolumesPath "k8s"
    let d := ((Config.new "http://[::1]:8080//" "admin" "secret").withGroup "").withVolumesPath
      "/k8s"
    let seen := fun config => session .connected config
      [.called (.ofClient (.createVolume "data")), .called (.ofClient .volumes)]
      (replies .closed) fewReplies
    c.SpelledAlike d ∧ c.endpoint ≠ d.endpoint ∧ c.group ≠ d.group ∧
      c.volumesPath ≠ d.volumesPath ∧ (seen c).behaviour = (seen d).behaviour ∧
      (seen c).requests.length = 4 := by
  intro c d seen
  have alike : c.SpelledAlike d :=
    ⟨by decide, rfl, rfl, by decide, by decide, rfl, rfl, rfl⟩
  refine ⟨alike, by decide, by decide, by decide, ?_, by decide +kernel⟩
  exact (spellings_behave_alike alike).2.2.1 .connected _ (replies .closed) fewReplies

end OneFs
