import OneFs.Client
import OneFs.Proofs.Json.Text
import OneFs.Proofs.Text.Numeral

/-!
# Where a configuration comes from

A configuration is put together by calls, loaded from an environment, or read from a JSON text. The
same settings give the same client, wherever they come from.

- `Settings`: what is given and what is left out;
- `Settings.InEnvironment`, `Settings.InObject`, `Settings.given`: settings in each of the sources;
- `Config.ofEnvironment_eq_ok`, `Config.reads_inObject`, `Config.built_given`: what a source makes
  of them;
- `Config.ofEnvironment_error_iff`: the environments that are refused;
- `Config.sources_agree`: the sources agree.
-/

namespace OneFs

open Json

/-- Settings of a client, of which five may be left out. The timeout is in seconds. -/
structure Settings where
  endpoint : String
  username : String
  password : String
  group : Option String := none
  volumesPath : Option String := none
  insecure : Option Bool := none
  timeout : Option UInt64 := none
  version : Option Version := none

/-- The configuration that holds the settings. -/
def Settings.config (s : Settings) : Config where
  endpoint := s.endpoint
  username := s.username
  password := s.password
  group := s.group
  volumesPath := s.volumesPath.getD ""
  insecure := s.insecure.getD false
  timeout := (s.timeout.map fun seconds => seconds.toNat * 1000).getD usualTimeout
  version := s.version

/-! ## Calls -/

/-- A call that changes one setting. -/
inductive Setter where
  | group (group : String)
  | volumesPath (path : String)
  | insecure (insecure : Bool)
  | timeout (seconds : UInt64)
  | version (v : Version)

/-- What a call makes of a configuration. -/
def Setter.apply (c : Config) : Setter → Config
  | .group g => c.withGroup g
  | .volumesPath path => c.withVolumesPath path
  | .insecure b => c.withInsecure b
  | .timeout seconds => c.withTimeout (seconds.toNat * 1000)
  | .version v => c.withVersion v

/-- The configuration that calls put together. -/
def Config.built (endpoint username password : String) (calls : List Setter) : Config :=
  calls.foldl Setter.apply (.new endpoint username password)

namespace Settings

/-- The settings with one of them given, perhaps again. -/
def set (s : Settings) : Setter → Settings
  | .group g => { s with group := some g }
  | .volumesPath path => { s with volumesPath := some path }
  | .insecure b => { s with insecure := some b }
  | .timeout seconds => { s with timeout := some seconds }
  | .version v => { s with version := some v }

/-- What calls give; of two that give the same setting, the later counts. -/
def given (endpoint username password : String) (calls : List Setter) : Settings :=
  calls.foldl set { endpoint, username, password }

theorem config_set (s : Settings) (call : Setter) : (s.set call).config = call.apply s.config := by
  cases call <;> rfl

theorem config_foldl (calls : List Setter) (s : Settings) :
    (calls.foldl set s).config = calls.foldl Setter.apply s.config := by
  induction calls generalizing s with
  | nil => rfl
  | cons call rest ih => rw [List.foldl_cons, ih, config_set, List.foldl_cons]

/-- The calls that give what the settings give. -/
def calls (s : Settings) : List Setter :=
  (s.group.map Setter.group).toList ++ (s.volumesPath.map Setter.volumesPath).toList ++
    (s.insecure.map Setter.insecure).toList ++ (s.timeout.map Setter.timeout).toList ++
    (s.version.map Setter.version).toList

theorem given_calls (s : Settings) : given s.endpoint s.username s.password s.calls = s := by
  obtain ⟨endpoint, username, password, group, path, insecure, timeout, version⟩ := s
  cases group <;> cases path <;> cases insecure <;> cases timeout <;> cases version <;> rfl

end Settings

/-- Calls put together the configuration of what they give. -/
theorem Config.built_eq (endpoint username password : String) (calls : List Setter) :
    built endpoint username password calls =
      (Settings.given endpoint username password calls).config :=
  (Settings.config_foldl calls { endpoint, username, password }).symm

/-! ## The environment -/

/-- A variable of an environment, which counts as empty if it is unset. -/
def settingIn (env : String → Option String) (name : String) : String :=
  (env name).getD ""

/-- A text spells a number of seconds that fits 64 bits. -/
def SpellsSeconds (text : String) (seconds : UInt64) : Prop :=
  Text.IsNumeral text seconds.toNat

/-- A text spells a version. -/
def SpellsVersion (text : String) (v : Version) : Prop :=
  Version.parse text = .ok v

/-- A text spells what is given; it is empty if nothing is. -/
def Spelled {α : Type} (spells : String → α → Prop) (text : String) : Option α → Prop
  | some a => spells text a
  | none => text = ""

/-- The variables give the settings. -/
structure Settings.InEnvironment (s : Settings) (env : String → Option String) : Prop where
  endpoint : settingIn env "ISILON_ENDPOINT" = s.endpoint
  username : settingIn env "ISILON_USERNAME" = s.username
  password : settingIn env "ISILON_PASSWORD" = s.password
  group : settingIn env "ISILON_GROUP" = s.group.getD ""
  volumesPath : settingIn env "ISILON_VOLUMEPATH" = s.volumesPath.getD ""
  insecure : isSet (settingIn env "ISILON_INSECURE") = s.insecure.getD false
  timeout : Spelled SpellsSeconds (settingIn env "ISILON_TIMEOUT") s.timeout
  version : Spelled SpellsVersion (settingIn env "ISILON_API_VERSION") s.version

theorem SpellsSeconds.ne_empty {text : String} {seconds : UInt64}
    (h : SpellsSeconds text seconds) : text ≠ "" := by
  rintro rfl
  obtain ⟨digits, listed | listed, filled, -, -⟩ := h
  · exact filled listed.symm
  · cases listed

theorem SpellsVersion.ne_empty {text : String} {v : Version} (h : SpellsVersion text v) :
    text ≠ "" := by
  rintro rfl
  have unread : Version.ofText? "" = none := by decide
  unfold SpellsVersion Version.parse at h
  rw [unread] at h
  cases h

theorem word64?_eq_some_iff {text : String} {seconds : UInt64} :
    Text.word64? text = some seconds.toNat ↔ SpellsSeconds text seconds :=
  Text.unsigned?_eq_some_iff.trans (and_iff_left seconds.toNat_lt)

namespace Config

theorem timeoutOf_spelled {text : String} {timeout : Option UInt64}
    (h : Spelled SpellsSeconds text timeout) :
    timeoutOf text = .ok (timeout.map UInt64.toNat) := by
  unfold timeoutOf
  cases timeout with
  | none =>
    rw [show text = "" from h]
    rfl
  | some seconds =>
    rw [if_neg (mt String.isEmpty_iff.mp h.ne_empty), word64?_eq_some_iff.mpr h]
    rfl

theorem versionOf_spelled {text : String} {version : Option Version}
    (h : Spelled SpellsVersion text version) : versionOf text = .ok version := by
  unfold versionOf
  cases version with
  | none =>
    rw [show text = "" from h]
    rfl
  | some v =>
    rw [if_neg (mt String.isEmpty_iff.mp h.ne_empty), show Version.parse text = .ok v from h]
    rfl

theorem spelled_of_timeoutOf {text : String} {timeout : Option Nat}
    (h : timeoutOf text = .ok timeout) : ∃ seconds, Spelled SpellsSeconds text seconds := by
  unfold timeoutOf at h
  split at h
  · exact ⟨none, String.isEmpty_iff.mp ‹_›⟩
  · split at h
    · rename_i n read
      have small : n < UInt64.size := (Text.unsigned?_eq_some_iff.mp read).2
      refine ⟨some (UInt64.ofNat n), word64?_eq_some_iff.mp ?_⟩
      rw [read, UInt64.toNat_ofNat_of_lt' small]
    · cases h

theorem spelled_of_versionOf {text : String} {version : Option Version}
    (h : versionOf text = .ok version) : Spelled SpellsVersion text version := by
  unfold versionOf at h
  split at h
  · cases h
    exact String.isEmpty_iff.mp ‹_›
  · cases read : Version.parse text with
    | ok v =>
      rw [read] at h
      cases h
      exact read
    | error why =>
      rw [read] at h
      cases h

/-- The configuration of an environment, with the timeout and the version that it spells. -/
def loaded (env : String → Option String) (timeout : Option Nat) (version : Option Version) :
    Config where
  endpoint := settingIn env "ISILON_ENDPOINT"
  username := settingIn env "ISILON_USERNAME"
  password := settingIn env "ISILON_PASSWORD"
  group :=
    if (settingIn env "ISILON_GROUP").isEmpty then none else some (settingIn env "ISILON_GROUP")
  volumesPath := settingIn env "ISILON_VOLUMEPATH"
  insecure := isSet (settingIn env "ISILON_INSECURE")
  timeout := (timeout.map (· * 1000)).getD usualTimeout
  version := version

/-- An environment is refused for its timeout or its version, or not at all. -/
theorem ofEnvironment_eq (env : String → Option String) :
    ofEnvironment env =
      (timeoutOf (settingIn env "ISILON_TIMEOUT")).bind fun timeout =>
        (versionOf (settingIn env "ISILON_API_VERSION")).map (loaded env timeout) := by
  dsimp only [ofEnvironment, settingIn]
  cases timeoutOf ((env "ISILON_TIMEOUT").getD "") with
  | error why => rfl
  | ok timeout =>
    cases versionOf ((env "ISILON_API_VERSION").getD "") with
    | error why => rfl
    | ok version => rfl

/-- An environment gives the settings that are in it, with an empty group left out. -/
theorem ofEnvironment_eq_ok {s : Settings} {env : String → Option String}
    (h : s.InEnvironment env) :
    ofEnvironment env = .ok { s.config with group := s.config.owningGroup } := by
  have group : (if (s.group.getD "").isEmpty then none else some (s.group.getD "")) =
      s.config.owningGroup := by
    show _ = s.group.filter fun g => !g.isEmpty
    cases s.group with
    | none => rfl
    | some g => cases empty : g.isEmpty <;> simp [empty, Option.filter]
  have timeout : ((s.timeout.map UInt64.toNat).map (· * 1000)).getD usualTimeout =
      s.config.timeout := by
    rw [Option.map_map]
    rfl
  have loads : loaded env (s.timeout.map UInt64.toNat) s.version =
      { s.config with group := s.config.owningGroup } := by
    unfold loaded
    rw [h.endpoint, h.username, h.password, h.group, h.volumesPath, h.insecure, group, timeout]
    rfl
  rw [ofEnvironment_eq, timeoutOf_spelled h.timeout, versionOf_spelled h.version, ← loads]
  rfl

/-- The environments that are refused: those with a timeout that is there but is no number of
seconds, and those with a version that is there but is none. -/
theorem ofEnvironment_error_iff (env : String → Option String) :
    (∀ c, ofEnvironment env ≠ .ok c) ↔
      (settingIn env "ISILON_TIMEOUT" ≠ "" ∧
        ∀ seconds, ¬ SpellsSeconds (settingIn env "ISILON_TIMEOUT") seconds) ∨
      (settingIn env "ISILON_API_VERSION" ≠ "" ∧
        ∀ v, ¬ SpellsVersion (settingIn env "ISILON_API_VERSION") v) := by
  have refused {α : Type} {spells : String → α → Prop} {text : String} :
      (∀ given, ¬ Spelled spells text given) ↔ text ≠ "" ∧ ∀ a, ¬ spells text a :=
    Option.forall
  rw [← refused, ← refused]
  constructor
  · intro fails
    by_contra! spelled
    obtain ⟨⟨timeout, ht⟩, ⟨version, hv⟩⟩ := spelled
    refine fails (loaded env (timeout.map UInt64.toNat) version) ?_
    rw [ofEnvironment_eq, timeoutOf_spelled ht, versionOf_spelled hv]
    rfl
  · intro unspelled c loads
    rw [ofEnvironment_eq] at loads
    cases ht : timeoutOf (settingIn env "ISILON_TIMEOUT") with
    | error why =>
      rw [ht] at loads
      cases loads
    | ok timeout =>
      cases hv : versionOf (settingIn env "ISILON_API_VERSION") with
      | error why =>
        rw [ht, hv] at loads
        cases loads
      | ok version =>
        obtain ⟨seconds, spelled⟩ := spelled_of_timeoutOf ht
        exact unspelled.elim (fun none => none seconds spelled)
          fun none => none version (spelled_of_versionOf hv)

/-- A variable that is unset is one that is empty. -/
theorem ofEnvironment_congr {env other : String → Option String}
    (same : ∀ name, settingIn env name = settingIn other name) :
    ofEnvironment env = ofEnvironment other := by
  have loads : loaded env = loaded other := by
    funext timeout version
    simp only [loaded, same]
  rw [ofEnvironment_eq, ofEnvironment_eq, same, same, loads]

end Config

/-! ## JSON -/

/-- A version is written as one of its spellings or as its number. -/
inductive WritesVersion (v : Version) : Value → Prop
  | text (s : String) (spells : SpellsVersion s v) : WritesVersion v (.str s)
  | number : WritesVersion v (.int v.number)

/-- The members of an object give the settings, and no key is there twice. Other members are those
that a text is read back with. -/
structure Settings.InObject (s : Settings) (ms : List (String × Value)) : Prop where
  distinct : (ms.map Prod.fst).Nodup
  legible : ∀ m ∈ ms, m.2.Legible 1
  endpoint : lookup "endpoint" ms = some (.str s.endpoint)
  username : lookup "username" ms = some (.str s.username)
  password : lookup "password" ms = some (.str s.password)
  group : lookup "group" ms = s.group.map .str
  volumesPath : lookup "volumes_path" ms = s.volumesPath.map .str
  insecure : lookup "insecure" ms = s.insecure.map .bool
  timeout : lookup "timeout" ms = s.timeout.map fun seconds => .int seconds.toNat
  version : Option.Rel WritesVersion s.version (lookup "api_version" ms)

namespace Config

theorem reads_version {v : Version} {w : Value} (h : WritesVersion v w) :
    w ≠ .null ∧ Version.reader.Reads w v := by
  cases h with
  | text s spells =>
    have read : Version.ofText? s = some v := by
      unfold SpellsVersion Version.parse at spells
      split at spells
      · rename_i read
        rw [read, Except.ok.inj spells]
      · cases spells
    refine ⟨nofun, ?_, ?_⟩
    · simp only [Version.reader, Value.doc, read, Option.isSome_some, if_true]
    · simp only [Version.reader, Value.doc, read, Option.getD_some]
  | number => cases v <;> exact ⟨nofun, rfl, rfl⟩

theorem reads_word64 (n : Nat) : word64.Reads (.int n) n := by
  refine ⟨?_, Int.toNat_natCast n⟩
  simp only [word64, Value.int, Value.doc, Int.natCast_nonneg, if_true]

/-- A field with a default is read as what is given, or else as the default. -/
theorem accepts_given {α β : Type} {find : String → Option Value} {rest : List (String × Value)}
    {name : String} {r : Reader α} {default : α} {encode : β → Value} {o : Option β} {f : β → α}
    (hfind : find name = o.map encode) (h : ∀ b, r.Reads (encode b) (f b)) :
    (fieldD name r default).Accepts find rest ((o.map f).getD default) := by
  cases o with
  | none => exact Fields.accepts_fieldD hfind nofun fun _ => rfl
  | some b => exact Fields.accepts_found hfind (h b)

/-- A configuration with the timeout in seconds. -/
def ofSeconds (endpoint username password : String) (group : Option String) (path : String)
    (insecure : Bool) (seconds : Nat) (version : Option Version) : Config :=
  ⟨endpoint, username, password, group, path, insecure, seconds * 1000, version⟩

theorem config_eq_ofSeconds (s : Settings) :
    s.config = ofSeconds s.endpoint s.username s.password s.group ((s.volumesPath.map id).getD "")
      ((s.insecure.map id).getD false) ((s.timeout.map UInt64.toNat).getD (usualTimeout / 1000))
      s.version := by
  have timeout : s.config.timeout =
      (s.timeout.map UInt64.toNat).getD (usualTimeout / 1000) * 1000 := by
    have whole : usualTimeout = usualTimeout / 1000 * 1000 := by decide
    unfold Settings.config
    cases s.timeout with
    | none => exact whole
    | some seconds => rfl
  rw [Option.map_id, Option.map_id, ofSeconds, ← timeout]
  rfl

/-- An object is read as the settings that are in it. -/
theorem reads_inObject {s : Settings} {ms : List (String × Value)} (h : s.InObject ms) :
    reader.Reads (.obj ms) s.config := by
  rw [config_eq_ofSeconds]
  refine reads_distinct h.distinct fun rest => ?_
  refine Fields.accepts_seq (Fields.accepts_seq (Fields.accepts_seq (Fields.accepts_seq
    (Fields.accepts_seq (Fields.accepts_seq (Fields.accepts_seq (Fields.accepts_map
    (Fields.accepts_required h.endpoint (Reader.reads_string _)))
    (Fields.accepts_required h.username (Reader.reads_string _)))
    (Fields.accepts_required h.password (Reader.reads_string _)))
    ?group) (accepts_given h.volumesPath Reader.reads_string))
    (accepts_given h.insecure Reader.reads_boolean))
    (accepts_given h.timeout fun seconds : UInt64 => reads_word64 seconds.toNat)) ?version
  case group =>
    exact Fields.accepts_optional_self h.group fun g => ⟨nofun, Reader.reads_string g⟩
  case version =>
    have written := h.version
    refine Fields.accepts_fieldD rfl (fun w found => ?_) fun absent => ?_
    · rw [found] at written
      cases given : s.version with
      | none =>
        rw [given] at written
        cases written
      | some v =>
        rw [given] at written
        cases written with
        | some writes =>
          exact Reader.reads_optional (reads_version writes).1 (reads_version writes).2
    · rw [absent] at written
      cases given : s.version with
      | none => rfl
      | some v =>
        rw [given] at written
        cases written

/-- So is its text. -/
theorem decode_inObject {s : Settings} {ms : List (String × Value)} (h : s.InObject ms) :
    reader.decode (Value.obj ms).text = .ok s.config :=
  (reads_inObject h).decode_text
    ⟨by decide, Value.membersLegible_iff.mpr h.legible⟩

end Config

/-! ## Every setting in every source -/

namespace Settings

/-- The environment that gives the settings; what is left out is unset. -/
def environment (s : Settings) (name : String) : Option String :=
  (lookup name [("ISILON_ENDPOINT", some s.endpoint), ("ISILON_USERNAME", some s.username),
    ("ISILON_PASSWORD", some s.password), ("ISILON_GROUP", s.group),
    ("ISILON_VOLUMEPATH", s.volumesPath), ("ISILON_INSECURE", s.insecure.map toString),
    ("ISILON_TIMEOUT", s.timeout.map fun seconds => toString seconds.toNat),
    ("ISILON_API_VERSION", s.version.map Version.text)]).join

/-- The members that give the settings. -/
def members (s : Settings) : List (String × Value) :=
  ("endpoint", .str s.endpoint) :: ("username", .str s.username) ::
    ("password", .str s.password) :: (optionalMember "group" .str s.group ++
    optionalMember "volumes_path" .str s.volumesPath ++
    optionalMember "insecure" .bool s.insecure ++
    optionalMember "timeout" (fun seconds => .int seconds.toNat) s.timeout ++
    optionalMember "api_version" (fun v => .str v.text) s.version)

theorem spellsVersion_text (v : Version) : SpellsVersion v.text v := by
  have read : Version.ofText? v.text = some v := by cases v <;> decide
  unfold SpellsVersion Version.parse
  rw [read]

theorem inEnvironment_environment (s : Settings) : s.InEnvironment s.environment := by
  have insecure : settingIn s.environment "ISILON_INSECURE" =
      (s.insecure.map toString).getD "" := by
    simp [settingIn, environment, lookup_cons]
  have timeout : settingIn s.environment "ISILON_TIMEOUT" =
      (s.timeout.map fun seconds => toString seconds.toNat).getD "" := by
    simp [settingIn, environment, lookup_cons]
  have version : settingIn s.environment "ISILON_API_VERSION" =
      (s.version.map Version.text).getD "" := by
    simp [settingIn, environment, lookup_cons]
  constructor
  case insecure =>
    rw [insecure]
    rcases s.insecure with _ | _ | _ <;> decide
  case timeout =>
    rw [timeout]
    cases s.timeout with
    | none => rfl
    | some seconds => exact Text.isNumeral_toString seconds.toNat
  case version =>
    rw [version]
    cases s.version with
    | none => rfl
    | some v => exact spellsVersion_text v
  all_goals simp [settingIn, environment, lookup_cons]

theorem keys_optionalMember {α : Type} (name : String) (encode : α → Value) (o : Option α) :
    ((optionalMember name encode o).map Prod.fst).Sublist [name] := by
  cases o with
  | none => exact List.nil_sublist _
  | some a => exact List.Sublist.refl _

theorem legible_optionalMember {α : Type} {name : String} {encode : α → Value} {o : Option α}
    {level : Nat} (h : ∀ a, (encode a).Legible level) :
    ∀ m ∈ optionalMember name encode o, m.2.Legible level := by
  cases o with
  | none => exact fun _ hm => absurd hm List.not_mem_nil
  | some a =>
    intro m hm
    rw [List.mem_singleton.mp hm]
    exact h a

theorem inObject_members (s : Settings) : s.InObject s.members := by
  constructor
  case distinct =>
    have keys : (s.members.map Prod.fst).Sublist ["endpoint", "username", "password", "group",
        "volumes_path", "insecure", "timeout", "api_version"] := by
      simp only [members, List.map_cons, List.map_append]
      exact .cons_cons _ (.cons_cons _ (.cons_cons _ ((((keys_optionalMember ..).append
        (keys_optionalMember ..)).append (keys_optionalMember ..)).append
        (keys_optionalMember ..) |>.append (keys_optionalMember ..))))
    exact keys.nodup (by decide)
  case legible =>
    have fits (n : UInt64) : fitsNumber n.toNat := by
      have := n.toNat_lt
      unfold fitsNumber
      omega
    simp only [members, List.forall_mem_cons, List.forall_mem_append]
    exact ⟨trivial, trivial, trivial, ⟨⟨⟨legible_optionalMember fun _ => trivial,
      legible_optionalMember fun _ => trivial⟩, legible_optionalMember fun _ => trivial⟩,
      legible_optionalMember fits⟩, legible_optionalMember fun _ => trivial⟩
  case version =>
    have found : lookup "api_version" s.members = s.version.map fun v => .str v.text := by
      simp [members, lookup_append, lookup_cons, lookup_optionalMember]
    rw [found]
    cases s.version with
    | none => exact .none
    | some v => exact .some (.text v.text (spellsVersion_text v))
  all_goals simp [members, lookup_append, lookup_cons, lookup_optionalMember]

end Settings

/-! ## Agreement -/

/-- Two configurations are the same to a user, and so to the cluster. -/
structure Config.Agree (c d : Config) : Prop where
  endpoint : c.endpoint = d.endpoint
  username : c.username = d.username
  password : c.password = d.password
  group : c.owningGroup = d.owningGroup
  volumesPath : c.volumesPath = d.volumesPath
  insecure : c.insecure = d.insecure
  timeout : c.timeout = d.timeout
  version : c.version = d.version
  validate : c.validate = d.validate
  connection : Connection.ofConfig c = Connection.ofConfig d
  connect : Connection.connect c = Connection.connect d
  client : Client.connect c = Client.connect d

/-- An empty group is none. -/
theorem Config.agree_owningGroup (c : Config) : Agree { c with group := c.owningGroup } c := by
  have group : Config.owningGroup { c with group := c.owningGroup } = c.owningGroup := by
    show (c.group.filter _).filter _ = c.group.filter _
    rw [Option.filter_filter]
    simp
  have connection : Connection.ofConfig { c with group := c.owningGroup } =
      Connection.ofConfig c := by
    unfold Connection.ofConfig
    rw [group]
    rfl
  have connect : Connection.connect { c with group := c.owningGroup } = Connection.connect c := by
    unfold Connection.connect
    rw [connection]
  constructor
  case group => exact group
  case connection => exact connection
  case connect => exact connect
  case client =>
    unfold Client.connect
    rw [connect]
  all_goals rfl

/-- Settings can be given in every source, and a client is the same whichever source they are given
in. An environment is refused for a timeout or a version that is there but cannot be read, and for
nothing else; whether a variable is unset or empty makes no difference. -/
theorem Config.sources_agree :
    (∀ s : Settings, ∃ env ms calls, s.InEnvironment env ∧ s.InObject ms ∧
      Settings.given s.endpoint s.username s.password calls = s) ∧
    (∀ (s : Settings) env ms calls, s.InEnvironment env → s.InObject ms →
      Settings.given s.endpoint s.username s.password calls = s →
      ∃ c d, ofEnvironment env = .ok c ∧ reader.decode (Value.obj ms).text = .ok d ∧
        Agree c d ∧ Agree c (built s.endpoint s.username s.password calls)) ∧
    (∀ env, (∀ c, ofEnvironment env ≠ .ok c) ↔
      (settingIn env "ISILON_TIMEOUT" ≠ "" ∧
        ∀ seconds, ¬ SpellsSeconds (settingIn env "ISILON_TIMEOUT") seconds) ∨
      (settingIn env "ISILON_API_VERSION" ≠ "" ∧
        ∀ v, ¬ SpellsVersion (settingIn env "ISILON_API_VERSION") v)) ∧
    (∀ env other, (∀ name, settingIn env name = settingIn other name) →
      ofEnvironment env = ofEnvironment other) := by
  refine ⟨fun s => ?_, fun s env ms calls loads reads builds => ?_, ofEnvironment_error_iff,
    fun _ _ => ofEnvironment_congr⟩
  · exact ⟨s.environment, s.members, s.calls, s.inEnvironment_environment, s.inObject_members,
      s.given_calls⟩
  · have same : Agree { s.config with group := s.config.owningGroup } s.config :=
      s.config.agree_owningGroup
    refine ⟨_, _, ofEnvironment_eq_ok loads, decode_inObject reads, same, ?_⟩
    rw [built_eq, builds]
    exact same

/-- Settings with a timeout of five seconds and the second version. -/
def fiveSeconds : Settings where
  endpoint := "https://cluster"
  username := "admin"
  password := "secret"
  timeout := some 5
  version := some .v2

/-- Their environment, where the timeout has a sign and zeros, the version is a capital letter
between blanks, and the group is there but empty. -/
def fiveSecondsEnvironment (name : String) : Option String :=
  lookup name [("ISILON_ENDPOINT", "https://cluster"), ("ISILON_USERNAME", "admin"),
    ("ISILON_PASSWORD", "secret"), ("ISILON_GROUP", ""), ("ISILON_TIMEOUT", "+005"),
    ("ISILON_API_VERSION", " V2 ")]

/-- Their members, with the version as a number and a member that means nothing. -/
def fiveSecondsMembers : List (String × Value) :=
  [("api_version", .int 2), ("comment", .null), ("password", .str "secret"),
    ("username", .str "admin"), ("timeout", .int 5), ("endpoint", .str "https://cluster")]

theorem Config.sources_agree_fiveSeconds :
    ∃ c d, ofEnvironment fiveSecondsEnvironment = .ok c ∧
      reader.decode (Value.obj fiveSecondsMembers).text = .ok d ∧ Agree c d ∧
      Agree c (built "https://cluster" "admin" "secret" [.version .v1, .timeout 5, .version .v2]) :=
  sources_agree.2.1 fiveSeconds fiveSecondsEnvironment fiveSecondsMembers
    [.version .v1, .timeout 5, .version .v2]
    { endpoint := by decide
      username := by decide
      password := by decide
      group := by decide
      volumesPath := by decide
      insecure := by decide
      timeout := ⟨['0', '0', '5'], .inr rfl, by decide, List.all_eq_true.mp (by decide), by decide⟩
      version := by
        have read : Version.ofText? " V2 " = some .v2 := by decide
        show Version.parse " V2 " = .ok .v2
        unfold Version.parse
        rw [read] }
    { distinct := by decide
      legible := by
        have fits : fitsNumber 2 ∧ fitsNumber 5 := by
          unfold fitsNumber
          omega
        simp only [fiveSecondsMembers, List.forall_mem_cons]
        exact ⟨fits.1, trivial, trivial, trivial, fits.2, trivial, nofun⟩
      endpoint := rfl
      username := rfl
      password := rfl
      group := rfl
      volumesPath := rfl
      insecure := rfl
      timeout := rfl
      version := .some .number }
    rfl

end OneFs
