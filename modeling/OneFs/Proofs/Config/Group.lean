import OneFs.Proofs.Client
import OneFs.Proofs.Config.Sources
import OneFs.Proofs.Exchange.Ends
import OneFs.Proofs.Json.Unknown
import OneFs.Proofs.Persona

/-!
# Groups

A configuration may have a group beside its user. A volume that is created is handed to both, and an
export that is created maps every access to both. An empty group is none, whichever source it comes
from, and then nothing that is sent names a group.

- `Config.GivesGroup`: the group that a configuration is given, in each of its sources;
- `HandsTo`, `MapsTo`: what hands over a volume, and what creates an export in either version;
- `Exchange.Brings`: what the bodies say that a plan sends, one of them at least if it succeeds;
- `Connection.createVolume_brings`, `Connection.createExport_brings`: the calls that name a group;
- `group_reaches_all_or_none`: whom they name, by what is configured.
-/

namespace OneFs

open Json Http Exchange

/-! ## Where a group comes from -/

/-- The group that a configuration is given: the one that it has, the argument of the last call that
gives one, the variable of an environment, or the text of a member. -/
inductive Config.GivesGroup : Option String → Config → Prop where
  | own (c : Config) : GivesGroup c.group c
  | called (endpoint username password : String) (calls : List Setter) :
      GivesGroup (Settings.given endpoint username password calls).group
        (built endpoint username password calls)
  | loaded {env : String → Option String} {c : Config} (loads : ofEnvironment env = .ok c) :
      GivesGroup (env "ISILON_GROUP") c
  | read {text : String} {ms : List (String × Value)} {c : Config}
      (reads : reader.decode text = .ok c) (object : anything.decode text = .ok (.obj ms)) :
      GivesGroup ((lookup "group" ms).bind Value.asText?) c

namespace Config

/-- An environment gives the group that its variable holds, unless that is empty. -/
theorem group_of_ofEnvironment {env : String → Option String} {c : Config}
    (loads : ofEnvironment env = .ok c) :
    c.group = (env "ISILON_GROUP").filter fun g => !g.isEmpty := by
  have filtered : (if (settingIn env "ISILON_GROUP").isEmpty then none
      else some (settingIn env "ISILON_GROUP")) =
        (env "ISILON_GROUP").filter fun g => !g.isEmpty := by
    unfold settingIn
    cases env "ISILON_GROUP" with
    | none => rfl
    | some g => cases empty : g.isEmpty <;> simp [empty, Option.filter]
  rw [ofEnvironment_eq] at loads
  cases timeout : timeoutOf (settingIn env "ISILON_TIMEOUT") with
  | error why =>
    rw [timeout] at loads
    cases loads
  | ok t =>
    cases version : versionOf (settingIn env "ISILON_API_VERSION") with
    | error why =>
      rw [timeout, version] at loads
      cases loads
    | ok v =>
      rw [timeout, version] at loads
      rw [← filtered, ← Except.ok.inj loads]
      rfl

/-- An object gives the group that its member is the text of. -/
theorem group_of_decode {text : String} {ms : List (String × Value)} {c : Config}
    (reads : reader.decode text = .ok c) (object : anything.decode text = .ok (.obj ms)) :
    c.group = (lookup "group" ms).bind Value.asText? := by
  obtain ⟨accepted, -, built⟩ := fault_of_decode reads
  obtain ⟨whole, -, value⟩ := fault_of_decode object
  change Doc.valueFault _ = none at whole
  change Doc.value _ = .obj ms at value
  generalize (scan text).1 = d at accepted built whole value
  cases d with
  | obj members tail =>
    obtain rfl : sorted (Doc.memberValues members) = ms := Value.obj.inj value
    have text (inner : Doc) (fine : string.fault inner = none) :
        inner.value = .str (string.value inner) := by
      cases inner with
      | str read skip =>
        cases read with
        | ok s => rfl
        | error f => cases fine
      | _ => cases fine
    have kept : OptionalKept (fun inner s => inner.value = .str s) (lastOf "group" members)
        c.group := by
      rw [← built]
      exact optionalKept_field (fault_record_kept whole accepted)
        (show findField "group" _ = some _ from rfl) text
    rw [lookup_sorted, lookup_memberValues_reverse]
    generalize lastOf "group" members = last at kept ⊢
    generalize c.group = group at kept ⊢
    cases kept with
    | absent => rfl
    | null => rfl
    | there same =>
      rw [Option.map_some, same]
      rfl
  | num read skip => cases read <;> cases value
  | str read skip => cases read <;> cases value
  | _ => cases value

/-- Whatever source a group is given in, the owning group is the same, and it is not empty. -/
theorem GivesGroup.owningGroup {given : Option String} {c : Config} (gives : c.GivesGroup given) :
    SameGroup given c.owningGroup ∧ c.owningGroup ≠ some "" := by
  have keeps (group : Option String) :
      ((group.filter fun g => !g.isEmpty).filter fun g => !g.isEmpty) =
        group.filter fun g => !g.isEmpty := by
    rw [Option.filter_filter]
    simp
  have same : (given.filter fun g => !g.isEmpty) = c.group.filter fun g => !g.isEmpty := by
    cases gives with
    | own => rfl
    | called endpoint username password calls =>
      rw [built_eq]
      rfl
    | loaded loads => rw [group_of_ofEnvironment loads, keeps]
    | read reads object => rw [group_of_decode reads object]
  constructor
  · rw [sameGroup_iff, same]
    exact (keeps c.group).symm
  · unfold Config.owningGroup
    rcases kept_cases c.group with ⟨-, kept⟩ | ⟨g, filled, -, kept⟩
    · rw [kept]
      exact nofun
    · rw [kept]
      exact fun empty => filled (Option.some.inj empty)

end Config

/-! ## What names a user and a group -/

/-- A value that hands a directory to a user and, if there is one, to a group. -/
structure HandsTo (user : String) (group : Option String) (v : Value) : Prop where
  owner : v.member? "owner" = some (.obj [("name", .str user), ("type", .str "user")])
  group : v.member? "group" =
    group.map fun g => .obj [("name", .str g), ("type", .str "group")]

theorem Ownership.encode_eq (o : Ownership) :
    o.encode = .obj [("name", .str o.name), ("type", .str o.kind)] := by
  have ascending : Ascending [("name", Value.str o.name), ("type", Value.str o.kind)] :=
    List.pairwise_pair.mpr (show "name" < "type" by decide)
  exact congrArg Value.obj (sorted_of_ascending ascending)

theorem handsTo_ownership (user : String) (group : Option String) :
    HandsTo user group (AclRequest.ownership user group).body := by
  constructor
  · exact congrArg some (Ownership.encode_eq (.user user))
  · cases group with
    | none => rfl
    | some g => exact congrArg some (Ownership.encode_eq (.group g))

/-- A value that maps every access to a user and, if there is one, to a group: by their names in
version 1, and as personas in version 2. -/
def MapsTo (version : Version) (user : String) (group : Option String) (v : Value) : Prop :=
  ∃ mapping, v.member? "map_all" = some mapping ∧
    match version with
    | .v1 =>
      mapping.member? "user" = some (.str user) ∧
        mapping.member? "groups" = group.map fun g => .arr [.str g]
    | .v2 =>
      mapping.member? "user" = some (.str ("user:" ++ user)) ∧
        mapping.member? "primary_group" = group.map fun g => .str ("group:" ++ g)

theorem Persona.encode_user (name : String) : (user name).encode = .str ("user:" ++ name) := by
  have typed : "user:" = "user" ++ ":" := by decide
  rw [typed]
  rfl

theorem Persona.encode_group (name : String) : (group name).encode = .str ("group:" ++ name) := by
  have typed : "group:" = "group" ++ ":" := by decide
  rw [typed]
  rfl

/-- What a group is written as is read as that group. -/
theorem Persona.decode_group (name : String) :
    reader.decode (Value.str ("group:" ++ name)).text = .ok (group name) := by
  have read := reads_encode (group name)
  rw [encode_group, show (group name).reread = group name from reread_typed name .group] at read
  exact read.decode_text trivial

theorem mapsTo_exportBody (c : Connection) (path : String) :
    MapsTo c.version c.username c.group (c.exportBody path) := by
  unfold Connection.exportBody
  cases c.version with
  | v1 =>
    refine ⟨_, rfl, rfl, ?_⟩
    cases c.group with
    | none => rfl
    | some g => rfl
  | v2 =>
    refine ⟨_, rfl, congrArg some (Persona.encode_user c.username), ?_⟩
    cases c.group with
    | none => rfl
    | some g => exact congrArg some (Persona.encode_group g)

/-! ## The requests -/

/-- The body of a request is the text of a value with a property. -/
def Carries (P : Value → Prop) (r : Request) : Prop :=
  ∃ v, r.body = Text.Utf8.bytes v.text ∧ P v

/-- A request has no body, or it is the text of such a value. -/
def MayCarry (P : Value → Prop) (r : Request) : Prop :=
  r.body = [] ∨ Carries P r

/-- Every body that a plan sends is the text of such a value, and it has sent one if it succeeds. -/
structure Exchange.Brings {α : Type} (P : Value → Prop) (x : Exchange α) : Prop where
  sends : x.Sends (MayCarry P)
  mustSend : x.MustSend (Carries P)

namespace Exchange.Brings

variable {α β : Type} {P : Value → Prop} {x : Exchange α} {k : α → Exchange β}

protected theorem bind (hx : x.Brings P) (hk : ∀ a, (k a).Sends (MayCarry P)) :
    (x >>= k).Brings P :=
  ⟨hx.sends.bind hk, hx.mustSend.bind⟩

theorem behind (hx : x.Sends (MayCarry P)) (hk : ∀ a, (k a).Brings P) : (x >>= k).Brings P :=
  ⟨hx.bind fun a => (hk a).sends, .behind fun a => (hk a).mustSend⟩

end Exchange.Brings

namespace Connection

variable {α : Type} {P : Value → Prop} (c : Connection) {ask : Ask}

/-- What is asked without a body is sent without one. -/
theorem query_bare (bare : ask.body = none) (r : Reader α) : (c.query ask r).Sends (MayCarry P) :=
  (c.query_sends ask r).mono fun _ request => .inl (body_of_requestFor_none request bare)

/-- What is asked with a body brings it. -/
theorem query_brings {v : Value} (given : ask.body = some v) (holds : P v) (r : Reader α) :
    (c.query ask r).Brings P := by
  have carries (req : Request) (request : c.requestFor ask = .ok req) : Carries P req :=
    ⟨v, body_of_requestFor request given, holds⟩
  constructor
  · exact (c.query_sends ask r).mono fun req request => .inr (carries req request)
  · exact (c.query_mustSend ask r).mono carries

theorem execute_bare (bare : ask.body = none) : (c.execute ask).Sends (MayCarry P) :=
  (c.query_bare bare ignored).bind fun _ => .done ()

theorem execute_brings {v : Value} (given : ask.body = some v) (holds : P v) :
    (c.execute ask).Brings P :=
  (c.query_brings given holds ignored).bind fun _ => .done ()

/-- A volume is created without a word of its owner, and then handed over. -/
theorem createVolume_brings (name : String) :
    (c.createVolume name).Brings (HandsTo c.username c.group) := by
  have handed := handsTo_ownership c.username c.group
  exact .behind (.require _ _) fun _ => .behind (c.execute_bare rfl) fun _ =>
    .bind (c.execute_brings rfl handed) fun _ => .note _

/-- An export is created with its mapping. -/
theorem createExport_brings (path : String) :
    (c.createExport path).Brings (MapsTo c.version c.username c.group) := by
  have mapped := mapsTo_exportBody c path
  exact .behind (.require _ _) fun _ => .bind (c.query_brings rfl mapped Export.createdId) fun _ =>
    .bind (.ofOption _ _) fun _ => .bind (.note _) fun _ => .done _

end Connection

namespace Client

variable (c : Client)

theorem createVolume_brings (name : String) :
    (c.createVolume name).Brings (HandsTo c.api.username c.api.group) :=
  (c.api.createVolume_brings name).bind fun _ => .done _

theorem isExported_bare {P : Value → Prop} (name : String) :
    (c.isExported name).Sends (MayCarry P) :=
  .bind (.bind (c.api.query_bare rfl _) fun _ => .done _) fun _ => .done _

/-- A volume is published by the creation of an export, if it is not published already. -/
theorem publish_sends (name : String) :
    (c.publish name).Sends (MayCarry (MapsTo c.api.version c.api.username c.api.group)) := by
  refine .bind (c.isExported_bare name) fun there => ?_
  cases there with
  | true => exact .note _
  | false => exact .bind (c.api.createExport_brings (c.path name)).sends fun _ => .done _

end Client

/-! ## What is configured -/

/-- The group that is configured reaches everything that names one, or nothing does. Let a
configuration be given a group in whichever source, an empty one or none, and let a client be made
for it in whichever way. Whatever is answered then, what hands a volume over to its owner names the
user that is configured, and so does what creates an export, in either version. Beside the user, each
of them names the group that is given, in its own way, unless that is empty; if it is or there is
none, none of them names a group. What is sent for a group in version 2 is read as that group. -/
theorem group_reaches_all_or_none {given : Option String} {config : Config} {c : Client}
    (gives : config.GivesGroup given) (made : c.IsFor config) :
    ∃ group, SameGroup given group ∧ group ≠ some "" ∧
      (∀ name, (c.createVolume name).Brings (HandsTo config.username group)) ∧
      (∀ path, (c.api.createExport path).Brings (MapsTo c.api.version config.username group)) ∧
      (∀ name,
        (c.publish name).Sends (MayCarry (MapsTo c.api.version config.username group))) ∧
      ∀ g, Persona.reader.decode (Value.str ("group:" ++ g)).text = .ok (Persona.group g) := by
  obtain ⟨same, filled⟩ := gives.owningGroup
  have volumes := c.createVolume_brings
  have exports := c.api.createExport_brings
  have published := c.publish_sends
  rw [made.username_eq, made.group_eq] at volumes exports published
  exact ⟨config.owningGroup, same, filled, volumes, exports, published, Persona.decode_group⟩

/-- A configuration that is given an empty group first and then another. -/
def staffConfig : Config :=
  .built "http://[::1]:8080/" "admin" "secret" [.group "", .group "staff"]

/-- Its client hands the volumes that it creates to that other group. -/
theorem group_reaches_all_or_none_staff :
    let c : Client := ⟨{ localConnection with group := some "staff" }⟩
    let answers : List Incoming := [.message 200 [] true, .message 200 [] true]
    staffConfig.GivesGroup (some "staff") ∧ c.IsFor staffConfig ∧
      ∃ v, (c.createVolume "data").Ends (replies .closed) answers (.ok v) [] ∧
        ∃ r ∈ requests ((c.createVolume "data").run (replies .closed) answers).steps,
          Carries (HandsTo "admin" (some "staff")) r := by
  intro c answers
  have gives : staffConfig.GivesGroup (some "staff") :=
    .called "http://[::1]:8080/" "admin" "secret" [.group "", .group "staff"]
  have valid : staffConfig.validate = .ok () := rfl
  have configured : Connection.ofConfig staffConfig = .ok c.api := by
    unfold Connection.ofConfig
    rw [valid]
    rfl
  have made : c.IsFor staffConfig := .of_ofConfig configured
  have created : ∃ v, (c.createVolume "data").Ends (replies .closed) answers (.ok v) [] ∧
      v.name = "data" :=
    Ends.exists_of_view (by decide +kernel)
  obtain ⟨v, done, -⟩ := created
  obtain ⟨group, same, -, volumes, -⟩ := group_reaches_all_or_none gives made
  obtain rfl : group = some "staff" := by
    rcases same with rfl | ⟨absent, -⟩ | ⟨empty, -⟩
    · rfl
    · cases absent
    · exact absurd (Option.some.inj empty) (by decide)
  exact ⟨gives, made, v, done, (volumes "data").mustSend _ _ _ v done.result_eq⟩

end OneFs
