import OneFs.Connection.Snapshots
import OneFs.Proofs.Export.Bodies
import OneFs.Proofs.Export.Lossless
import OneFs.Proofs.Exchange.Sends
import OneFs.Proofs.Quota.Bodies
import OneFs.Proofs.Snapshot.Lossless
import OneFs.Proofs.Volume.Address

/-!
# Bodies read as records

The bodies by which a client creates something have fewer members than the records in which a
cluster reports it, and are written apart from them. They are read as such records all the same:
those that say what was asked for and nothing else.

- `Quota.reads_creation`, `Export.reads_creationV2`, `Export.reads_restriction`,
  `Snapshot.reads_creation`: the four bodies;
- `IsReadAs`: what the body of a request is read as;
- `bodies_read_back`: the bodies as texts, and in the requests that are sent.
-/

namespace OneFs

open Json Http Exchange

/-! ## Quotas -/

/-- Levels that are asked for, as they are reported when nothing has happened yet. -/
def QuotaThresholds.reported (t : QuotaThresholds) : Thresholds :=
  { Thresholds.blank with advisory := t.advisory, soft := t.soft, hard := t.hard }

/-- Levels as they are sent are read as reported levels. -/
theorem Thresholds.reads_sent (t : QuotaThresholds) : reader.Reads t.encode t.reported := by
  refine reads_declared (ascending_sorted _).nodup_keys ?_ ?_
  · intro key hkey
    obtain ⟨m, hm, rfl⟩ := List.mem_map.mp hkey
    have sent := List.mem_map_of_mem (f := Prod.fst) (mem_sorted hm)
    have among : ∀ name ∈ ["advisory", "hard", "soft"], name ∈ names := by decide
    exact among _ sent
  · refine Fields.accepts_seq (Fields.accepts_seq (Fields.accepts_seq (Fields.accepts_seq
      (Fields.accepts_seq (Fields.accepts_seq (Fields.accepts_seq (Fields.accepts_seq
      (Fields.accepts_seq (Fields.accepts_map ?advisory) ?_) ?_) ?soft) ?_) ?_) ?hard) ?_) ?_)
      Fields.accepts_otherMembers
    case advisory =>
      exact Fields.accepts_found (by simp [lookup_sorted, lookup_cons]) (reads_level _)
    case soft => exact Fields.accepts_found (by simp [lookup_sorted, lookup_cons]) (reads_level _)
    case hard => exact Fields.accepts_found (by simp [lookup_sorted, lookup_cons]) (reads_level _)
    all_goals exact Fields.accepts_absent (by simp [lookup_sorted, lookup_cons])

/-- The body that creates a quota is read as an enforced quota on a directory. -/
theorem Quota.reads_creation (path : String) (t : QuotaThresholds) :
    reader.Reads (creation path t)
      { blank with path, type := .directory, enforced := true, thresholds := t.reported } := by
  have distinct : (["enforced", "include_snapshots", "path", "thresholds",
      "thresholds_include_overhead", "type"] : List String).Nodup := by decide
  have declares : ∀ key ∈ ["enforced", "include_snapshots", "path", "thresholds",
      "thresholds_include_overhead", "type"], key ∈ names := by decide
  refine reads_declared distinct declares ?_
  refine Fields.accepts_seq (Fields.accepts_seq (Fields.accepts_seq (Fields.accepts_seq
    (Fields.accepts_seq (Fields.accepts_seq (Fields.accepts_seq (Fields.accepts_seq
    (Fields.accepts_seq (Fields.accepts_seq (Fields.accepts_seq (Fields.accepts_seq
    (Fields.accepts_seq (Fields.accepts_map ?_) ?path) ?type) ?enforced) ?_) ?snapshots)
    ?thresholds) ?overhead) ?_) ?_) ?_) ?_) ?_)
    Fields.accepts_otherMembers
  case path => exact Fields.accepts_found rfl (Reader.reads_string _)
  case type => exact Fields.accepts_found rfl (QuotaType.reads_encode _)
  case enforced => exact Fields.accepts_found rfl (Reader.reads_boolean _)
  case snapshots => exact Fields.accepts_found rfl (Reader.reads_boolean _)
  case thresholds => exact Fields.accepts_found rfl (Thresholds.reads_sent t)
  case overhead => exact Fields.accepts_found rfl (Reader.reads_boolean _)
  all_goals exact Fields.accepts_absent rfl

/-! ## Exports -/

/-- A persona with a type is read as it is. -/
theorem Persona.reads_typed (id : String) (t : PersonaType) :
    (optional reader).Reads (encode ⟨id, some t⟩) (some ⟨id, some t⟩) := by
  have read := reads_encode ⟨id, some t⟩
  rw [reread_typed] at read
  exact Reader.reads_optional nofun read

/-- The mapping to a user is read as it is, since its personas have types. -/
theorem UserMapping.reads_toUser (user : String) (group : Option String) :
    reader.Reads (.obj (toUser user group).members) (toUser user group) := by
  have few : ((toUser user group).members.map Prod.fst).Sublist ["user", "primary_group"] := by
    cases group with
    | none => exact List.sublist_append_left ["user"] ["primary_group"]
    | some g => exact List.Sublist.refl _
  have distinct : (["user", "primary_group"] : List String).Nodup := by decide
  have declares : ∀ key ∈ ["user", "primary_group"], key ∈ keys := by decide
  refine reads_declared (distinct.sublist few) (fun key hkey => declares key (few.subset hkey)) ?_
  refine Fields.accepts_seq (Fields.accepts_seq (Fields.accepts_seq (Fields.accepts_seq
    (Fields.accepts_map ?_) ?user) ?group) ?_) Fields.accepts_otherMembers
  case user => exact Fields.accepts_found rfl (Persona.reads_typed user .user)
  case group =>
    cases group with
    | none => exact Fields.accepts_absent rfl
    | some g => exact Fields.accepts_found rfl (Persona.reads_typed g .group)
  all_goals exact Fields.accepts_absent (by cases group <;> rfl)

/-- The body that publishes a path is read as an export of it, with its mapping. -/
theorem Export.reads_creationV2 (path user : String) (group : Option String) :
    reader.Reads (creationV2 path user group)
      { blank with paths := [path], mapAll := some (.toUser user group) } := by
  have distinct : (["paths", "map_all"] : List String).Nodup := by decide
  have declares : ∀ key ∈ ["paths", "map_all"], key ∈ keys := by decide
  refine reads_declared distinct declares ?_
  refine Fields.accepts_seq (Fields.accepts_seq (Fields.accepts_seq (Fields.accepts_seq
    (Fields.accepts_seq (Fields.accepts_seq (Fields.accepts_seq (Fields.accepts_seq
    (Fields.accepts_seq (Fields.accepts_seq (Fields.accepts_seq
    (Fields.accepts_map ?_) ?paths) ?_) ?_) ?_) ?_) ?_) ?_) ?_) ?mapAll) ?_)
    Fields.accepts_otherMembers
  case paths => exact Fields.accepts_found rfl (Reader.reads_texts [path])
  case mapAll =>
    exact Fields.accepts_found rfl (Reader.reads_optional nofun (UserMapping.reads_toUser user group))
  all_goals exact Fields.accepts_absent rfl

/-- The body that restricts an export is read as an export to those clients. -/
theorem Export.reads_restriction (clients : List String) :
    reader.Reads (restriction clients) { blank with clients := some clients } := by
  have distinct : (["clients"] : List String).Nodup := by decide
  have declares : ∀ key ∈ ["clients"], key ∈ keys := by decide
  refine reads_declared distinct declares ?_
  refine Fields.accepts_seq (Fields.accepts_seq (Fields.accepts_seq (Fields.accepts_seq
    (Fields.accepts_seq (Fields.accepts_seq (Fields.accepts_seq (Fields.accepts_seq
    (Fields.accepts_seq (Fields.accepts_seq (Fields.accepts_seq
    (Fields.accepts_map ?_) ?_) ?clients) ?_) ?_) ?_) ?_) ?_) ?_) ?_) ?_)
    Fields.accepts_otherMembers
  case clients =>
    exact Fields.accepts_found rfl (Reader.reads_optional nofun (Reader.reads_texts clients))
  all_goals exact Fields.accepts_absent rfl

/-! ## Snapshots -/

/-- The body that asks for a snapshot is read as one of that path and name. An empty name is not
written, and read back all the same. -/
theorem Snapshot.reads_creation (path : String) (name : Option String) :
    reader.Reads (creation path name) { blank with path, name := name.getD "" } := by
  have given : (name.filter (· != "")).getD "" = name.getD "" := by
    cases name with
    | none => rfl
    | some n =>
      by_cases empty : n = ""
      · rw [empty]
        rfl
      · rw [Option.filter_some, if_pos (bne_iff_ne.mpr empty)]
  rw [← given]
  unfold creation
  generalize name.filter (· != "") = name
  have few : ((("path", .str path) :: optionalMember "name" .str name).map Prod.fst).Sublist
      ["path", "name"] := by
    cases name with
    | none => exact List.sublist_append_left ["path"] ["name"]
    | some n => exact List.Sublist.refl _
  have distinct : (["path", "name"] : List String).Nodup := by decide
  have declares : ∀ key ∈ ["path", "name"], key ∈ names := by decide
  refine reads_declared (distinct.sublist few) (fun key hkey => declares key (few.subset hkey)) ?_
  refine Fields.accepts_seq (Fields.accepts_seq (Fields.accepts_seq (Fields.accepts_seq
    (Fields.accepts_seq (Fields.accepts_seq (Fields.accepts_seq (Fields.accepts_seq
    (Fields.accepts_seq (Fields.accepts_seq (Fields.accepts_seq (Fields.accepts_seq
    (Fields.accepts_seq (Fields.accepts_seq (Fields.accepts_map ?_) ?name) ?path) ?_) ?_) ?_) ?_)
    ?_) ?_) ?_) ?_) ?_) ?_) ?_) Fields.accepts_otherMembers
  case path => exact Fields.accepts_found rfl (Reader.reads_string _)
  case name =>
    cases name with
    | none => exact Fields.accepts_absent rfl
    | some n => exact Fields.accepts_found rfl (Reader.reads_string n)
  all_goals exact Fields.accepts_absent (by cases name <;> rfl)

/-! ## Texts and requests -/

/-- The body of a request is read as `a`. -/
def IsReadAs {α : Type} (r : Reader α) (a : α) (request : Request) : Prop :=
  r.decode (Text.Utf8.text request.body) = .ok a

/-- A request for what is asked is read as what the body in it is read as. -/
theorem Connection.isReadAs_of_requestFor {α : Type} {c : Connection} {ask : Ask} {body : Value}
    {r : Reader α} {a : α} {request : Request} (sent : c.requestFor ask = .ok request)
    (given : ask.body = some body) (read : r.decode body.text = .ok a) :
    IsReadAs r a request := by
  unfold IsReadAs
  rw [body_of_requestFor sent given, Text.Utf8.text_bytes]
  exact read

theorem Quota.decode_creation (path : String) (t : QuotaThresholds) :
    reader.decode (creation path t).text = .ok
      { blank with path, type := .directory, enforced := true, thresholds := t.reported } :=
  (reads_creation path t).decode_text
    ⟨by decide, trivial, trivial, trivial, t.legible_encode (by decide), trivial, trivial, trivial⟩

theorem Export.decode_creationV2 (path user : String) (group : Option String) :
    reader.decode (creationV2 path user group).text = .ok
      { blank with paths := [path], mapAll := some (.toUser user group) } := by
  refine (reads_creationV2 path user group).decode_text ?_
  have paths : (Value.ofTexts [path]).Legible 1 := legible_ofTexts (by decide) _
  cases group with
  | none => exact ⟨by decide, paths, ⟨by decide, trivial, trivial⟩, trivial⟩
  | some g => exact ⟨by decide, paths, ⟨by decide, trivial, trivial, trivial⟩, trivial⟩

theorem Export.decode_restriction (clients : List String) :
    reader.decode (restriction clients).text = .ok { blank with clients := some clients } :=
  (reads_restriction clients).decode_text ⟨by decide, legible_ofTexts (by decide) _, trivial⟩

theorem Snapshot.decode_creation (path : String) (name : Option String) :
    reader.decode (creation path name).text = .ok { blank with path, name := name.getD "" } := by
  have legible : (creation path name).Legible 0 := by
    unfold creation
    cases name.filter (· != "") with
    | none => exact ⟨by decide, trivial, trivial⟩
    | some n => exact ⟨by decide, trivial, trivial, trivial⟩
  exact (reads_creation path name).decode_text legible

/-- What a client writes to create something is read as a record of that, with what was asked for
and nothing else: a quota with its path and levels, an export with its path and mapping, or with its
clients in their order, and a snapshot with its path and name. That is what the requests say in
which it is sent. -/
theorem bodies_read_back (path user : String) (group name : Option String) (clients : List String)
    (t : QuotaThresholds) :
    (∃ quota : Quota,
      quota = { Quota.blank with
        path, type := .directory, enforced := true,
        thresholds := { Thresholds.blank with
          advisory := t.advisory, soft := t.soft, hard := t.hard } } ∧
      Quota.reader.decode (Quota.creation path t).text = .ok quota ∧
      ∀ c : Connection, (c.setQuota path t).Sends (IsReadAs Quota.reader quota)) ∧
    (∃ created : Export,
      created = { Export.blank with
        paths := [path], mapAll := some (UserMapping.toUser user group) } ∧
      Export.reader.decode (Export.creationV2 path user group).text = .ok created ∧
      ∀ c : Connection, c.version = .v2 → c.username = user → c.group = group →
        (c.createExport path).Sends (IsReadAs Export.reader created)) ∧
    (∃ restricted : Export,
      restricted = { Export.blank with clients := some clients } ∧
      restricted.allowed = clients ∧
      Export.reader.decode (Export.restriction clients).text = .ok restricted ∧
      ∀ (c : Connection) (id : Int64),
        (c.setExportClients id clients).Sends (IsReadAs Export.reader restricted)) ∧
    ∃ snapshot : Snapshot,
      snapshot = { Snapshot.blank with path, name := name.getD "" } ∧
      Snapshot.reader.decode (Snapshot.creation path name).text = .ok snapshot ∧
      ∀ c : Connection, (c.createSnapshot path name).Sends (IsReadAs Snapshot.reader snapshot) := by
  refine ⟨⟨_, rfl, Quota.decode_creation path t, fun c => ?quota⟩,
    ⟨_, rfl, Export.decode_creationV2 path user group, fun c version username owner => ?created⟩,
    ⟨_, rfl, rfl, Export.decode_restriction clients, fun c id => ?restricted⟩,
    ⟨_, rfl, Snapshot.decode_creation path name, fun c => ?snapshot⟩⟩
  case quota =>
    have sends := (c.execute_sends
      ⟨"POST", c.version.quotasPath, none, [], [], some (Quota.creation path t)⟩).mono
      fun r sent => Connection.isReadAs_of_requestFor sent rfl (Quota.decode_creation path t)
    exact .bind (.require _ _) fun _ => .bind sends fun _ => .note _
  case created =>
    have body : c.exportBody path = Export.creationV2 path user group := by
      unfold Connection.exportBody
      rw [version, username, owner]
    have read : Export.reader.decode (c.exportBody path).text = _ :=
      body ▸ Export.decode_creationV2 path user group
    have sends := (c.query_sends
      ⟨"POST", c.version.exportsPath, none, [], [], some (c.exportBody path)⟩ Export.createdId).mono
      fun r sent => Connection.isReadAs_of_requestFor sent rfl read
    exact .bind (.require _ _) fun _ => .bind sends fun _ => .bind (.ofOption _ _) fun _ =>
      .bind (.note _) fun _ => .done _
  case restricted =>
    have sends := (c.execute_sends ⟨"PUT", c.version.exportsPath, some (toString id), [], [],
      some (Export.restriction clients)⟩).mono
      fun r sent => Connection.isReadAs_of_requestFor sent rfl (Export.decode_restriction clients)
    exact .bind (.require _ _) fun _ => sends
  case snapshot =>
    have sends := (c.query_sends ⟨"POST", c.version.snapshotsPath, none, [], [],
      some (Snapshot.creation path name)⟩ Snapshot.reader).mono
      fun r sent => Connection.isReadAs_of_requestFor sent rfl (Snapshot.decode_creation path name)
    exact .bind (.require _ _) fun _ => .bind sends fun _ => .bind (.ofOption _ _) fun _ =>
      .bind (.note _) fun _ => .done _

/-- A connection in version 2 of someone who has a group. -/
def staffConnection : Connection :=
  { localConnection with version := .v2, group := some "staff" }

/-- Whoever has a group publishes a path with a mapping to both. -/
theorem bodies_read_back_group :
    ∃ r ∈ requests ((staffConnection.createExport "/ifs/a").run (replies .closed) []).steps,
      IsReadAs Export.reader { Export.blank with
        paths := ["/ifs/a"], mapAll := some (UserMapping.toUser "admin" (some "staff")) } r := by
  have sent : (requests ((staffConnection.createExport "/ifs/a").run
      (replies .closed) []).steps).length = 1 := by
    decide +kernel
  obtain ⟨r, only⟩ := List.length_eq_one_iff.mp sent
  have member := only ▸ List.mem_singleton_self r
  obtain ⟨-, ⟨created, rfl, -, sends⟩, -⟩ :=
    bodies_read_back "/ifs/a" "admin" (some "staff") none [] .blank
  exact ⟨r, member, sends staffConnection rfl rfl rfl _ _ _ r member⟩

end OneFs
