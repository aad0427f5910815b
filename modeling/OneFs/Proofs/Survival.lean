import OneFs.Proofs.Export.Lossless
import OneFs.Proofs.Json.Unknown
import OneFs.Snapshot

/-!
# Unknown members survive

A cluster reports more about exports, quotas and snapshots than their records declare. What they do
not declare they keep, and write back unchanged, at every depth.

- `UserMapping.Keeps`, `Export.Keeps`, `ExportList.Keeps`, `Thresholds.Keeps`, `Quota.Keeps`,
  `Snapshot.Keeps`: a record does right by the document that it is read from, and so do the
  records in it;
- `unknown_members_survive`: whatever text they are read from.
-/

namespace OneFs

open Json

variable {α : Type}

theorem mem_names_of_keys {names : List String} {ms : List (String × Value)}
    (h : ms.map Prod.fst ⊆ names) : ∀ m ∈ ms, m.1 ∈ names :=
  fun _ hm => h (List.mem_map_of_mem hm)

theorem mem_names_optional {names : List String} {name : String} {encode : α → Value}
    {o : Option α} (h : name ∈ names) : ∀ m ∈ optionalMember name encode o, m.1 ∈ names :=
  fun m hm => key_optionalMember m hm ▸ h

/-- A declared member is written under its key. -/
theorem member?_written {names : List String} {declared extra : List (String × Value)}
    (foreign : ∀ m ∈ extra, m.1 ∉ names) {name : String} (hname : name ∈ names) :
    (Value.object (declared ++ extra)).member? name = lookup name declared.reverse := by
  have absent : lookup name extra.reverse = none := lookup_eq_none_iff.mpr fun m hm heq =>
    foreign m (List.mem_reverse.mp hm) (heq ▸ hname)
  show lookup name (sorted (declared ++ extra)) = _
  rw [lookup_sorted, List.reverse_append, lookup_append, absent, Option.none_or]

/-! ## Mappings -/

namespace UserMapping

/-- The declared keys of mappings. -/
def names : List String :=
  ["enabled", "user", "primary_group", "secondary_groups"]

/-- The mapping does right by the document `d`. -/
def Keeps (d : Doc) (m : UserMapping) : Prop :=
  KeepsUnknown names d m.extra m.encode

theorem keeps_value {d : Doc} (accepted : reader.fault d = none) : Keeps d (reader.value d) := by
  refine keepsUnknown_record accepted rfl ?_
  show ∀ m ∈ (reader.value d).declared, m.1 ∈ names
  simp only [declared, List.forall_mem_append]
  exact ⟨⟨⟨mem_names_optional (by decide), mem_names_optional (by decide)⟩,
    mem_names_optional (by decide)⟩, mem_names_optional (by decide)⟩

theorem whole_reader : reader.Whole :=
  whole_record <| .seq (.seq (.seq (.seq (.map _ (Fields.wholeBut_field? Reader.whole_boolean))
    (Fields.wholeBut_field? Reader.whole_anything.checked))
    (Fields.wholeBut_field? Reader.whole_anything.checked))
    (Fields.wholeBut_field? Reader.whole_anything.checked.list)) Fields.wholeBut_otherMembers

end UserMapping

/-! ## Exports -/

namespace Export

/-- The declared keys of exports. -/
def names : List String :=
  ["id", "paths", "clients", "root_clients", "read_only_clients", "read_write_clients", "read_only",
    "description", "zone", "map_all", "map_root"]

/-- The export and its mappings do right by the document `d`. -/
structure Keeps (d : Doc) (e : Export) : Prop where
  unknown : KeepsUnknown names d e.extra e.encode
  mapAll : OptionalKept UserMapping.Keeps (lastOf "map_all" d.members) e.mapAll
  mapRoot : OptionalKept UserMapping.Keeps (lastOf "map_root" d.members) e.mapRoot
  writtenAll : e.encode.member? "map_all" = e.mapAll.map UserMapping.encode
  writtenRoot : e.encode.member? "map_root" = e.mapRoot.map UserMapping.encode

/-- The mappings are written under their keys. -/
theorem member?_mappings {e : Export} (foreign : ∀ m ∈ e.extra, m.1 ∉ names) :
    e.encode.member? "map_all" = e.mapAll.map UserMapping.encode ∧
      e.encode.member? "map_root" = e.mapRoot.map UserMapping.encode := by
  have all : e.encode.member? "map_all" = lookup "map_all" e.declared.reverse :=
    member?_written foreign (by decide)
  have root : e.encode.member? "map_root" = lookup "map_root" e.declared.reverse :=
    member?_written foreign (by decide)
  rw [all, root]
  simp [declared, lookup_append, lookup_cons, lookup_optionalMember]

theorem keeps_value {d : Doc} (accepted : reader.fault d = none) : Keeps d (reader.value d) := by
  have unknown : KeepsUnknown names d (reader.value d).extra (reader.value d).encode :=
    keepsUnknown_record accepted rfl (key_declared _)
  have written := member?_mappings unknown.foreign
  exact ⟨unknown, optionalKept_field accepted rfl fun _ => UserMapping.keeps_value,
    optionalKept_field accepted rfl fun _ => UserMapping.keeps_value, written.1, written.2⟩

theorem whole_reader : reader.Whole :=
  whole_record <| (Fields.wholeBut_fieldD 0 Reader.whole_int64).map Export.mk
    |>.seq (Fields.wholeBut_fieldD [] Reader.whole_string.list)
    |>.seq (Fields.wholeBut_field? Reader.whole_string.list)
    |>.seq (Fields.wholeBut_field? Reader.whole_string.list)
    |>.seq (Fields.wholeBut_field? Reader.whole_string.list)
    |>.seq (Fields.wholeBut_field? Reader.whole_string.list)
    |>.seq (Fields.wholeBut_field? Reader.whole_boolean)
    |>.seq (Fields.wholeBut_field? Reader.whole_string)
    |>.seq (Fields.wholeBut_field? Reader.whole_string)
    |>.seq (Fields.wholeBut_field? UserMapping.whole_reader)
    |>.seq (Fields.wholeBut_field? UserMapping.whole_reader)
    |>.seq Fields.wholeBut_otherMembers

end Export

/-! ## Listings of exports -/

namespace ExportList

/-- The declared key of listings. -/
def names : List String :=
  ["exports"]

/-- The listing and its exports do right by the document `d`. -/
structure Keeps (d : Doc) (l : ExportList) : Prop where
  unknown : KeepsUnknown names d l.extra l.encode
  exports : DefaultKept (fun list es => ∃ items, list = .arr items none ∧
    List.Forall₂ Export.Keeps items es) [] (lastOf "exports" d.members) l.exports
  written : l.encode.member? "exports" = some (.arr (l.exports.map Export.encode))

theorem keeps_value {d : Doc} (accepted : reader.fault d = none) : Keeps d (reader.value d) := by
  have unknown : KeepsUnknown names d (reader.value d).extra (reader.value d).encode :=
    keepsUnknown_record accepted rfl (mem_names_of_keys (List.Subset.refl names))
  refine ⟨unknown, defaultKept_field accepted rfl fun inner fine => ?_,
    member?_written unknown.foreign (by decide)⟩
  obtain ⟨items, rfl, read, value⟩ := items_of_list fine
  refine ⟨items, rfl, ?_⟩
  rw [value, List.forall₂_map_right_iff, List.forall₂_same]
  exact fun item hitem => Export.keeps_value (read item hitem)

theorem whole_reader : reader.Whole :=
  whole_record <| (Fields.wholeBut_fieldD [] Export.whole_reader.list).map ExportList.mk
    |>.seq Fields.wholeBut_otherMembers

end ExportList

/-! ## Quotas -/

namespace Thresholds

/-- The declared keys of reported levels. -/
def names : List String :=
  ["advisory", "advisory_exceeded", "advisory_last_exceeded", "soft", "soft_exceeded",
    "soft_last_exceeded", "hard", "hard_exceeded", "hard_last_exceeded"]

/-- The levels do right by the document `d`. -/
def Keeps (d : Doc) (t : Thresholds) : Prop :=
  KeepsUnknown names d t.extra t.encode

theorem keeps_value {d : Doc} (accepted : reader.fault d = none) : Keeps d (reader.value d) :=
  keepsUnknown_record accepted rfl (mem_names_of_keys (List.Subset.refl _))

theorem whole_reader : reader.Whole :=
  whole_record <| (Fields.wholeBut_field? Reader.whole_int64).map Thresholds.mk
    |>.seq (Fields.wholeBut_fieldD false Reader.whole_boolean)
    |>.seq (Fields.wholeBut_field? Reader.whole_anything)
    |>.seq (Fields.wholeBut_field? Reader.whole_int64)
    |>.seq (Fields.wholeBut_fieldD false Reader.whole_boolean)
    |>.seq (Fields.wholeBut_field? Reader.whole_anything)
    |>.seq (Fields.wholeBut_field? Reader.whole_int64)
    |>.seq (Fields.wholeBut_fieldD false Reader.whole_boolean)
    |>.seq (Fields.wholeBut_field? Reader.whole_anything)
    |>.seq Fields.wholeBut_otherMembers

end Thresholds

/-- The declared keys of usages. -/
def QuotaUsage.names : List String :=
  ["inodes", "logical", "physical"]

/-- A usage keeps nothing on the side: it is written with its declared keys and no others. -/
theorem QuotaUsage.keys_encode (u : QuotaUsage) :
    ∃ out, u.encode = .obj out ∧ out.map Prod.fst = names := by
  refine ⟨_, rfl, ?_⟩
  rw [sorted_of_ascending]
  · rfl
  · exact List.pairwise_map.mp (show names.Pairwise (· < ·) by decide)

namespace Quota

/-- The declared keys of quotas. -/
def names : List String :=
  ["id", "path", "type", "enforced", "container", "include_snapshots", "thresholds",
    "thresholds_include_overhead", "usage", "ready", "notifications", "linked", "persona"]

/-- The quota and its levels do right by the document `d`. Its usage has nothing on the side. -/
structure Keeps (d : Doc) (q : Quota) : Prop where
  unknown : KeepsUnknown names d q.extra q.encode
  thresholds : DefaultKept Thresholds.Keeps .blank (lastOf "thresholds" d.members) q.thresholds
  writtenThresholds : q.encode.member? "thresholds" = some q.thresholds.encode
  writtenUsage : ∃ out, q.encode.member? "usage" = some (.obj out) ∧
    out.map Prod.fst = QuotaUsage.names

/-- The members of the fields of a quota, in their order. -/
def declared (q : Quota) : List (String × Value) :=
  [("id", .str q.id), ("path", .str q.path), ("type", q.type.encode),
    ("enforced", .bool q.enforced), ("container", .bool q.container),
    ("include_snapshots", .bool q.includeSnapshots), ("thresholds", q.thresholds.encode),
    ("thresholds_include_overhead", .bool q.thresholdsIncludeOverhead),
    ("usage", q.usage.encode), ("ready", .bool q.ready)] ++
  optionalMember "notifications" .str q.notifications ++
  optionalMember "linked" (fun v => v) q.linked ++
  optionalMember "persona" (fun v => v) q.persona

theorem key_declared (q : Quota) : ∀ m ∈ q.declared, m.1 ∈ names := by
  simp only [declared, List.forall_mem_append]
  exact ⟨⟨⟨mem_names_of_keys (List.take_subset 10 names), mem_names_optional (by decide)⟩,
    mem_names_optional (by decide)⟩, mem_names_optional (by decide)⟩

/-- The levels and the usage are written under their keys. -/
theorem member?_records {q : Quota} (foreign : ∀ m ∈ q.extra, m.1 ∉ names) :
    q.encode.member? "thresholds" = some q.thresholds.encode ∧
      q.encode.member? "usage" = some q.usage.encode := by
  have levels : q.encode.member? "thresholds" = lookup "thresholds" q.declared.reverse :=
    member?_written foreign (by decide)
  have usage : q.encode.member? "usage" = lookup "usage" q.declared.reverse :=
    member?_written foreign (by decide)
  rw [levels, usage]
  simp [declared, lookup_append, lookup_cons, lookup_optionalMember]

theorem keeps_value {d : Doc} (accepted : reader.fault d = none) : Keeps d (reader.value d) := by
  have unknown : KeepsUnknown names d (reader.value d).extra (reader.value d).encode :=
    keepsUnknown_record accepted rfl (key_declared (reader.value d))
  obtain ⟨levels, usage⟩ := member?_records unknown.foreign
  obtain ⟨out, encoded, keys⟩ := (reader.value d).usage.keys_encode
  rw [encoded] at usage
  exact ⟨unknown, defaultKept_field accepted rfl fun _ => Thresholds.keeps_value, levels,
    out, usage, keys⟩

/-- Every member of a quota can be read as a value, but for its usage: what that does not declare is
passed over. -/
theorem whole_members {d : Doc} (accepted : reader.fault d = none) :
    ∀ m ∈ d.members, m.1.key ∉ ["usage"] → m.2.valueFault = none := by
  refine member_whole ?_ accepted
  refine .seq ?_ Fields.wholeBut_otherMembers
  refine .seq (.seq ?_ (Fields.wholeBut_field? Reader.whole_anything))
    (Fields.wholeBut_field? Reader.whole_anything)
  refine .seq (.seq ?_ (Fields.wholeBut_fieldD _ Reader.whole_boolean))
    (Fields.wholeBut_field? Reader.whole_string)
  refine .seq ?_ (Fields.wholeBut_passed _ (List.mem_singleton_self "usage"))
  refine .seq (.seq ?_ (Fields.wholeBut_fieldD _ Thresholds.whole_reader))
    (Fields.wholeBut_fieldD _ Reader.whole_boolean)
  refine .seq (.seq (.seq ?_ (Fields.wholeBut_fieldD _ Reader.whole_boolean))
    (Fields.wholeBut_fieldD _ Reader.whole_boolean)) (Fields.wholeBut_fieldD _ Reader.whole_boolean)
  refine .seq (.seq ?_ (Fields.wholeBut_fieldD _ Reader.whole_string))
    (Fields.wholeBut_fieldD _ (Reader.whole_unitVariant _))
  exact .map _ (Fields.wholeBut_fieldD _ Reader.whole_string)

end Quota

/-! ## Snapshots -/

namespace Snapshot

/-- The declared keys of snapshots. -/
def names : List String :=
  ["id", "name", "path", "created", "expires", "state", "size", "has_locks", "pct_filesystem",
    "pct_reserve", "schedule", "shadow_bytes", "target_id", "target_name"]

/-- The snapshot does right by the document `d`. -/
def Keeps (d : Doc) (s : Snapshot) : Prop :=
  KeepsUnknown names d s.extra s.encode

theorem keeps_value {d : Doc} (accepted : reader.fault d = none) : Keeps d (reader.value d) :=
  keepsUnknown_record accepted rfl (mem_names_of_keys (List.Subset.refl names))

theorem whole_reader : reader.Whole :=
  whole_record <| (Fields.wholeBut_fieldD 0 Reader.whole_int64).map Snapshot.mk
    |>.seq (Fields.wholeBut_fieldD "" Reader.whole_string)
    |>.seq (Fields.wholeBut_fieldD "" Reader.whole_string)
    |>.seq (Fields.wholeBut_fieldD 0 Reader.whole_int64)
    |>.seq (Fields.wholeBut_field? Reader.whole_int64)
    |>.seq (Fields.wholeBut_fieldD "" Reader.whole_string)
    |>.seq (Fields.wholeBut_fieldD 0 Reader.whole_int64)
    |>.seq (Fields.wholeBut_fieldD false Reader.whole_boolean)
    |>.seq (Fields.wholeBut_fieldD 0.0 Reader.whole_double)
    |>.seq (Fields.wholeBut_fieldD 0.0 Reader.whole_double)
    |>.seq (Fields.wholeBut_field? Reader.whole_string)
    |>.seq (Fields.wholeBut_fieldD 0 Reader.whole_int64)
    |>.seq (Fields.wholeBut_field? Reader.whole_int64)
    |>.seq (Fields.wholeBut_field? Reader.whole_string)
    |>.seq Fields.wholeBut_otherMembers

end Snapshot

/-! ## Texts -/

/-- Whatever text a record is read from, the text can be read as a value, and the record does right
by the document that it is. -/
def Survive (keeps : Doc → α → Prop) (r : Reader α) : Prop :=
  ∀ text a, r.decode text = .ok a →
    keeps (scan text).1 a ∧ anything.decode text = .ok (scan text).1.value

/-- A text without a fault is read as what its document stands for. -/
theorem decode_anything {text : String} (fine : (scan text).1.valueFault = none)
    (after : (scan text).2 = none) : anything.decode text = .ok (scan text).1.value := by
  unfold Reader.decode
  dsimp only
  rw [show anything.fault (scan text).1 = none from fine, after]
  rfl

theorem Survive.of_whole {keeps : Doc → α → Prop} {r : Reader α} (whole : r.Whole)
    (h : ∀ {d}, r.fault d = none → keeps d (r.value d)) : Survive keeps r := by
  intro text a decoded
  obtain ⟨fine, after, rfl⟩ := fault_of_decode decoded
  exact ⟨h fine, decode_anything (whole _ fine) after⟩

/-- Unknown members survive. A text that is read as a mapping, an export, a listing of exports,
reported levels, a snapshot or a quota is an object, and can be read as a value. What the record
keeps on the side are the members that it does not declare, with the values that they have in that
value, and it is written with these members as they were; and so it is with the records in it. The
usage of a quota has no side to keep anything on: what it does not declare is passed over, so that
the text of a quota can be read as a value only if its usage can; every other member can. -/
theorem unknown_members_survive :
    Survive UserMapping.Keeps UserMapping.reader ∧ Survive Export.Keeps Export.reader ∧
    Survive ExportList.Keeps ExportList.reader ∧ Survive Thresholds.Keeps Thresholds.reader ∧
    Survive Snapshot.Keeps Snapshot.reader ∧
    ∀ text q, Quota.reader.decode text = .ok q →
      Quota.Keeps (scan text).1 q ∧
      ((∀ m ∈ (scan text).1.members, m.1.key = "usage" → m.2.valueFault = none) →
        anything.decode text = .ok (scan text).1.value) := by
  refine ⟨.of_whole UserMapping.whole_reader UserMapping.keeps_value,
    .of_whole Export.whole_reader Export.keeps_value,
    .of_whole ExportList.whole_reader ExportList.keeps_value,
    .of_whole Thresholds.whole_reader Thresholds.keeps_value,
    .of_whole Snapshot.whole_reader Snapshot.keeps_value, fun text q decoded => ?_⟩
  obtain ⟨fine, after, rfl⟩ := fault_of_decode decoded
  refine ⟨Quota.keeps_value fine, fun usage => decode_anything ?_ after⟩
  refine valueFault_of_members fine fun m hm => ?_
  by_cases key : m.1.key = "usage"
  · exact usage m hm key
  · exact Quota.whole_members fine m hm fun passed => key (List.mem_singleton.mp passed)

/-- An export with an unknown member, which stands there twice, and another one in a mapping. -/
def reportedExport : String :=
  "\x7b\"x\": 1, \"map_all\": \x7b\"y\": [2]\x7d, \"x\": \x7b\"z\": null\x7d\x7d"

theorem reportedExport_survives :
    ∃ e, Export.reader.decode reportedExport = .ok e ∧ Export.Keeps (scan reportedExport).1 e ∧
      (Value.obj e.extra).text = "\x7b\"x\":\x7b\"z\":null\x7d\x7d" ∧
      e.mapAll.map (fun m => (Value.obj m.extra).text) = some "\x7b\"y\":[2]\x7d" := by
  have extras : (Export.reader.decode reportedExport).toOption.map (fun e =>
      ((Value.obj e.extra).text, e.mapAll.map fun m => (Value.obj m.extra).text)) =
      some ("\x7b\"x\":\x7b\"z\":null\x7d\x7d", some "\x7b\"y\":[2]\x7d") := by
    decide +kernel
  cases decoded : Export.reader.decode reportedExport with
  | error fault => rw [decoded] at extras; cases extras
  | ok e =>
    rw [decoded] at extras
    obtain ⟨own, mapping⟩ := Prod.mk.inj (Option.some.inj extras)
    exact ⟨e, rfl, (unknown_members_survive.2.1 _ _ decoded).1, own, mapping⟩

end OneFs
