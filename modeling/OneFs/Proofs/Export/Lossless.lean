import OneFs.Export
import OneFs.Proofs.Json.Text
import OneFs.Proofs.Persona

/-!
# Export records written and read again

What a record of exports is after it was written as a value and read again. All of it is kept but
for its ambiguous personas, which come back typed.

- `UserMapping.reads_encode`, `Export.reads_encode`, `ExportList.reads_encode`: a record as written
  is read as the record with each persona reread;
- `UserMapping.reread_eq_iff`, `Export.reread_eq_iff`, `ExportList.reread_eq_iff`: that is the
  record itself unless it has an ambiguous persona;
- `exports_lossless_iff`: the two together, for whatever a text holds.
-/

namespace OneFs

open Json

/-! ## Lists and options of rewritten parts -/

theorem map_eq_self_iff {α : Type} {f : α → α} {as : List α} :
    as.map f = as ↔ ∀ a ∈ as, f a = a := by
  induction as with
  | nil => simp
  | cons a rest ih => rw [List.map_cons, List.cons_eq_cons, List.forall_mem_cons, ih]

theorem tidy_optionalMember {α : Type} {name : String} {encode : α → Value} {o : Option α}
    (h : ∀ a, o = some a → (encode a).Tidy) :
    ∀ m ∈ optionalMember name encode o, m.2.Tidy := by
  cases o with
  | none => exact fun _ hm => absurd hm List.not_mem_nil
  | some a =>
    intro m hm
    cases List.mem_singleton.mp hm
    exact h a rfl

theorem key_optionalMember {α : Type} {name : String} {encode : α → Value} {o : Option α} :
    ∀ m ∈ optionalMember name encode o, m.1 = name := by
  cases o with
  | none => exact fun _ hm => absurd hm List.not_mem_nil
  | some a =>
    intro m hm
    cases List.mem_singleton.mp hm
    rfl

theorem tidy_ofTexts (ss : List String) : (Value.ofTexts ss).Tidy :=
  Value.tidy_list fun _ _ => trivial

theorem tidy_personas (ps : List Persona) : (Value.arr (ps.map Persona.encode)).Tidy :=
  Value.tidy_list fun _ _ => trivial

/-! ## Mappings -/

namespace UserMapping

/-- The keys of the fields. -/
abbrev keys : List String :=
  fields.declared.map Field.name

/-- All personas of a mapping. -/
def personas (m : UserMapping) : List Persona :=
  m.user.toList ++ m.primaryGroup.toList ++ m.secondaryGroups.getD []

/-- The mapping with each persona as it is read back. -/
def reread (m : UserMapping) : UserMapping :=
  { m with
    user := m.user.map Persona.reread
    primaryGroup := m.primaryGroup.map Persona.reread
    secondaryGroups := m.secondaryGroups.map (List.map Persona.reread) }

theorem tidy_declared (m : UserMapping) : ∀ x ∈ m.declared, x.2.Tidy := by
  simp only [declared, List.forall_mem_append]
  refine ⟨⟨⟨?_, ?_⟩, ?_⟩, tidy_optionalMember fun ps _ => tidy_personas ps⟩ <;>
    exact tidy_optionalMember fun _ _ => trivial

/-- What the mapping keeps on the side is as it should be. -/
def Tidy (m : UserMapping) : Prop :=
  Undeclared keys m.extra

/-- Whatever a mapping is read from, it is tidy. -/
theorem tidy_value (d : Doc) : (reader.value d).Tidy := by
  show Undeclared keys (membersOf fields.declared d).others
  exact undeclared_others fields.declared d

theorem Tidy.members {m : UserMapping} (h : m.Tidy) : ∀ x ∈ m.members, x.2.Tidy :=
  List.forall_mem_append.mpr ⟨m.tidy_declared, h.tidy⟩

theorem Tidy.encode {m : UserMapping} (h : m.Tidy) : m.encode.Tidy :=
  Value.tidy_object h.members

/-- A mapping as written is read with each persona reread. -/
theorem reads_encode {m : UserMapping} (h : m.Tidy) : reader.Reads m.encode m.reread := by
  have find : ∀ name ∈ keys, lookup name (sorted m.members) = lookup name m.declared.reverse :=
    fun name hname => lookup_sorted_declared h hname
  have hkeys : ∀ x ∈ m.declared, x.1 ∈ keys := by
    simp only [declared, List.forall_mem_append]
    refine ⟨⟨⟨?_, ?_⟩, ?_⟩, ?_⟩ <;> intro x hx <;> rw [key_optionalMember x hx] <;> decide
  have hextra : ((sorted m.members).filter fun x => (findField x.1 fields.declared).isNone) =
      m.extra := undeclared_filter_sorted h hkeys
  have henabled := find "enabled" (by decide)
  have huser := find "user" (by decide)
  have hprimary := find "primary_group" (by decide)
  have hsecondary := find "secondary_groups" (by decide)
  simp [declared, lookup_append, lookup_optionalMember] at henabled huser hprimary hsecondary
  refine reads_object h.members ?_
  rw [hextra]
  refine Fields.accepts_seq (Fields.accepts_seq (Fields.accepts_seq (Fields.accepts_seq
    (Fields.accepts_map ?enabled) ?user) ?primaryGroup) ?secondaryGroups)
    Fields.accepts_otherMembers
  case enabled =>
    exact Fields.accepts_optional_self henabled fun b => ⟨nofun, Reader.reads_boolean b⟩
  case user => exact Fields.accepts_optional huser fun p _ => ⟨nofun, p.reads_encode⟩
  case primaryGroup => exact Fields.accepts_optional hprimary fun p _ => ⟨nofun, p.reads_encode⟩
  case secondaryGroups =>
    exact Fields.accepts_optional hsecondary fun ps _ =>
      ⟨nofun, Reader.reads_list fun p _ => p.reads_encode⟩

/-- A mapping comes back as it was unless one of its personas is ambiguous. -/
theorem reread_eq_iff (m : UserMapping) : m.reread = m ↔ ∀ p ∈ m.personas, ¬ p.Ambiguous := by
  obtain ⟨enabled, user, primary, secondary, extra⟩ := m
  cases user <;> cases primary <;> cases secondary <;>
    simp [reread, personas, map_eq_self_iff, Persona.reread_eq_iff]

end UserMapping

/-! ## Exports -/

namespace Export

/-- The keys of the fields. -/
abbrev keys : List String :=
  fields.declared.map Field.name

/-- The mappings of an export. -/
def mappings (e : Export) : List UserMapping :=
  e.mapAll.toList ++ e.mapRoot.toList

/-- All personas of an export. -/
def personas (e : Export) : List Persona :=
  e.mappings.flatMap UserMapping.personas

/-- The export with each persona as it is read back. -/
def reread (e : Export) : Export :=
  { e with mapAll := e.mapAll.map UserMapping.reread, mapRoot := e.mapRoot.map UserMapping.reread }

/-- What the export and its mappings keep on the side is as it should be. -/
structure Tidy (e : Export) : Prop where
  extra : Undeclared keys e.extra
  mappings : ∀ m ∈ e.mappings, m.Tidy

/-- Whatever an export is read from, it is tidy. -/
theorem tidy_value (d : Doc) : (reader.value d).Tidy where
  extra := by
    show Undeclared keys (membersOf fields.declared d).others
    exact undeclared_others fields.declared d
  mappings m hm := by
    have hsome : ∀ name, m ∈ (field? name UserMapping.reader).build (membersOf fields.declared d) →
        m.Tidy := fun name h => by
      obtain ⟨d, rfl⟩ := Fields.exists_of_optional h
      exact UserMapping.tidy_value d
    rcases List.mem_append.mp hm with hm | hm
    · exact hsome "map_all" (Option.mem_toList.mp hm)
    · exact hsome "map_root" (Option.mem_toList.mp hm)

theorem Tidy.mapAll {e : Export} (h : e.Tidy) : ∀ m, e.mapAll = some m → m.Tidy :=
  fun m hm => h.mappings m (List.mem_append_left _ (Option.mem_toList.mpr hm))

theorem Tidy.mapRoot {e : Export} (h : e.Tidy) : ∀ m, e.mapRoot = some m → m.Tidy :=
  fun m hm => h.mappings m (List.mem_append_right _ (Option.mem_toList.mpr hm))

theorem Tidy.declared {e : Export} (h : e.Tidy) : ∀ x ∈ e.declared, x.2.Tidy := by
  have texts : ∀ (name : String) (o : Option (List String)),
      ∀ x ∈ optionalMember name .ofTexts o, x.2.Tidy :=
    fun _ _ => tidy_optionalMember fun ss _ => tidy_ofTexts ss
  simp only [Export.declared, List.forall_mem_append]
  refine ⟨⟨⟨⟨⟨⟨⟨⟨⟨?_, texts _ _⟩, texts _ _⟩, texts _ _⟩, texts _ _⟩, ?_⟩, ?_⟩, ?_⟩,
    tidy_optionalMember fun m hm => (h.mapAll m hm).encode⟩,
    tidy_optionalMember fun m hm => (h.mapRoot m hm).encode⟩
  · simp only [List.forall_mem_cons]
    exact ⟨trivial, tidy_ofTexts e.paths, fun _ hx => absurd hx List.not_mem_nil⟩
  all_goals exact tidy_optionalMember fun _ _ => trivial

theorem Tidy.members {e : Export} (h : e.Tidy) : ∀ x ∈ e.members, x.2.Tidy :=
  List.forall_mem_append.mpr ⟨h.declared, h.extra.tidy⟩

theorem Tidy.encode {e : Export} (h : e.Tidy) : e.encode.Tidy :=
  Value.tidy_object h.members

theorem key_declared (e : Export) : ∀ x ∈ e.declared, x.1 ∈ keys := by
  simp only [declared, List.forall_mem_append]
  refine ⟨⟨⟨⟨⟨⟨⟨⟨⟨?_, ?_⟩, ?_⟩, ?_⟩, ?_⟩, ?_⟩, ?_⟩, ?_⟩, ?_⟩, ?_⟩
  · simp only [List.forall_mem_cons]
    exact ⟨by decide, by decide, fun _ hx => absurd hx List.not_mem_nil⟩
  all_goals
    intro x hx
    rw [key_optionalMember x hx]
    decide

/-- An export as written is read with each persona reread. -/
theorem reads_encode {e : Export} (h : e.Tidy) : reader.Reads e.encode e.reread := by
  have find : ∀ name ∈ keys, lookup name (sorted e.members) = lookup name e.declared.reverse :=
    fun name hname => lookup_sorted_declared h.extra hname
  have hextra : ((sorted e.members).filter fun x => (findField x.1 fields.declared).isNone) =
      e.extra := undeclared_filter_sorted h.extra e.key_declared
  -- Each declared field finds its own member, however the others are ordered.
  have hid := find "id" (by decide)
  have hpaths := find "paths" (by decide)
  have hclients := find "clients" (by decide)
  have hroot := find "root_clients" (by decide)
  have hro := find "read_only_clients" (by decide)
  have hrw := find "read_write_clients" (by decide)
  have hreadOnly := find "read_only" (by decide)
  have hdescription := find "description" (by decide)
  have hzone := find "zone" (by decide)
  have hmapAll := find "map_all" (by decide)
  have hmapRoot := find "map_root" (by decide)
  simp [declared, lookup_append, lookup_cons, lookup_optionalMember] at hid hpaths hclients hroot
  simp [declared, lookup_append, lookup_cons, lookup_optionalMember] at hro hrw hreadOnly
  simp [declared, lookup_append, lookup_cons, lookup_optionalMember] at hdescription hzone
  simp [declared, lookup_append, lookup_cons, lookup_optionalMember] at hmapAll hmapRoot
  have texts {name : String} {o : Option (List String)}
      (hfind : lookup name (sorted e.members) = o.map .ofTexts) :
      (field? name (list string)).Accepts (fun name => lookup name (sorted e.members)) e.extra o :=
    Fields.accepts_optional_self hfind fun ss => ⟨nofun, Reader.reads_texts ss⟩
  refine reads_object h.members ?_
  rw [hextra]
  refine Fields.accepts_seq (Fields.accepts_seq (Fields.accepts_seq (Fields.accepts_seq
    (Fields.accepts_seq (Fields.accepts_seq (Fields.accepts_seq (Fields.accepts_seq
    (Fields.accepts_seq (Fields.accepts_seq (Fields.accepts_seq
    (Fields.accepts_map ?id) ?paths) ?clients) ?root) ?ro) ?rw) ?readOnly) ?description) ?zone)
    ?mapAll) ?mapRoot) Fields.accepts_otherMembers
  case id =>
    exact Fields.accepts_fieldD hid
      (fun v hv => by cases hv; exact Reader.reads_int64 e.id) (fun hn => by cases hn)
  case paths =>
    exact Fields.accepts_fieldD hpaths
      (fun v hv => by cases hv; exact Reader.reads_texts e.paths) (fun hn => by cases hn)
  case clients => exact texts hclients
  case root => exact texts hroot
  case ro => exact texts hro
  case rw => exact texts hrw
  case readOnly =>
    exact Fields.accepts_optional_self hreadOnly fun b => ⟨nofun, Reader.reads_boolean b⟩
  case description =>
    exact Fields.accepts_optional_self hdescription fun s => ⟨nofun, Reader.reads_string s⟩
  case zone => exact Fields.accepts_optional_self hzone fun s => ⟨nofun, Reader.reads_string s⟩
  case mapAll =>
    exact Fields.accepts_optional hmapAll fun m hm =>
      ⟨nofun, UserMapping.reads_encode (h.mapAll m hm)⟩
  case mapRoot =>
    exact Fields.accepts_optional hmapRoot fun m hm =>
      ⟨nofun, UserMapping.reads_encode (h.mapRoot m hm)⟩

/-- An export comes back as it was unless one of its personas is ambiguous. -/
theorem reread_eq_iff (e : Export) : e.reread = e ↔ ∀ p ∈ e.personas, ¬ p.Ambiguous := by
  have hmappings : e.reread = e ↔ ∀ m ∈ e.mappings, m.reread = m := by
    obtain ⟨_, _, _, _, _, _, _, _, _, mapAll, mapRoot, _⟩ := e
    cases mapAll <;> cases mapRoot <;> simp [reread, mappings]
  rw [hmappings]
  simp only [personas, List.mem_flatMap, UserMapping.reread_eq_iff]
  exact ⟨fun h p ⟨m, hm, hp⟩ => h m hm p hp, fun h m hm p hp => h p ⟨m, hm, hp⟩⟩

end Export

/-! ## Listings -/

namespace ExportList

/-- The keys of the fields. -/
abbrev keys : List String :=
  fields.declared.map Field.name

/-- All personas of a listing. -/
def personas (l : ExportList) : List Persona :=
  l.exports.flatMap Export.personas

/-- The listing with each persona as it is read back. -/
def reread (l : ExportList) : ExportList :=
  { l with exports := l.exports.map Export.reread }

/-- What the listing and its exports keep on the side is as it should be. -/
structure Tidy (l : ExportList) : Prop where
  extra : Undeclared keys l.extra
  exports : ∀ e ∈ l.exports, e.Tidy

/-- Whatever a listing is read from, it is tidy. -/
theorem tidy_value (d : Doc) : (reader.value d).Tidy where
  extra := by
    show Undeclared keys (membersOf fields.declared d).others
    exact undeclared_others fields.declared d
  exports e he := by
    obtain ⟨d, rfl⟩ := Fields.exists_of_list (m := membersOf fields.declared d) he
    exact Export.tidy_value d

/-- A listing as written is read with each persona reread. -/
theorem reads_encode {l : ExportList} (h : l.Tidy) : reader.Reads l.encode l.reread := by
  have htidy : ∀ x ∈ l.declared ++ l.extra, x.2.Tidy := by
    refine List.forall_mem_append.mpr ⟨fun x hx => ?_, h.extra.tidy⟩
    cases List.mem_singleton.mp hx
    exact Value.tidy_list fun e he => (h.exports e he).encode
  have hkeys : ∀ x ∈ l.declared, x.1 ∈ keys := by
    intro x hx
    cases List.mem_singleton.mp hx
    show "exports" ∈ keys
    decide
  have hextra : ((sorted (l.declared ++ l.extra)).filter fun x =>
      (findField x.1 fields.declared).isNone) = l.extra := undeclared_filter_sorted h.extra hkeys
  have hexports : lookup "exports" (sorted (l.declared ++ l.extra)) =
      some (.arr (l.exports.map Export.encode)) :=
    lookup_sorted_declared h.extra (by decide)
  refine reads_object htidy ?_
  rw [hextra]
  refine Fields.accepts_seq (Fields.accepts_map ?exports) Fields.accepts_otherMembers
  case exports =>
    refine Fields.accepts_fieldD hexports (fun v hv => ?_) (fun hn => by cases hn)
    cases hv
    exact Reader.reads_list fun e he => Export.reads_encode (h.exports e he)

/-- A listing comes back as it was unless one of its personas is ambiguous. -/
theorem reread_eq_iff (l : ExportList) : l.reread = l ↔ ∀ p ∈ l.personas, ¬ p.Ambiguous := by
  have hexports : l.reread = l ↔ ∀ e ∈ l.exports, e.reread = e := by
    obtain ⟨exports, _⟩ := l
    simp [reread, map_eq_self_iff]
  rw [hexports]
  simp only [personas, List.mem_flatMap, Export.reread_eq_iff]
  exact ⟨fun h p ⟨e, he, hp⟩ => h e he p hp, fun h e he p hp => h p ⟨e, he, hp⟩⟩

end ExportList

/-! ## Losslessness -/

/-- **What is lost by writing a record back.** A mapping, an export or a listing that some text
holds is always read back after it was written as a value, and it is then the same unless one of
its personas is ambiguous. -/
theorem exports_lossless_iff :
    (∀ text m, UserMapping.reader.decode text = .ok m →
      ∃ m', UserMapping.reader.read m.encode.doc = .ok m' ∧
        (m' = m ↔ ∀ p ∈ m.personas, ¬ p.Ambiguous)) ∧
    (∀ text e, Export.reader.decode text = .ok e →
      ∃ e', Export.reader.read e.encode.doc = .ok e' ∧
        (e' = e ↔ ∀ p ∈ e.personas, ¬ p.Ambiguous)) ∧
    (∀ text l, ExportList.reader.decode text = .ok l →
      ∃ l', ExportList.reader.read l.encode.doc = .ok l' ∧
        (l' = l ↔ ∀ p ∈ l.personas, ¬ p.Ambiguous)) := by
  refine ⟨fun text m h => ?_, fun text e h => ?_, fun text l h => ?_⟩
  · obtain ⟨d, rfl⟩ := Reader.exists_of_decode h
    exact ⟨_, (UserMapping.reads_encode (UserMapping.tidy_value d)).read_eq,
      UserMapping.reread_eq_iff _⟩
  · obtain ⟨d, rfl⟩ := Reader.exists_of_decode h
    exact ⟨_, (Export.reads_encode (Export.tidy_value d)).read_eq, Export.reread_eq_iff _⟩
  · obtain ⟨d, rfl⟩ := Reader.exists_of_decode h
    exact ⟨_, (ExportList.reads_encode (ExportList.tidy_value d)).read_eq,
      ExportList.reread_eq_iff _⟩

/-- A listing with a user whose name looks like a typed text. -/
def uidLikeName : String :=
  "\x7b\"exports\":[\x7b\"map_all\":\x7b\"user\":\x7b\"name\":\"Uid:7\"\x7d\x7d," ++
    "\"x\":[null]\x7d],\"total\":1\x7d"

/-- The user comes back typed. -/
theorem lossy_uidLikeName :
    ∃ l l', ExportList.reader.decode uidLikeName = .ok l ∧
      ExportList.reader.read l.encode.doc = .ok l' ∧ l' ≠ l := by
  have h : ExportList.reader.decode uidLikeName =
      .ok ⟨[{ Export.blank with
        mapAll := some { UserMapping.blank with user := some ⟨"Uid:7", none⟩ }
        extra := [("x", .arr [.null])] }], [("total", .int 1)]⟩ := by
    have text : uidLikeName = Value.text (.obj [("exports", .arr [.obj [("map_all",
        .obj [("user", .obj [("name", .str "Uid:7")])]), ("x", .arr [.null])]]),
        ("total", .int 1)]) := by
      decide
    rw [text]
    have fits : fitsNumber 1 := ⟨by decide, by decide⟩
    refine Reader.Reads.decode_text ⟨rfl, rfl⟩ ?_
    simp [Value.Legible, Value.ItemsLegible, Value.MembersLegible, Value.int, nestingLimit, fits]
  obtain ⟨l', hread, hiff⟩ := exports_lossless_iff.2.2 _ _ h
  refine ⟨_, l', h, hread, fun heq => ?_⟩
  exact hiff.mp heq ⟨"Uid:7", none⟩ List.mem_cons_self ⟨rfl, "Uid", "7", by decide, by decide⟩

end OneFs
