import OneFs.Proofs.Survival
import OneFs.Volume

/-!
# Volume records written and read again

- `VolumeAttribute.reads_encode`, `Volume.reads_encode`: attributes and volumes as written are read
  as they are, if the values of attributes are as they should be;
- `VolumeAttribute.tidy_value`, `Volume.tidy_value`: they are, whatever they are read from;
- `Ownership.reads_encode`, `AclRequest.reads_encode`: the parts of a change of an access control
  list.
-/

namespace OneFs

open Json

/-! ## Volumes -/

namespace VolumeAttribute

/-- Whatever an attribute is read from, its value is tidy. -/
theorem tidy_value (d : Doc) : (reader.value d).value.Tidy := by
  have held : ∀ o : Option Doc, ((o.map anything.value).getD .null).Tidy := by
    intro o
    cases o with
    | none => trivial
    | some inner => exact inner.tidy_value
  exact held _

theorem tidy_encode {a : VolumeAttribute} (h : a.value.Tidy) : a.encode.Tidy := by
  refine Value.tidy_object ?_
  simp only [List.forall_mem_cons]
  exact ⟨trivial, h, fun _ hm => absurd hm List.not_mem_nil⟩

/-- An attribute as written is read as it is. -/
theorem reads_encode {a : VolumeAttribute} (h : a.value.Tidy) : reader.Reads a.encode a := by
  refine reads_object ?_ (Fields.accepts_seq (Fields.accepts_map ?_) ?_)
  · simp only [List.forall_mem_cons]
    exact ⟨trivial, h, fun _ hm => absurd hm List.not_mem_nil⟩
  · exact Fields.accepts_required (by simp [lookup_sorted, lookup_cons]) (Reader.reads_string _)
  · exact Fields.accepts_found (by simp [lookup_sorted, lookup_cons]) (Reader.reads_anything h)

end VolumeAttribute

namespace Volume

/-- The values of all attributes are as they should be. -/
def Tidy (v : Volume) : Prop :=
  ∀ a ∈ v.attributes, a.value.Tidy

/-- Whatever a volume is read from, it is tidy. -/
theorem tidy_value (d : Doc) : (reader.value d).Tidy := by
  intro a ha
  obtain ⟨inner, rfl⟩ := Fields.exists_of_list (r := VolumeAttribute.reader) ha
  exact VolumeAttribute.tidy_value inner

/-- A volume as written is read as it is. -/
theorem reads_encode {v : Volume} (h : v.Tidy) : reader.Reads v.encode v := by
  have items := Value.tidy_list fun a ha => VolumeAttribute.tidy_encode (h a ha)
  have attributes := Reader.reads_items fun a ha => VolumeAttribute.reads_encode (h a ha)
  refine reads_object ?_ (Fields.accepts_seq (Fields.accepts_map ?_) ?_)
  · simp only [List.forall_mem_cons]
    exact ⟨trivial, items, fun _ hm => absurd hm List.not_mem_nil⟩
  · exact Fields.accepts_found (by simp [lookup_sorted, lookup_cons]) (Reader.reads_string _)
  · exact Fields.accepts_found (by simp [lookup_sorted, lookup_cons]) attributes

end Volume

/-! ## Changes of access control lists -/

theorem Ownership.tidy_encode (o : Ownership) : o.encode.Tidy := by
  refine Value.tidy_object ?_
  simp only [List.forall_mem_cons]
  exact ⟨trivial, trivial, fun _ hm => absurd hm List.not_mem_nil⟩

/-- An owner as written is read as it is. -/
theorem Ownership.reads_encode (o : Ownership) : reader.Reads o.encode o := by
  refine reads_object ?_ (Fields.accepts_seq (Fields.accepts_map ?_) ?_)
  · simp only [List.forall_mem_cons]
    exact ⟨trivial, trivial, fun _ hm => absurd hm List.not_mem_nil⟩
  · exact Fields.accepts_required (by simp [lookup_sorted, lookup_cons]) (Reader.reads_string _)
  · exact Fields.accepts_required (by simp [lookup_sorted, lookup_cons]) (Reader.reads_string _)

/-- A change as written is read as it is, with a group or without. -/
theorem AclRequest.reads_encode (r : AclRequest) : reader.Reads r.encode r := by
  have group : lookup "group" (sorted r.members) = r.group.map Ownership.encode := by
    simp [members, lookup_sorted, lookup_append, lookup_cons, lookup_optionalMember]
  refine reads_object ?_ (Fields.accepts_seq (Fields.accepts_seq (Fields.accepts_seq
    (Fields.accepts_map ?authoritative) ?action) ?owner) ?group)
  · simp only [members, List.forall_mem_append, List.forall_mem_cons]
    exact ⟨⟨trivial, trivial, r.owner.tidy_encode, fun _ hm => absurd hm List.not_mem_nil⟩,
      tidy_optionalMember fun o _ => o.tidy_encode⟩
  case authoritative =>
    refine Fields.accepts_required ?_ (Reader.reads_string _)
    simp [members, lookup_sorted, lookup_append, lookup_cons, lookup_optionalMember]
  case action =>
    refine Fields.accepts_required ?_ (Reader.reads_string _)
    simp [members, lookup_sorted, lookup_append, lookup_cons, lookup_optionalMember]
  case owner =>
    refine Fields.accepts_required ?_ (Ownership.reads_encode _)
    simp [members, lookup_sorted, lookup_append, lookup_cons, lookup_optionalMember]
  case group =>
    exact Fields.accepts_nullable_self group fun o => ⟨nofun, o.reads_encode⟩

end OneFs
