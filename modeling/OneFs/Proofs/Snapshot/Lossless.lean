import OneFs.Proofs.Quota.Lossless

/-!
# Snapshot records written and read again

- `Snapshot.reads_encode`, `SnapshotList.reads_encode`: snapshots and listings as written are read
  as they are, if what they keep on the side is as it should be;
- `Snapshot.tidy_value`, `SnapshotList.tidy_value`: it is, whatever they are read from.
-/

namespace OneFs

open Json

/-- A text is read as it is, one that is not there from `null`. -/
theorem reads_text (s : Option String) : (optional string).Reads (.orNull .str s) s :=
  Reader.reads_orNull fun s _ => ⟨nofun, Reader.reads_string s⟩

theorem tidy_text (s : Option String) : (Value.orNull .str s).Tidy := by
  cases s <;> trivial

/-- A double is read as it is. -/
theorem reads_double (x : Float) : double.Reads (.num (.float x)) x :=
  ⟨rfl, rfl⟩

namespace Snapshot

/-- What the snapshot keeps on the side is as it should be. -/
def Tidy (s : Snapshot) : Prop :=
  Undeclared names s.extra

/-- Whatever a snapshot is read from, it is tidy. -/
theorem tidy_value (d : Doc) : (reader.value d).Tidy := by
  show Undeclared names _
  exact undeclared_named d rfl

/-- The members of the fields, in their order. -/
def declared (s : Snapshot) : List (String × Value) :=
  [("id", .ofInt64 s.id), ("name", .str s.name), ("path", .str s.path),
    ("created", .ofInt64 s.created), ("expires", .orNull .ofInt64 s.expires),
    ("state", .str s.state), ("size", .ofInt64 s.size), ("has_locks", .bool s.hasLocks),
    ("pct_filesystem", .num (.float s.pctFilesystem)),
    ("pct_reserve", .num (.float s.pctReserve)), ("schedule", .orNull .str s.schedule),
    ("shadow_bytes", .ofInt64 s.shadowBytes), ("target_id", .orNull .ofInt64 s.targetId),
    ("target_name", .orNull .str s.targetName)]

theorem tidy_declared (s : Snapshot) : ∀ m ∈ s.declared, m.2.Tidy := by
  simp only [declared, List.forall_mem_cons]
  exact ⟨trivial, trivial, trivial, trivial, tidy_level _, trivial, trivial, trivial, trivial,
    trivial, tidy_text _, trivial, tidy_level _, tidy_text _,
    fun _ hm => absurd hm List.not_mem_nil⟩

theorem Tidy.encode {s : Snapshot} (h : s.Tidy) : s.encode.Tidy :=
  Value.tidy_object (List.forall_mem_append.mpr ⟨s.tidy_declared, Undeclared.tidy h⟩)

/-- A snapshot as written is read as it is. -/
theorem reads_encode {s : Snapshot} (h : s.Tidy) : reader.Reads s.encode s := by
  refine reads_written rfl h (mem_names_of_keys (List.Subset.refl _)) s.tidy_declared
    fun find found => ?_
  -- Each field finds its own member.
  refine Fields.accepts_seq (Fields.accepts_seq (Fields.accepts_seq (Fields.accepts_seq
    (Fields.accepts_seq (Fields.accepts_seq (Fields.accepts_seq (Fields.accepts_seq
    (Fields.accepts_seq (Fields.accepts_seq (Fields.accepts_seq (Fields.accepts_seq
    (Fields.accepts_seq (Fields.accepts_seq (Fields.accepts_map ?_) ?_) ?_) ?_) ?_) ?_) ?_) ?_) ?_)
    ?_) ?_) ?_) ?_) ?_) Fields.accepts_otherMembers
  · exact Fields.accepts_found (found "id" (by decide)) (Reader.reads_int64 _)
  · exact Fields.accepts_found (found "name" (by decide)) (Reader.reads_string _)
  · exact Fields.accepts_found (found "path" (by decide)) (Reader.reads_string _)
  · exact Fields.accepts_found (found "created" (by decide)) (Reader.reads_int64 _)
  · exact Fields.accepts_found (found "expires" (by decide)) (reads_level _)
  · exact Fields.accepts_found (found "state" (by decide)) (Reader.reads_string _)
  · exact Fields.accepts_found (found "size" (by decide)) (Reader.reads_int64 _)
  · exact Fields.accepts_found (found "has_locks" (by decide)) (Reader.reads_boolean _)
  · exact Fields.accepts_found (found "pct_filesystem" (by decide)) (reads_double _)
  · exact Fields.accepts_found (found "pct_reserve" (by decide)) (reads_double _)
  · exact Fields.accepts_found (found "schedule" (by decide)) (reads_text _)
  · exact Fields.accepts_found (found "shadow_bytes" (by decide)) (Reader.reads_int64 _)
  · exact Fields.accepts_found (found "target_id" (by decide)) (reads_level _)
  · exact Fields.accepts_found (found "target_name" (by decide)) (reads_text _)

end Snapshot

namespace SnapshotList

/-- What the snapshots of a listing keep on the side is as it should be. -/
def Tidy (l : SnapshotList) : Prop :=
  ∀ s ∈ l.snapshots, s.Tidy

/-- Whatever a listing is read from, it is tidy. -/
theorem tidy_value (d : Doc) : (reader.value d).Tidy := by
  intro s hs
  obtain ⟨inner, rfl⟩ := Fields.exists_of_list (r := Snapshot.reader) hs
  exact Snapshot.tidy_value inner

/-- A listing as written is read as it is. -/
theorem reads_encode {l : SnapshotList} (h : l.Tidy) : reader.Reads l.encode l := by
  have items := Value.tidy_list fun s hs => Snapshot.Tidy.encode (h s hs)
  have snapshots := Reader.reads_items fun s hs => Snapshot.reads_encode (h s hs)
  refine reads_object ?_ (Fields.accepts_seq (Fields.accepts_seq (Fields.accepts_map ?_) ?_) ?_)
  · simp only [List.forall_mem_cons]
    exact ⟨items, trivial, tidy_text _, fun _ hm => absurd hm List.not_mem_nil⟩
  · exact Fields.accepts_found (by simp [lookup_sorted, lookup_cons]) snapshots
  · exact Fields.accepts_found (by simp [lookup_sorted, lookup_cons]) (Reader.reads_int64 _)
  · exact Fields.accepts_found (by simp [lookup_sorted, lookup_cons]) (reads_text _)

end SnapshotList

end OneFs
