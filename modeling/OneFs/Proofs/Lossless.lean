import OneFs.Proofs.Snapshot.Lossless
import OneFs.Proofs.Volume.Lossless
import OneFs.Rejection

/-!
# Records without personas are lossless

Whatever text a quota, a snapshot, a volume, a change of an access control list or an entry of a list
of errors is read from, and whatever parts these consist of: written as a value and read again it is
the same.

- `Reader.Lossless`: whatever is read can be written and read again;
- `records_lossless`: the records that are.
-/

namespace OneFs

open Json

variable {α : Type}

/-- Whatever text something is read from, it is written as a value that is read as the same. -/
def Json.Reader.Lossless (r : Reader α) (encode : α → Value) : Prop :=
  ∀ text a, r.decode text = .ok a → r.read (encode a).doc = .ok a

/-- What is read as it is written is lossless, if everything that is read is as it should be. -/
theorem Json.Reader.Lossless.of_tidy {r : Reader α} {encode : α → Value} {tidy : α → Prop}
    (held : ∀ d, r.fault d = none → tidy (r.value d))
    (reads : ∀ a, tidy a → r.Reads (encode a) a) : r.Lossless encode := by
  intro text a decoded
  obtain ⟨fine, -, rfl⟩ := fault_of_decode decoded
  exact (reads _ (held _ fine)).read_eq

theorem Json.Reader.Lossless.of_reads {r : Reader α} {encode : α → Value}
    (reads : ∀ a, r.Reads (encode a) a) : r.Lossless encode := by
  intro text a _
  exact (reads a).read_eq

/-- An entry as written is read as it is, with the name of a field or without. -/
theorem ErrorEntry.reads_encode (e : ErrorEntry) : reader.Reads e.encode e := by
  have field : lookup "field" (sorted (("code", Value.str e.code) ::
      optionalMember "field" .str (if e.field = "" then none else some e.field) ++
        [("message", .str e.message)])) =
      (if e.field = "" then none else some e.field).map Value.str := by
    simp [lookup_sorted, lookup_append, lookup_cons, lookup_optionalMember]
  refine reads_object ?_ (Fields.accepts_seq (Fields.accepts_seq (Fields.accepts_map ?code) ?field)
    ?message)
  · simp only [List.forall_mem_append, List.forall_mem_cons]
    exact ⟨⟨trivial, tidy_optionalMember fun _ _ => trivial⟩, trivial,
      fun _ hm => absurd hm List.not_mem_nil⟩
  case code =>
    refine Fields.accepts_found ?_ (Reader.reads_string _)
    simp [lookup_sorted, lookup_append, lookup_cons, lookup_optionalMember]
  case message =>
    exact Fields.accepts_found (by simp [lookup_sorted, lookup_cons]) (Reader.reads_string _)
  -- An entry without the name of a field is one whose field has the empty name.
  case field =>
    refine Fields.accepts_fieldD field (fun v held => ?_) fun absent => ?_
    · split at held
      · cases held
      · cases held
        exact Reader.reads_string _
    · split at absent
      · rename_i empty
        exact empty.symm
      · cases absent

/-- Records without personas are lossless. Whatever text one of them is read from, as an object or,
where nothing is kept on the side, as the list of its fields: written as a value it is read again,
and as the same record. -/
theorem records_lossless :
    Quota.reader.Lossless Quota.encode ∧ Thresholds.reader.Lossless Thresholds.encode ∧
    QuotaUsage.reader.Lossless QuotaUsage.encode ∧
    QuotaThresholds.reader.Lossless QuotaThresholds.encode ∧
    QuotaType.reader.Lossless QuotaType.encode ∧
    Snapshot.reader.Lossless Snapshot.encode ∧ SnapshotList.reader.Lossless SnapshotList.encode ∧
    Volume.reader.Lossless Volume.encode ∧
    VolumeAttribute.reader.Lossless VolumeAttribute.encode ∧
    Ownership.reader.Lossless Ownership.encode ∧ AclRequest.reader.Lossless AclRequest.encode ∧
    ErrorEntry.reader.Lossless ErrorEntry.encode := by
  refine ⟨?_, ?_, .of_reads QuotaUsage.reads_encode, .of_reads QuotaThresholds.reads_encode,
    .of_reads QuotaType.reads_encode, ?_, ?_, ?_, ?_, .of_reads Ownership.reads_encode,
    .of_reads AclRequest.reads_encode, .of_reads ErrorEntry.reads_encode⟩
  · exact .of_tidy (fun _ => Quota.tidy_value) fun _ => Quota.reads_encode
  · exact .of_tidy (fun _ => Thresholds.tidy_value) fun _ => Thresholds.reads_encode
  · exact .of_tidy (fun d _ => Snapshot.tidy_value d) fun _ => Snapshot.reads_encode
  · exact .of_tidy (fun d _ => SnapshotList.tidy_value d) fun _ => SnapshotList.reads_encode
  · exact .of_tidy (fun d _ => Volume.tidy_value d) fun _ => Volume.reads_encode
  · exact .of_tidy (fun d _ => VolumeAttribute.tidy_value d) fun _ => VolumeAttribute.reads_encode

/-- What a text is read as, by some view of it. -/
theorem exists_of_view_decode {β : Type} (r : Reader α) (text : String) (view : α → β) {b : β}
    (seen : (r.decode text).toOption.map view = some b) :
    ∃ a, r.decode text = .ok a ∧ view a = b := by
  cases decoded : r.decode text with
  | error fault =>
    rw [decoded] at seen
    cases seen
  | ok a =>
    rw [decoded] at seen
    exact ⟨a, rfl, Option.some.inj seen⟩

/-- Levels with an untyped value and an unknown member, which stands there twice. -/
def reportedLevels : String :=
  "\x7b\"x\": 1, \"hard\": 5, \"hard_last_exceeded\": [null], \"x\": \x7b\"z\": null\x7d\x7d"

/-- An owner as the list of its fields, and levels with more than they declare. -/
theorem records_lossless_reported :
    (∃ o, Ownership.reader.decode "[\"root\", \"user\"]" = .ok o ∧
      Ownership.reader.read o.encode.doc = .ok o ∧ o = .user "root") ∧
    ∃ t, Thresholds.reader.decode reportedLevels = .ok t ∧
      Thresholds.reader.read t.encode.doc = .ok t ∧
      (t.hard, t.hardLastExceeded.map Value.text, (Value.obj t.extra).text) =
        (some 5, some "[null]", "\x7b\"x\":\x7b\"z\":null\x7d\x7d") := by
  constructor
  · obtain ⟨o, decoded, seen⟩ := exists_of_view_decode Ownership.reader "[\"root\", \"user\"]"
      (fun o => o) (show _ = some (Ownership.user "root") by decide +kernel)
    exact ⟨o, decoded, records_lossless.2.2.2.2.2.2.2.2.2.1 _ _ decoded, seen⟩
  · obtain ⟨t, decoded, seen⟩ := exists_of_view_decode Thresholds.reader reportedLevels
      (fun t => (t.hard, t.hardLastExceeded.map Value.text, (Value.obj t.extra).text))
      (show _ = some (some 5, some "[null]", "\x7b\"x\":\x7b\"z\":null\x7d\x7d") by decide +kernel)
    exact ⟨t, decoded, records_lossless.2.1 _ _ decoded, seen⟩

end OneFs
