import OneFs.Proofs.Survival

/-!
# Quota records written and read again

- `QuotaThresholds.reads_encode`, `QuotaType.reads_encode`, `QuotaUsage.reads_encode`: the parts of a
  quota as written are read as they are;
- `Thresholds.reads_encode`, `Quota.reads_encode`: so are reported levels and quotas, if what they
  keep untyped is as it should be;
- `Thresholds.tidy_value`, `Quota.tidy_value`: it is, whatever they are read from.
-/

namespace OneFs

open Json

/-! ## Levels -/

/-- A level is read as it is, one that is not set from `null`. -/
theorem reads_level (n : Option Int64) : (optional int64).Reads (.orNull .ofInt64 n) n :=
  Reader.reads_orNull fun n _ => ⟨nofun, Reader.reads_int64 n⟩

theorem tidy_level (n : Option Int64) : (Value.orNull .ofInt64 n).Tidy := by
  cases n <;> trivial

/-- The three levels as written are read as they are. -/
theorem QuotaThresholds.reads_encode (t : QuotaThresholds) : reader.Reads t.encode t := by
  refine reads_object ?_ ?_
  · simp only [List.forall_mem_cons]
    exact ⟨tidy_level _, tidy_level _, tidy_level _, fun _ hm => absurd hm List.not_mem_nil⟩
  · refine Fields.accepts_seq (Fields.accepts_seq (Fields.accepts_map ?advisory) ?hard) ?soft
    case advisory =>
      exact Fields.accepts_nullable (by simp [lookup_sorted, lookup_cons]) (reads_level _)
    case hard => exact Fields.accepts_nullable (by simp [lookup_sorted, lookup_cons]) (reads_level _)
    case soft => exact Fields.accepts_nullable (by simp [lookup_sorted, lookup_cons]) (reads_level _)

/-! ## Reported levels -/

/-- An untyped value that is there: it is tidy, and not `null`. -/
def IsThere (v : Value) : Prop :=
  v ≠ .null ∧ v.Tidy

/-- An untyped value is read as it is. -/
theorem reads_untyped {o : Option Value} (h : ∀ v, o = some v → IsThere v) :
    (optional anything).Reads (.orNull (fun v => v) o) o :=
  Reader.reads_orNull fun v hv => ⟨(h v hv).1, Reader.reads_anything (h v hv).2⟩

theorem tidy_untyped {o : Option Value} (h : ∀ v, o = some v → IsThere v) :
    (Value.orNull (fun v => v) o).Tidy := by
  cases o with
  | none => trivial
  | some v => exact (h v rfl).2

/-- What can be read as a value and is not `null` is an untyped value that is there. -/
theorem isThere_value {d : Doc} (fine : d.valueFault = none) (filled : d ≠ .null) :
    IsThere d.value := by
  refine ⟨?_, d.tidy_value⟩
  cases d with
  | null => exact absurd rfl filled
  | bool b => nofun
  | num read _ =>
    cases read with
    | ok n => nofun
    | error f => cases fine
  | str read _ =>
    cases read with
    | ok s => nofun
    | error f => cases fine
  | arr items tail => nofun
  | obj members tail => nofun
  | beyond inner => cases fine
  | absent => cases fine
  | missing f => cases fine
  | broken f => cases fine

/-- What an optional untyped field holds is there. -/
theorem isThere_field {α : Type} {title name : String} {fs : Fields α} {d : Doc}
    (accepted : (record title .kept fs).fault d = none)
    (found : findField name fs.declared = some ⟨name, .defaulted, (optional anything).fault⟩) :
    ∀ v, (field? name anything).build (membersOf fs.declared d) = some v → IsThere v := by
  refine field_holds (motive := fun o => ∀ v, o = some v → IsThere v) accepted found nofun ?_
  intro inner fine v held
  cases inner with
  | null => cases held
  | _ =>
    cases held
    exact isThere_value fine nofun

namespace Thresholds

/-- What the levels keep untyped is as it should be. -/
structure Tidy (t : Thresholds) : Prop where
  extra : Undeclared names t.extra
  advisory : ∀ v, t.advisoryLastExceeded = some v → IsThere v
  soft : ∀ v, t.softLastExceeded = some v → IsThere v
  hard : ∀ v, t.hardLastExceeded = some v → IsThere v

theorem tidy_blank : blank.Tidy :=
  ⟨.nil names, nofun, nofun, nofun⟩

/-- Whatever levels are read from, they are tidy. -/
theorem tidy_value {d : Doc} (accepted : reader.fault d = none) : (reader.value d).Tidy where
  extra := undeclared_named d rfl
  advisory := isThere_field accepted rfl
  soft := isThere_field accepted rfl
  hard := isThere_field accepted rfl

/-- The members of the fields, in their order. -/
def declared (t : Thresholds) : List (String × Value) :=
  [("advisory", .orNull .ofInt64 t.advisory),
    ("advisory_exceeded", .bool t.advisoryExceeded),
    ("advisory_last_exceeded", .orNull (fun v => v) t.advisoryLastExceeded),
    ("soft", .orNull .ofInt64 t.soft),
    ("soft_exceeded", .bool t.softExceeded),
    ("soft_last_exceeded", .orNull (fun v => v) t.softLastExceeded),
    ("hard", .orNull .ofInt64 t.hard),
    ("hard_exceeded", .bool t.hardExceeded),
    ("hard_last_exceeded", .orNull (fun v => v) t.hardLastExceeded)]

theorem Tidy.declared {t : Thresholds} (h : t.Tidy) : ∀ m ∈ t.declared, m.2.Tidy := by
  simp only [Thresholds.declared, List.forall_mem_cons]
  exact ⟨tidy_level _, trivial, tidy_untyped h.advisory, tidy_level _, trivial,
    tidy_untyped h.soft, tidy_level _, trivial, tidy_untyped h.hard,
    fun _ hm => absurd hm List.not_mem_nil⟩

theorem Tidy.encode {t : Thresholds} (h : t.Tidy) : t.encode.Tidy :=
  Value.tidy_object (List.forall_mem_append.mpr ⟨h.declared, h.extra.tidy⟩)

/-- Reported levels as written are read as they are. -/
theorem reads_encode {t : Thresholds} (h : t.Tidy) : reader.Reads t.encode t := by
  refine reads_written rfl h.extra (mem_names_of_keys (List.Subset.refl _)) h.declared
    fun find found => ?_
  -- Each field finds its own member.
  refine Fields.accepts_seq (Fields.accepts_seq (Fields.accepts_seq (Fields.accepts_seq
    (Fields.accepts_seq (Fields.accepts_seq (Fields.accepts_seq (Fields.accepts_seq
    (Fields.accepts_seq (Fields.accepts_map ?_) ?_) ?_) ?_) ?_) ?_) ?_) ?_) ?_)
    Fields.accepts_otherMembers
  · exact Fields.accepts_found (found "advisory" (by decide)) (reads_level _)
  · exact Fields.accepts_found (found "advisory_exceeded" (by decide)) (Reader.reads_boolean _)
  · exact Fields.accepts_found (found "advisory_last_exceeded" (by decide)) (reads_untyped h.advisory)
  · exact Fields.accepts_found (found "soft" (by decide)) (reads_level _)
  · exact Fields.accepts_found (found "soft_exceeded" (by decide)) (Reader.reads_boolean _)
  · exact Fields.accepts_found (found "soft_last_exceeded" (by decide)) (reads_untyped h.soft)
  · exact Fields.accepts_found (found "hard" (by decide)) (reads_level _)
  · exact Fields.accepts_found (found "hard_exceeded" (by decide)) (Reader.reads_boolean _)
  · exact Fields.accepts_found (found "hard_last_exceeded" (by decide)) (reads_untyped h.hard)

end Thresholds

/-! ## Quotas -/

/-- A scope as written is read as it is. -/
theorem QuotaType.reads_encode (t : QuotaType) : reader.Reads t.encode t := by
  refine ⟨rfl, ?_⟩
  show ofName t.name = t
  cases t <;> decide

/-- Usage as written is read as it is. -/
theorem QuotaUsage.reads_encode (u : QuotaUsage) : reader.Reads u.encode u := by
  refine reads_object ?_ (Fields.accepts_seq (Fields.accepts_seq (Fields.accepts_map ?_) ?_) ?_)
  · simp only [List.forall_mem_cons]
    exact ⟨trivial, trivial, trivial, fun _ hm => absurd hm List.not_mem_nil⟩
  · exact Fields.accepts_found (by simp [lookup_sorted, lookup_cons]) (Reader.reads_int64 _)
  · exact Fields.accepts_found (by simp [lookup_sorted, lookup_cons]) (Reader.reads_int64 _)
  · exact Fields.accepts_found (by simp [lookup_sorted, lookup_cons]) (Reader.reads_int64 _)

namespace Quota

/-- What the quota keeps untyped is as it should be. -/
structure Tidy (q : Quota) : Prop where
  extra : Undeclared names q.extra
  thresholds : q.thresholds.Tidy
  linked : ∀ v, q.linked = some v → IsThere v
  persona : ∀ v, q.persona = some v → IsThere v

/-- Whatever a quota is read from, it is tidy. -/
theorem tidy_value {d : Doc} (accepted : reader.fault d = none) : (reader.value d).Tidy where
  extra := undeclared_named d rfl
  thresholds :=
    field_holds accepted rfl Thresholds.tidy_blank fun _ => Thresholds.tidy_value
  linked := isThere_field accepted rfl
  persona := isThere_field accepted rfl

theorem Tidy.declared {q : Quota} (h : q.Tidy) : ∀ m ∈ q.declared, m.2.Tidy := by
  have usage : q.usage.encode.Tidy := by
    refine Value.tidy_object ?_
    simp only [List.forall_mem_cons]
    exact ⟨trivial, trivial, trivial, fun _ hm => absurd hm List.not_mem_nil⟩
  simp only [Quota.declared, List.forall_mem_append, List.forall_mem_cons]
  exact ⟨⟨⟨⟨trivial, trivial, trivial, trivial, trivial, trivial, h.thresholds.encode, trivial,
    usage, trivial, fun _ hm => absurd hm List.not_mem_nil⟩,
    tidy_optionalMember fun _ _ => trivial⟩, tidy_optionalMember fun v hv => (h.linked v hv).2⟩,
    tidy_optionalMember fun v hv => (h.persona v hv).2⟩

/-- A quota as written is read as it is. -/
theorem reads_encode {q : Quota} (h : q.Tidy) : reader.Reads q.encode q := by
  refine reads_written rfl h.extra q.key_declared h.declared fun find found => ?_
  have untyped : ∀ {name : String} {o : Option Value}, find name = o →
      (∀ v, o = some v → IsThere v) → (field? name anything).Accepts find q.extra o := by
    intro name o hfind there
    refine Fields.accepts_fieldD hfind (fun v hv => ?_) Eq.symm
    rw [hv]
    exact Reader.reads_optional (there v hv).1 (Reader.reads_anything (there v hv).2)
  have hid := found "id" (by decide)
  have hpath := found "path" (by decide)
  have htype := found "type" (by decide)
  have henforced := found "enforced" (by decide)
  have hcontainer := found "container" (by decide)
  have hsnapshots := found "include_snapshots" (by decide)
  have hthresholds := found "thresholds" (by decide)
  have hoverhead := found "thresholds_include_overhead" (by decide)
  have husage := found "usage" (by decide)
  have hready := found "ready" (by decide)
  have hnotifications := found "notifications" (by decide)
  have hlinked := found "linked" (by decide)
  have hpersona := found "persona" (by decide)
  simp [lookup_append, lookup_cons, lookup_optionalMember] at hid hpath htype henforced
  simp [lookup_append, lookup_cons, lookup_optionalMember] at hcontainer hsnapshots
  simp [lookup_append, lookup_cons, lookup_optionalMember] at hthresholds hoverhead husage
  simp [lookup_append, lookup_cons, lookup_optionalMember] at hready hnotifications
  simp [lookup_append, lookup_cons, lookup_optionalMember] at hlinked hpersona
  refine Fields.accepts_seq (Fields.accepts_seq (Fields.accepts_seq (Fields.accepts_seq
    (Fields.accepts_seq (Fields.accepts_seq (Fields.accepts_seq (Fields.accepts_seq
    (Fields.accepts_seq (Fields.accepts_seq (Fields.accepts_seq (Fields.accepts_seq
    (Fields.accepts_seq (Fields.accepts_map ?id) ?path) ?type) ?enforced) ?container) ?snapshots)
    ?thresholds) ?overhead) ?usage) ?ready) ?notifications) ?linked) ?persona)
    Fields.accepts_otherMembers
  case id => exact Fields.accepts_found hid (Reader.reads_string _)
  case path => exact Fields.accepts_found hpath (Reader.reads_string _)
  case type => exact Fields.accepts_found htype (QuotaType.reads_encode _)
  case enforced => exact Fields.accepts_found henforced (Reader.reads_boolean _)
  case container => exact Fields.accepts_found hcontainer (Reader.reads_boolean _)
  case snapshots => exact Fields.accepts_found hsnapshots (Reader.reads_boolean _)
  case thresholds => exact Fields.accepts_found hthresholds (Thresholds.reads_encode h.thresholds)
  case overhead => exact Fields.accepts_found hoverhead (Reader.reads_boolean _)
  case usage => exact Fields.accepts_found husage (QuotaUsage.reads_encode _)
  case ready => exact Fields.accepts_found hready (Reader.reads_boolean _)
  case notifications =>
    exact Fields.accepts_optional_self hnotifications fun s => ⟨nofun, Reader.reads_string s⟩
  case linked => exact untyped hlinked h.linked
  case persona => exact untyped hpersona h.persona

end Quota

end OneFs
