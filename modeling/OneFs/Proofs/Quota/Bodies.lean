import OneFs.Proofs.Json.Text
import OneFs.Proofs.Quota.Lossless
import OneFs.Proofs.Text.Utf8

/-!
# What is sent about quotas

The bodies that are sent say what they are made to say, whatever the path in them and whichever
levels are set.

- `QuotaTerms`: what a body says of a quota that is to be created;
- `termsIn_creation`, `levelsIn_change`: the bodies of a creation and of a change.
-/

namespace OneFs

open Json

/-- What a quota applies to, and its levels. -/
structure QuotaTerms where
  path : String
  type : QuotaType
  enforced : Bool
  includeSnapshots : Bool
  thresholdsIncludeOverhead : Bool
  levels : QuotaThresholds
  deriving DecidableEq

/-- The terms of an enforced quota on a directory, without snapshots and overhead. -/
def QuotaTerms.directory (path : String) (levels : QuotaThresholds) : QuotaTerms :=
  ⟨path, .directory, true, false, false, levels⟩

/-- The terms in a body that asks for a quota. None of them may be left out. -/
def termsIn : Reader QuotaTerms :=
  record "struct Creation" .dropped <|
    QuotaTerms.mk
      <$> requiredField "path" string
      <*> requiredField "type" QuotaType.reader
      <*> requiredField "enforced" boolean
      <*> requiredField "include_snapshots" boolean
      <*> requiredField "thresholds_include_overhead" boolean
      <*> requiredField "thresholds" QuotaThresholds.reader

/-- The levels in a body that asks for others. -/
def levelsIn : Reader QuotaThresholds :=
  record "struct Change" .dropped (requiredField "thresholds" QuotaThresholds.reader)

theorem legible_level (level : Nat) (n : Option Int64) :
    (Value.orNull .ofInt64 n).Legible level := by
  cases n with
  | none => trivial
  | some n => exact fitsNumber_int64 n

/-- Levels as they are sent can be read. -/
theorem QuotaThresholds.legible_encode {level : Nat} (small : level < nestingLimit)
    (t : QuotaThresholds) : t.encode.Legible level := by
  refine legible_object small ?_
  simp only [List.forall_mem_cons]
  exact ⟨legible_level _ _, legible_level _ _, legible_level _ _,
    fun _ hm => absurd hm List.not_mem_nil⟩

/-- What is sent to put a quota on a directory asks for one on those terms. -/
theorem termsIn_creation (path : String) (t : QuotaThresholds) :
    termsIn.decode (Text.Utf8.text (Text.Utf8.bytes (Quota.creation path t).text)) =
      .ok (.directory path t) := by
  have distinct : (["enforced", "include_snapshots", "path", "thresholds",
      "thresholds_include_overhead", "type"] : List String).Nodup := by decide
  have legible : (Quota.creation path t).Legible 0 :=
    ⟨by decide, trivial, trivial, trivial, t.legible_encode (by decide), trivial, trivial, trivial⟩
  rw [Text.Utf8.text_bytes]
  refine Reader.Reads.decode_text (reads_distinct distinct fun rest => ?_) legible
  refine Fields.accepts_seq (Fields.accepts_seq (Fields.accepts_seq (Fields.accepts_seq
    (Fields.accepts_seq (Fields.accepts_map ?path) ?type) ?enforced) ?snapshots) ?overhead) ?levels
  case path => exact Fields.accepts_required rfl (Reader.reads_string _)
  case type => exact Fields.accepts_required rfl (QuotaType.reads_encode _)
  case enforced => exact Fields.accepts_required rfl (Reader.reads_boolean _)
  case snapshots => exact Fields.accepts_required rfl (Reader.reads_boolean _)
  case overhead => exact Fields.accepts_required rfl (Reader.reads_boolean _)
  case levels => exact Fields.accepts_required rfl t.reads_encode

/-- What is sent to change a quota asks for those levels. -/
theorem levelsIn_change (t : QuotaThresholds) :
    levelsIn.decode (Text.Utf8.text (Text.Utf8.bytes (Quota.change t).text)) = .ok t := by
  have distinct : (["enforced", "thresholds", "thresholds_include_overhead"] : List String).Nodup :=
    by decide
  rw [Text.Utf8.text_bytes]
  exact Reader.Reads.decode_text (reads_member distinct rfl t.reads_encode)
    ⟨by decide, trivial, t.legible_encode (by decide), trivial, trivial⟩

end OneFs
