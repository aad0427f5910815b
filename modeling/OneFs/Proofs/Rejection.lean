import OneFs.Failure
import OneFs.Proofs.Exchange.Course
import OneFs.Proofs.Lossless

/-!
# Rejections say something

Whatever a cluster answers that refuses a request, the rejection has a first entry with a message.
Apart from that message nothing is made up: what can be read is kept as it is.

- `Http.statusLine_ne_empty`: a status line says something, also of unknown codes;
- `Rejection.errors_new`: what a rejection makes of a list of errors;
- `Rejection.decode_enveloped`, `Rejection.decode_listed`: errors as a cluster writes them, as an
  object or as a list, are read as they are;
- `Rejection.eq_nil_of_absent`: an object without a list of errors has none;
- `Rejection.ofBody_usable`: the rejection of any body.
-/

namespace OneFs

open Json Http

/-- A status line starts with the number, so it says something. -/
theorem Http.statusLine_ne_empty (status : Nat) : statusLine status ≠ "" := by
  have digits : toString status ≠ "" := by
    intro empty
    have none : Nat.toDigits 10 status = [] := by
      rw [← Nat.toList_repr]
      exact congrArg String.toList empty
    exact Nat.toDigits_ne_nil none
  intro empty
  unfold statusLine at empty
  split at empty
  · exact digits (String.append_eq_empty_iff.mp (String.append_eq_empty_iff.mp empty).1).1
  · exact digits empty

namespace Rejection

/-! ## The first entry -/

variable {status : Nat} {body : String} {first e : ErrorEntry} {rest es : List ErrorEntry}

theorem explained_of_message (given : e.message ≠ "") : explained status e = e :=
  if_neg given

theorem explained_of_empty (empty : e.message = "") :
    explained status e = { e with message := statusLine status } :=
  if_pos empty

theorem message_explained_ne_empty (status : Nat) (e : ErrorEntry) :
    (explained status e).message ≠ "" := by
  by_cases empty : e.message = ""
  · rw [explained_of_empty empty]
    exact statusLine_ne_empty status
  · rw [explained_of_message empty]
    exact empty

/-- The errors of a rejection are those that it is made with, the first with a message; without any
there is one entry. -/
theorem errors_new (status : Nat) (es : List ErrorEntry) :
    (new status es).errors =
      explained status (es.headD .blank) :: es.tail := by
  cases es <;> rfl

/-! ## Bodies -/

theorem ofBody_of_decode (read : envelope.decode body = .ok es) :
    ofBody status body = new status es := by
  unfold ofBody
  rw [read]

/-- A body in which no error is listed counts as one without a list. -/
theorem ofBody_of_unlisted (unlisted : ∀ first rest, envelope.decode body ≠ .ok (first :: rest)) :
    ofBody status body = new status [] := by
  unfold ofBody
  cases read : envelope.decode body with
  | error f => rfl
  | ok es =>
    cases es with
    | nil => rfl
    | cons first rest => exact absurd read (unlisted first rest)

/-- An object without a list of errors is not read as one that has any. -/
theorem eq_nil_of_absent {members : List (Doc × Doc)} {tail after : Option Fault}
    (scanned : scan body = (.obj members tail, after)) (absent : ∀ m ∈ members, m.1.key ≠ "errors")
    (read : envelope.decode body = .ok es) : es = [] := by
  obtain ⟨-, -, value⟩ := fault_of_decode read
  have none : docOf "errors" members = none := by
    cases found : docOf "errors" members with
    | none => rfl
    | some d =>
      obtain ⟨k, member, key⟩ := mem_of_docOf found
      exact absurd key (absent (k, d) member)
  rw [scanned] at value
  change ((docOf "errors" members).map (list ErrorEntry.reader).value).getD [] = es at value
  rw [none] at value
  exact value.symm

/-! ## Written lists of errors -/

/-- Errors as the member of an object. -/
def enveloped (es : List ErrorEntry) : Value :=
  .obj [("errors", .arr (es.map ErrorEntry.encode))]

/-- Errors as the only field of a record that is written as a list. -/
def listed (es : List ErrorEntry) : Value :=
  .arr [.arr (es.map ErrorEntry.encode)]

theorem legible_entries (es : List ErrorEntry) {level : Nat} (small : level + 1 < nestingLimit) :
    (Value.arr (es.map ErrorEntry.encode)).Legible level := by
  refine ⟨by omega, Value.itemsLegible_iff.mpr fun v hv => ?_⟩
  obtain ⟨e, -, rfl⟩ := List.mem_map.mp hv
  refine legible_object small ?_
  simp only [List.forall_mem_append, List.forall_mem_cons]
  refine ⟨⟨trivial, fun m hm => ?_⟩, trivial, List.forall_mem_nil _⟩
  split at hm
  · cases hm
  · cases List.mem_singleton.mp hm
    trivial

theorem reads_entries (es : List ErrorEntry) :
    (list ErrorEntry.reader).Reads (.arr (es.map ErrorEntry.encode)) es :=
  Reader.reads_items fun e _ => e.reads_encode

/-- Errors in an object are read as they are. -/
theorem decode_enveloped (es : List ErrorEntry) :
    envelope.decode (enveloped es).text = .ok es := by
  have distinct : (["errors"] : List String).Nodup := by decide
  exact Reader.Reads.decode_text
    (reads_distinct distinct fun _ => Fields.accepts_found rfl (reads_entries es))
    ⟨by decide, legible_entries es (by decide), trivial⟩

/-- So are errors in a list. -/
theorem decode_listed (es : List ErrorEntry) : envelope.decode (listed es).text = .ok es := by
  have read : envelope.Reads (listed es) es := by
    obtain ⟨fine, value⟩ := reads_entries es
    constructor
    · show positionalFault _ none 0 [⟨"errors", .defaulted, (list ErrorEntry.reader).fault⟩]
        [(Value.arr (es.map ErrorEntry.encode)).doc] = none
      rw [positionalFault, positionalFault]
      dsimp only
      rw [fine]
      rfl
    · exact value
  exact read.decode_text ⟨by decide, legible_entries es (by decide), trivial⟩

/-! ## The rejection of any body -/

/-- Whatever a cluster answers that refuses a request, the rejection keeps the status and has a
first entry with a message, which is what is said of it. Listed errors are kept entry for entry, but
for an empty message of the first one, which becomes the status line. Where none are listed, for
whatever reason, the status line is all there is. -/
theorem ofBody_usable (status : Nat) (body : String) :
    (ofBody status body).status = status ∧
    (∃ first rest, (ofBody status body).errors = first :: rest ∧ first.message ≠ "" ∧
      (ofBody status body).message = first.message ∧ (ofBody status body).code = first.code ∧
      (Failure.rejected (ofBody status body)).message = first.message) ∧
    (∀ first rest, envelope.decode body = .ok (first :: rest) →
      (ofBody status body).errors = (if first.message = "" then
        { first with message := statusLine status } else first) :: rest) ∧
    ((∀ first rest, envelope.decode body ≠ .ok (first :: rest)) →
      (ofBody status body).errors = [⟨"", "", statusLine status⟩]) ∧
    (∀ members tail after, scan body = (.obj members tail, after) →
      (∀ m ∈ members, m.1.key ≠ "errors") →
      (ofBody status body).errors = [⟨"", "", statusLine status⟩]) ∧
    ((ofBody status body).isNotFound = true ↔ status = 404) := by
  have unlisted : (∀ first rest, envelope.decode body ≠ .ok (first :: rest)) →
      (ofBody status body).errors = [⟨"", "", statusLine status⟩] := by
    intro unlisted
    rw [ofBody_of_unlisted unlisted]
    rfl
  refine ⟨status_ofBody status body, ?first, fun first rest read => ?listed, unlisted, ?absent,
    ?notFound⟩
  case first =>
    obtain ⟨es, made⟩ : ∃ es, ofBody status body = new status es := by
      unfold ofBody
      split <;> exact ⟨_, rfl⟩
    have errors := errors_new status es
    rw [made]
    refine ⟨_, _, errors, message_explained_ne_empty status _, ?_, ?_, ?_⟩
    · unfold message
      rw [errors]
      rfl
    · unfold code
      rw [errors]
      rfl
    · unfold Failure.message message
      dsimp only
      rw [errors]
      rfl
  case listed =>
    rw [ofBody_of_decode read]
    rfl
  case absent =>
    intro members tail after scanned absent
    refine unlisted fun first rest read => ?_
    cases eq_nil_of_absent scanned absent read
  case notFound =>
    unfold isNotFound
    rw [status_ofBody, decide_eq_true_iff]

/-- A second entry is kept as it is, while the first one is given a message; an object without
entries and a body without anything are given one. -/
theorem ofBody_usable_silent :
    (ofBody 404 (listed [⟨"AEC_NOT_FOUND", "", ""⟩, .blank]).text).errors =
        [⟨"AEC_NOT_FOUND", "", "404 Not Found"⟩, .blank] ∧
      (ofBody 599 "\x7b\x7d").errors = [⟨"", "", "599"⟩] ∧
      (ofBody 500 "").errors = [⟨"", "", "500 Internal Server Error"⟩] := by
  obtain ⟨-, -, kept, -⟩ :=
    ofBody_usable 404 (listed [⟨"AEC_NOT_FOUND", "", ""⟩, .blank]).text
  obtain ⟨-, -, -, -, absent, -⟩ := ofBody_usable 599 "\x7b\x7d"
  obtain ⟨-, -, -, unlisted, -⟩ := ofBody_usable 500 ""
  have scanned : scan "\x7b\x7d" = (.obj [] none, none) := rfl
  have empty : envelope.decode "" = .error (.unfinished .value) := rfl
  refine ⟨?_, absent [] none none scanned (List.forall_mem_nil _),
    unlisted fun first rest read => ?_⟩
  · rw [kept _ _ (decode_listed _)]
    decide
  · rw [empty] at read
    cases read

end Rejection

end OneFs
