import Mathlib.Data.List.Basic
import OneFs.Proofs.Exchange.Course

/-!
# Replies that hold records

- `record_filled`: a text that is read as a record is not blank;
- `verdict_record`, `verdict_refusal`: what becomes of a reply by its status.
-/

namespace OneFs

open Json

/-- A text that holds nothing but blanks begins with no value. -/
theorem scan_blank {s : String} (blank : Text.isBlankText s = true) :
    (scan s).1 = .absent ∨ (scan s).1 = .broken (.malformed .expectedValue) := by
  have all : ∀ c ∈ s.toList, Text.isBlank c = true := (Text.isBlankText_iff s).mp blank
  have start : (scan s).1 = (scanValue (2 * s.toList.length + 1 + 1) 0 s.toList).1 := rfl
  rw [start, scanValue]
  -- A blank that the scanner does not skip begins no value either.
  cases eq : skipSpace s.toList with
  | nil => exact .inl rfl
  | cons c cs =>
    have mem : c ∈ s.toList :=
      (List.dropWhile_sublist _).subset (by rw [skipSpace] at eq; rw [eq]; exact List.mem_cons_self)
    have hc := all c mem
    have other : ∀ d : Char, Text.isBlank d = false → (c == d) = false := by
      intro d hd
      rw [beq_eq_false_iff_ne]
      rintro rfl
      rw [hc] at hd
      cases hd
    have digit : c.isDigit = false := by
      by_contra h
      simp only [Char.isDigit, Bool.not_eq_false, Bool.and_eq_true, decide_eq_true_eq,
        UInt32.le_iff_toNat_le] at h
      have low : 48 ≤ c.toNat := h.1
      have high : c.toNat ≤ 57 := h.2
      simp only [Text.isBlank, Bool.or_eq_true, Bool.and_eq_true, decide_eq_true_eq,
        beq_iff_eq] at hc
      omega
    refine .inr ?_
    simp only [other 'n' rfl, other 't' rfl, other 'f' rfl, other '-' rfl, other '\x22' rfl,
      other '[' rfl, other '\x7b' rfl, digit, Bool.false_eq_true, if_false]

/-- A text that is read as a record is not blank. -/
theorem record_filled {α : Type} {title : String} {others : Others} {fs : Fields α} {s : String}
    {a : α} (h : (record title others fs).decode s = .ok a) : Text.isBlankText s = false := by
  by_contra blank
  rw [Bool.not_eq_false] at blank
  have refused : ∃ f, (record title others fs).fault (scan s).1 = some f := by
    rcases scan_blank blank with eq | eq
    · rw [eq]
      exact ⟨_, rfl⟩
    · rw [eq]
      exact ⟨_, rfl⟩
  obtain ⟨f, hf⟩ := refused
  unfold Reader.decode at h
  dsimp only at h
  rw [hf] at h
  cases h

/-- A reply that reports success is judged by what is read. -/
theorem verdict_record {α : Type} {title : String} {others : Others} {fs : Fields α}
    {status : Nat} {body : String} {a : α} (success : Http.isSuccess status = true)
    (h : (record title others fs).decode body = .ok a) :
    Connection.verdict (record title others fs) ⟨status, body⟩ = .ok (some a) := by
  have filled := record_filled h
  simp [Connection.verdict, Http.Reply.isSuccess, Http.Reply.isEmpty, success, filled,
    Connection.decoded, h, Except.map]

/-- A reply that does not is a failure. -/
theorem verdict_refusal {α : Type} (r : Reader α) {status : Nat} (body : String)
    (refusal : Http.isSuccess status = false) :
    ∃ f, Connection.verdict r ⟨status, body⟩ = .error f := by
  simp [Connection.verdict, Http.Reply.isSuccess, refusal]

end OneFs
