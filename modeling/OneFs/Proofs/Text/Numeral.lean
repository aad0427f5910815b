import OneFs.Text.Letter

/-!
# Numerals

- `IsNumeral`: the decimal spellings of a number;
- `unsigned?_eq_some_iff`: what is read as a number below a bound is a spelling of it;
- `IsNumeral.unique`, `isNumeral_toString`: a spelling is of one number, and every number has one.
-/

namespace OneFs.Text

/-- The text spells `n`: it is one or more decimal digits, perhaps behind a plus sign. -/
def IsNumeral (s : String) (n : Nat) : Prop :=
  ∃ digits : List Char, (s.toList = digits ∨ s.toList = '+' :: digits) ∧ digits ≠ [] ∧
    (∀ c ∈ digits, c.isDigit = true) ∧ Nat.ofDigitChars 10 digits 0 = n

theorem digitsValue_eq (cs : List Char) (acc : Nat) :
    digitsValue acc cs = Nat.ofDigitChars 10 cs acc := by
  induction cs generalizing acc with
  | nil => rfl
  | cons c cs ih =>
    have step : acc * 10 + (c.toNat - 48) = 10 * acc + (c.toNat - '0'.toNat) := by
      rw [Nat.mul_comm, show '0'.toNat = 48 from rfl]
    rw [Nat.ofDigitChars_cons, ← step, ← ih]
    rfl

/-- One or more digits are read as the number that they spell, and nothing else is read. -/
theorem natural?_eq_some_iff {cs : List Char} {n : Nat} :
    natural? cs = some n ↔
      cs ≠ [] ∧ (∀ c ∈ cs, c.isDigit = true) ∧ Nat.ofDigitChars 10 cs 0 = n := by
  unfold natural?
  rw [digitsValue_eq]
  by_cases empty : cs = []
  · simp [empty]
  by_cases digits : cs.all Char.isDigit = true
  · have all : ∀ c ∈ cs, c.isDigit = true := List.all_eq_true.mp digits
    simp only [List.isEmpty_eq_false_iff.mpr empty, digits, Bool.not_true, Bool.or_false,
      Bool.false_eq_true, if_false, Option.some.injEq]
    exact ⟨fun value => ⟨empty, all, value⟩, fun h => h.2.2⟩
  · have other : ¬ ∀ c ∈ cs, c.isDigit = true := fun all => digits (List.all_eq_true.mpr all)
    simp [empty, digits, other]

/-- What stands behind a plus sign, or else the whole text. -/
def behindPlus (cs : List Char) : List Char :=
  if cs.head? = some '+' then cs.tail else cs

theorem behindPlus_plus (cs : List Char) : behindPlus ('+' :: cs) = cs :=
  if_pos rfl

theorem behindPlus_of_ne {cs : List Char} (h : cs.head? ≠ some '+') : behindPlus cs = cs :=
  if_neg h

/-- A plus sign is no digit, so there is one way to take a text for a numeral. -/
theorem isNumeral_iff {s : String} {n : Nat} :
    IsNumeral s n ↔ natural? (behindPlus s.toList) = some n := by
  unfold IsNumeral
  generalize s.toList = cs
  rw [natural?_eq_some_iff]
  constructor
  · rintro ⟨digits, eq | eq, filled, all, value⟩ <;> subst eq
    · have unsigned : cs.head? ≠ some '+' := fun plus =>
        absurd (all '+' (List.mem_of_head? plus)) (by decide)
      rw [behindPlus_of_ne unsigned]
      exact ⟨filled, all, value⟩
    · exact ⟨filled, all, value⟩
  · rintro ⟨filled, all, value⟩
    refine ⟨behindPlus cs, ?_, filled, all, value⟩
    by_cases plus : cs.head? = some '+'
    · obtain ⟨rest, rfl⟩ := List.head?_eq_some_iff.mp plus
      exact .inr rfl
    · exact .inl (behindPlus_of_ne plus).symm

theorem unsigned?_eq (bound : Nat) (s : String) :
    unsigned? bound s = (natural? (behindPlus s.toList)).filter (· < bound) := by
  unfold unsigned?
  by_cases plus : s.toList.head? = some '+'
  · obtain ⟨rest, signed⟩ := List.head?_eq_some_iff.mp plus
    rw [signed, behindPlus_plus]
    cases read : natural? rest with
    | none => simp [read]
    | some n => simp [read, Option.filter]
  · rw [behindPlus_of_ne plus]
    cases listed : s.toList with
    | nil => rfl
    | cons c cs =>
      rw [listed] at plus
      have other : c ≠ '+' := fun h => plus (by rw [h]; rfl)
      cases read : natural? (c :: cs) with
      | none => simp [other, read]
      | some n => simp [other, read, Option.filter]

/-- A text spells one number. -/
theorem IsNumeral.unique {s : String} {m n : Nat} (hm : IsNumeral s m) (hn : IsNumeral s n) :
    m = n :=
  Option.some.inj ((isNumeral_iff.mp hm).symm.trans (isNumeral_iff.mp hn))

/-- What is read as a number below a bound is a spelling of it. -/
theorem unsigned?_eq_some_iff {bound n : Nat} {s : String} :
    unsigned? bound s = some n ↔ IsNumeral s n ∧ n < bound := by
  rw [isNumeral_iff, unsigned?_eq, Option.filter_eq_some_iff, decide_eq_true_iff]

/-- The usual spelling of a number is one. -/
theorem isNumeral_toString (n : Nat) : IsNumeral (toString n) n :=
  ⟨Nat.toDigits 10 n, .inl Nat.toList_repr, Nat.toDigits_ne_nil,
    fun _ hc => Nat.isDigit_of_mem_toDigits (by omega) (by omega) hc,
    Nat.ofDigitChars_ten_toDigits⟩

end OneFs.Text
