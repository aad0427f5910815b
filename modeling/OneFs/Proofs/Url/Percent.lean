import OneFs.Proofs.Text.Utf8
import OneFs.Url.Percent

/-!
# Percent triples

- `decode_encode`: writing characters as triples does not change what a text stands for;
- `length_decode_le`: undoing triples makes no text longer;
- `decode_eq_iff`: it leaves a text as it is just if there are no triples in it.
-/

namespace OneFs.Percent

open Text Text.Utf8

/-! ## Undoing triples one by one -/

@[simp] theorem decode_nil : decode [] = [] := by rw [decode.eq_def]

theorem decode_of_ne {c : Char} (h : c ≠ '%') (cs : List Char) :
    decode (c :: cs) = bytesOfChar c ++ decode cs := by
  rw [decode.eq_def]
  split <;> simp_all

theorem decode_triple {a b : Char} {x : UInt8} (h : byte? a b = some x) (cs : List Char) :
    decode ('%' :: a :: b :: cs) = x :: decode cs := by
  rw [decode.eq_def]
  simp only [h]

/-- Whether a text goes on with the two digits of a triple. -/
def startsByte : List Char → Bool
  | a :: b :: _ => (byte? a b).isSome
  | _ => false

theorem decode_percent {cs : List Char} (h : startsByte cs = false) :
    decode ('%' :: cs) = bytesOfChar '%' ++ decode cs := by
  rw [decode.eq_def]
  rcases cs with _ | ⟨a, _ | ⟨b, rest⟩⟩
  · rfl
  · rfl
  · have none : byte? a b = none := by simpa [startsByte] using h
    simp only [none]

/-- Every text is empty, starts with a triple, or starts with a character that is none. -/
theorem cases_decode (cs : List Char) :
    cs = [] ∨ (∃ a b rest x, byte? a b = some x ∧ cs = '%' :: a :: b :: rest) ∨
      ∃ c rest, (c = '%' → startsByte rest = false) ∧ cs = c :: rest := by
  rcases cs with _ | ⟨c, rest⟩
  · exact .inl rfl
  right
  by_cases percent : c = '%'
  · subst percent
    cases h : startsByte rest with
    | false => exact .inr ⟨'%', rest, fun _ => h, rfl⟩
    | true =>
      rcases rest with _ | ⟨a, _ | ⟨b, rest⟩⟩
      · cases h
      · cases h
      · obtain ⟨x, hx⟩ := Option.isSome_iff_exists.mp h
        exact .inl ⟨a, b, rest, x, hx, rfl⟩
  · exact .inr ⟨c, rest, fun h => absurd h percent, rfl⟩

theorem decode_plain {c : Char} {cs : List Char} (h : c = '%' → startsByte cs = false) :
    decode (c :: cs) = bytesOfChar c ++ decode cs := by
  by_cases percent : c = '%'
  · subst percent
    exact decode_percent (h rfl)
  · exact decode_of_ne percent cs

/-! ## Lengths -/

theorem length_bytesOfChar_pos (c : Char) : 0 < (bytesOfChar c).length :=
  List.length_pos_iff.mpr (bytesOfChar_ne_nil c)

/-- Undoing triples leaves a text as it is or makes it shorter. -/
theorem decode_eq_or_lt (cs : List Char) :
    decode cs = cs.flatMap bytesOfChar ∨
      (decode cs).length < (cs.flatMap bytesOfChar).length := by
  induction h : cs.length using Nat.strongRecOn generalizing cs with
  | ind n ih =>
    rcases cases_decode cs with rfl | ⟨a, b, rest, x, byte, rfl⟩ | ⟨c, rest, plain, rfl⟩
    · exact .inl decode_nil
    · have later := ih rest.length (by simp [← h]; omega) rest rfl
      have := length_bytesOfChar_pos '%'
      have := length_bytesOfChar_pos a
      right
      simp only [decode_triple byte, List.flatMap_cons, List.length_append, List.length_cons]
      rcases later with eq | lt
      · rw [eq]
        omega
      · omega
    · rw [decode_plain plain, List.flatMap_cons]
      rcases ih rest.length (by simp [← h]) rest rfl with eq | lt
      · exact .inl (by rw [eq])
      · exact .inr (by simp only [List.length_append]; omega)

/-- Undoing triples makes no text longer. -/
theorem length_decode_le (cs : List Char) :
    (decode cs).length ≤ (cs.flatMap bytesOfChar).length := by
  rcases decode_eq_or_lt cs with eq | lt
  · exact Nat.le_of_eq (by rw [eq])
  · exact Nat.le_of_lt lt

/-- No `%` is followed by two hexadecimal digits. -/
def HasNoTriple (cs : List Char) : Prop :=
  ∀ before a b after, cs = before ++ '%' :: a :: b :: after → byte? a b = none

theorem HasNoTriple.tail {c : Char} {cs : List Char} (h : HasNoTriple (c :: cs)) :
    HasNoTriple cs :=
  fun before a b after eq => h (c :: before) a b after (by rw [eq, List.cons_append])

theorem HasNoTriple.infix {cs s : List Char} (h : HasNoTriple cs)
    (sub : ∃ before after, cs = before ++ s ++ after) : HasNoTriple s := by
  obtain ⟨before, after, rfl⟩ := sub
  rintro x a b y rfl
  exact h (before ++ x) a b (y ++ after) (by simp)

/-- Undoing triples leaves a text as it is just if there are no triples in it. -/
theorem decode_eq_iff (cs : List Char) :
    decode cs = cs.flatMap bytesOfChar ↔ HasNoTriple cs := by
  induction h : cs.length using Nat.strongRecOn generalizing cs with
  | ind n ih =>
    rcases cases_decode cs with rfl | ⟨a, b, rest, x, byte, rfl⟩ | ⟨c, rest, plain, rfl⟩
    · simp [HasNoTriple]
    · constructor
      -- A triple in front becomes one byte instead of three, and the rest never makes up for it.
      · intro eq
        have shorter := congrArg List.length eq
        have := length_decode_le rest
        have := length_bytesOfChar_pos '%'
        have := length_bytesOfChar_pos a
        simp only [decode_triple byte, List.flatMap_cons, List.length_append,
          List.length_cons] at shorter
        have := length_bytesOfChar_pos b
        omega
      · intro none
        rw [none [] a b rest rfl] at byte
        cases byte
    · rw [decode_plain plain, List.flatMap_cons, List.append_cancel_left_eq,
        ih rest.length (by simp [← h]) rest rfl]
      constructor
      · rintro none before a b after eq
        cases before with
        | nil =>
          obtain ⟨rfl, rfl⟩ := List.cons.inj eq
          simpa [startsByte] using plain rfl
        | cons d before => exact none before a b after (List.cons.inj eq).2
      · exact HasNoTriple.tail

/-! ## Writing triples -/

theorem hexValue_hexDigit : ∀ n < 16, hexValue? (hexDigit n) = some n := by
  decide

theorem byte_hexDigit (b : UInt8) :
    byte? (hexDigit (b.toNat / 16)) (hexDigit (b.toNat % 16)) = some b := by
  have := b.toNat_lt
  unfold byte?
  rw [hexValue_hexDigit _ (by omega), hexValue_hexDigit _ (by omega)]
  simp only [Option.bind_eq_bind, Option.bind_some, Option.pure_def, Option.some.injEq]
  rw [Nat.div_add_mod' b.toNat 16]
  exact UInt8.ofNat_toNat

theorem decode_triples (c : Char) (cs : List Char) :
    decode (triples c ++ cs) = bytesOfChar c ++ decode cs := by
  unfold triples
  induction bytesOfChar c with
  | nil => rfl
  | cons b bs ih =>
    rw [List.flatMap_cons, List.append_assoc]
    change decode ('%' :: _ :: _ :: (bs.flatMap triple ++ cs)) = _
    rw [decode_triple (byte_hexDigit b), ih, List.cons_append]

/-- The digits of a triple are not themselves written as triples. -/
theorem not_inPath_of_hexValue {c : Char} (h : (hexValue? c).isSome = true) :
    inPath c = false := by
  have ascii : ∀ n < 0x80, (hexValue? (Char.ofNat n)).isSome = true →
      inPath (Char.ofNat n) = false := by decide
  have small : c.toNat < 0x80 := by
    unfold hexValue? at h
    simp only at h
    split at h
    · omega
    · split at h
      · omega
      · split at h
        · omega
        · simp at h
  have := ascii c.toNat small
  rw [Char.ofNat_toNat] at this
  exact this h

theorem byte_none_left {a : Char} (h : hexValue? a = none) (b : Char) : byte? a b = none := by
  simp [byte?, h]

theorem byte_none_right (a : Char) {b : Char} (h : hexValue? b = none) : byte? a b = none := by
  cases ha : hexValue? a <;> simp [byte?, h, ha]

theorem hexValue_of_byte {a b : Char} {x : UInt8} (h : byte? a b = some x) :
    (hexValue? a).isSome = true ∧ (hexValue? b).isSome = true := by
  constructor
  · cases ha : hexValue? a with
    | none => rw [byte_none_left ha] at h; cases h
    | some _ => rfl
  · cases hb : hexValue? b with
    | none => rw [byte_none_right a hb] at h; cases h
    | some _ => rfl

/-- The triples of a character start with a percent sign. -/
theorem triples_eq_cons (c : Char) : ∃ a b rest, triples c = '%' :: a :: b :: rest := by
  unfold triples
  obtain ⟨b, bs, h⟩ := List.exists_cons_of_ne_nil (bytesOfChar_ne_nil c)
  rw [h]
  exact ⟨_, _, bs.flatMap triple, rfl⟩

theorem encode_cons (excluded : Char → Bool) (c : Char) (cs : List Char) :
    encode excluded (c :: cs) =
      (if excluded c then triples c else [c]) ++ encode excluded cs := by
  rw [encode, List.flatMap_cons]
  rfl

/-- No triple comes about by writing others. -/
theorem startsByte_encode {cs : List Char} (h : startsByte cs = false) :
    startsByte (encode inPath cs) = false := by
  have percent : hexValue? '%' = none := by decide
  -- A digit is never written as a triple, and a triple begins with no digit.
  cases cs with
  | nil => rfl
  | cons a rest =>
    rw [encode_cons]
    by_cases ha : inPath a = true
    · obtain ⟨d, e, more, eq⟩ := triples_eq_cons a
      rw [if_pos ha, eq]
      simp only [List.cons_append, startsByte, byte_none_left percent, Option.isSome_none]
    · rw [if_neg ha, List.singleton_append]
      cases rest with
      | nil => rfl
      | cons b rest =>
        rw [encode_cons]
        by_cases hb : inPath b = true
        · obtain ⟨d, e, more, eq⟩ := triples_eq_cons b
          rw [if_pos hb, eq]
          simp only [List.cons_append, startsByte, byte_none_right a percent, Option.isSome_none]
        · rw [if_neg hb, List.singleton_append]
          exact h

/-- Writing characters as triples does not change what a text stands for. -/
theorem decode_encode (cs : List Char) : decode (encode inPath cs) = decode cs := by
  induction h : cs.length using Nat.strongRecOn generalizing cs with
  | ind n ih =>
    rcases cases_decode cs with rfl | ⟨a, b, rest, x, byte, rfl⟩ | ⟨c, rest, plain, rfl⟩
    · rfl
    · obtain ⟨ha, hb⟩ := hexValue_of_byte byte
      have percent : inPath '%' = false := by decide
      rw [encode_cons, encode_cons, encode_cons, percent, not_inPath_of_hexValue ha,
        not_inPath_of_hexValue hb, decode_triple byte]
      change decode ('%' :: a :: b :: encode inPath rest) = _
      rw [decode_triple byte, ih rest.length (by simp [← h]; omega) rest rfl]
    · rw [encode_cons, decode_plain plain, ← ih rest.length (by simp [← h]) rest rfl]
      by_cases hc : inPath c = true
      · rw [if_pos hc, decode_triples]
      · rw [if_neg hc, List.singleton_append]
        exact decode_plain fun eq => startsByte_encode (plain eq)

/-- What is excluded does not stand in an encoded text. -/
theorem not_inPath_of_mem_encode (s : List Char) : ∀ x ∈ encode inPath s, inPath x = false := by
  have digit : ∀ n < 16, inPath (hexDigit n) = false := fun n h =>
    not_inPath_of_hexValue (by rw [hexValue_hexDigit n h]; rfl)
  intro x hx
  obtain ⟨c, -, hx⟩ := List.mem_flatMap.mp hx
  by_cases excluded : inPath c = true
  · rw [if_pos excluded] at hx
    obtain ⟨b, -, hx⟩ := List.mem_flatMap.mp hx
    have := b.toNat_lt
    simp only [triple, List.mem_cons, List.not_mem_nil, or_false] at hx
    rcases hx with rfl | rfl | rfl
    · decide
    · exact digit (b.toNat / 16) (by omega)
    · exact digit (b.toNat % 16) (by omega)
  · rw [if_neg excluded, List.mem_singleton] at hx
    rw [hx]
    simpa using excluded

/-- What stands in front of a character and what follows it can be read apart, unless it is a digit
or the sign in front of the digits. -/
theorem decode_append_mark {m : Char} (digit : hexValue? m = none) (percent : m ≠ '%')
    (xs ys : List Char) : decode (xs ++ m :: ys) = decode xs ++ (bytesOfChar m ++ decode ys) := by
  induction h : xs.length using Nat.strongRecOn generalizing xs with
  | ind n ih =>
    rcases cases_decode xs with rfl | ⟨a, b, rest, x, byte, rfl⟩ | ⟨c, rest, plain, rfl⟩
    · rw [List.nil_append, decode_of_ne percent]
      rfl
    · rw [decode_triple byte, List.cons_append, List.cons_append, List.cons_append,
        decode_triple byte, ih rest.length (by simp [← h]; omega) rest rfl, List.cons_append]
    -- It is no digit, so it completes no triple that the text in front of it leaves open.
    · have plain' : c = '%' → startsByte (rest ++ m :: ys) = false := by
        intro eq
        have same := plain eq
        rcases rest with _ | ⟨a, _ | ⟨b, rest⟩⟩
        · cases ys with
          | nil => rfl
          | cons y ys =>
            simp only [List.nil_append, startsByte, byte_none_left digit, Option.isSome_none]
        · simp only [List.singleton_append, startsByte, byte_none_right a digit,
            Option.isSome_none]
        · exact same
      rw [decode_plain plain, List.cons_append, decode_plain plain',
        ih rest.length (by simp [← h]) rest rfl, List.append_assoc]

/-- What stands in front of a slash and what follows it can be read apart. -/
theorem decode_append_slash (xs ys : List Char) :
    decode (xs ++ '/' :: ys) = decode xs ++ 0x2F :: decode ys :=
  decode_append_mark (by decide) (by decide) xs ys

end OneFs.Percent
