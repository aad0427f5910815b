import OneFs.Text.Utf8

/-!
# Texts and their bytes

- `decodeLossy_bytesOfChar`: the bytes of a character are read as that character;
- `text_bytes`: reading the bytes of a text gives the text;
- `flatMap_bytesOfChar_injective`: different characters have different bytes.
-/

namespace OneFs.Text.Utf8

/-! ## Sequences by their length -/

theorem decodeLossy_one (b : UInt8) (rest : List UInt8) (h : b.toNat < 0x80) :
    decodeLossy (b :: rest) = Char.ofNat b.toNat :: decodeLossy rest := by
  have first : b < 0x80 := UInt8.lt_iff_toNat_lt.mpr h
  rw [decodeLossy.eq_def]; exact if_pos first

theorem between {a b n : Nat} {x y z : UInt8} (ha : x.toNat = a) (hb : z.toNat = b)
    (hn : y.toNat = n) (low : a ≤ n) (high : n ≤ b) :
    (decide (x ≤ y) && decide (y ≤ z)) = true := by
  simp only [Bool.and_eq_true, decide_eq_true_eq, UInt8.le_iff_toNat_le, ha, hb, hn]
  exact ⟨low, high⟩

theorem not_between {a b n : Nat} {x y z : UInt8} (ha : x.toNat = a) (hb : z.toNat = b)
    (hn : y.toNat = n) (h : n < a ∨ b < n) :
    ¬ (decide (x ≤ y) && decide (y ≤ z)) = true := by
  simp only [Bool.and_eq_true, decide_eq_true_eq, UInt8.le_iff_toNat_le, ha, hb, hn]
  omega

theorem not_small {b : UInt8} (h : 0x80 ≤ b.toNat) : ¬ b < 0x80 := by
  rw [UInt8.lt_iff_toNat_lt]
  exact Nat.not_lt.mpr h

theorem decodeLossy_two (b c : UInt8) (rest : List UInt8) (first : 0xC2 ≤ b.toNat ∧ b.toNat ≤ 0xDF)
    (second : isTail c = true) :
    decodeLossy (b :: c :: rest) =
      Char.ofNat (b.toNat % 32 * 64 + low c) :: decodeLossy rest := by
  have h₁ := not_small (b := b) (by omega)
  have h₂ : (decide (0xC2 ≤ b) && decide (b ≤ 0xDF)) = true :=
    between rfl rfl rfl first.1 first.2
  rw [decodeLossy.eq_def]
  simp only [if_neg h₁, if_pos h₂, if_pos second]

theorem decodeLossy_three (b c d : UInt8) (rest : List UInt8)
    (first : 0xE0 ≤ b.toNat ∧ b.toNat ≤ 0xEF) (second : secondOfThree b c = true)
    (third : isTail d = true) :
    decodeLossy (b :: c :: d :: rest) =
      Char.ofNat ((b.toNat % 16 * 64 + low c) * 64 + low d) :: decodeLossy rest := by
  have h₁ := not_small (b := b) (by omega)
  have h₂ : ¬ (decide (0xC2 ≤ b) && decide (b ≤ 0xDF)) = true :=
    not_between rfl rfl rfl (.inr (by change 0xDF < b.toNat; omega))
  have h₃ : (decide (0xE0 ≤ b) && decide (b ≤ 0xEF)) = true :=
    between rfl rfl rfl first.1 first.2
  rw [decodeLossy.eq_def]
  simp only [if_neg h₁, if_neg h₂, if_pos h₃, if_pos second, if_pos third]

theorem decodeLossy_four (b c d e : UInt8) (rest : List UInt8)
    (first : 0xF0 ≤ b.toNat ∧ b.toNat ≤ 0xF4) (second : secondOfFour b c = true)
    (third : isTail d = true) (fourth : isTail e = true) :
    decodeLossy (b :: c :: d :: e :: rest) =
      Char.ofNat (((b.toNat % 8 * 64 + low c) * 64 + low d) * 64 + low e) :: decodeLossy rest := by
  have h₁ := not_small (b := b) (by omega)
  have h₂ : ¬ (decide (0xC2 ≤ b) && decide (b ≤ 0xDF)) = true :=
    not_between rfl rfl rfl (.inr (by change 0xDF < b.toNat; omega))
  have h₃ : ¬ (decide (0xE0 ≤ b) && decide (b ≤ 0xEF)) = true :=
    not_between rfl rfl rfl (.inr (by change 0xEF < b.toNat; omega))
  have h₄ : (decide (0xF0 ≤ b) && decide (b ≤ 0xF4)) = true :=
    between rfl rfl rfl first.1 first.2
  rw [decodeLossy.eq_def]
  simp only [if_neg h₁, if_neg h₂, if_neg h₃, if_pos h₄, if_pos second, if_pos third,
    if_pos fourth]

/-! ## Characters -/

theorem toNat_toUInt8 {n : Nat} (h : n < 256) : n.toUInt8.toNat = n := by
  simp [Nat.toUInt8, UInt8.toNat_ofNat', Nat.mod_eq_of_lt h]

/-- A byte that carries six bits follows another, and is read as these bits. -/
theorem isTail_toUInt8 {n : Nat} (h : n < 64) : isTail (0x80 + n).toUInt8 = true :=
  between (a := 0x80) (b := 0xBF) rfl rfl (toNat_toUInt8 (by omega)) (by omega) (by omega)

theorem low_toUInt8 {n : Nat} (h : n < 64) : low (0x80 + n).toUInt8 = n := by
  unfold low
  rw [toNat_toUInt8 (by omega)]
  omega

theorem beq_iff_toNat (x y : UInt8) : (x == y) = true ↔ x.toNat = y.toNat := by
  rw [beq_iff_eq, UInt8.toNat_inj]

/-- The first byte of three does not admit what would be two bytes or a surrogate. -/
theorem secondOfThree_toUInt8 {n : Nat} (low : 0x800 ≤ n) (high : n < 0x10000)
    (valid : n < 0xD800 ∨ 0xDFFF < n) :
    secondOfThree (0xE0 + n / 4096).toUInt8 (0x80 + n / 64 % 64).toUInt8 = true := by
  have first : (0xE0 + n / 4096).toUInt8.toNat = 0xE0 + n / 4096 := toNat_toUInt8 (by omega)
  have second : (0x80 + n / 64 % 64).toUInt8.toNat = 0x80 + n / 64 % 64 :=
    toNat_toUInt8 (by omega)
  unfold secondOfThree
  split
  next h =>
    have : 0xE0 + n / 4096 = 0xE0 := first.symm.trans ((beq_iff_toNat _ _).mp h)
    exact between (a := 0xA0) (b := 0xBF) rfl rfl second (by omega) (by omega)
  next =>
    split
    next h =>
      have : 0xE0 + n / 4096 = 0xED := first.symm.trans ((beq_iff_toNat _ _).mp h)
      exact between (a := 0x80) (b := 0x9F) rfl rfl second (by omega) (by omega)
    next => exact isTail_toUInt8 (by omega)

/-- The first byte of four does not admit what would be three bytes or beyond all characters. -/
theorem secondOfFour_toUInt8 {n : Nat} (low : 0x10000 ≤ n) (high : n < 0x110000) :
    secondOfFour (0xF0 + n / 262144).toUInt8 (0x80 + n / 4096 % 64).toUInt8 = true := by
  have first : (0xF0 + n / 262144).toUInt8.toNat = 0xF0 + n / 262144 := toNat_toUInt8 (by omega)
  have second : (0x80 + n / 4096 % 64).toUInt8.toNat = 0x80 + n / 4096 % 64 :=
    toNat_toUInt8 (by omega)
  unfold secondOfFour
  split
  next h =>
    have : 0xF0 + n / 262144 = 0xF0 := first.symm.trans ((beq_iff_toNat _ _).mp h)
    exact between (a := 0x90) (b := 0xBF) rfl rfl second (by omega) (by omega)
  next =>
    split
    next h =>
      have : 0xF0 + n / 262144 = 0xF4 := first.symm.trans ((beq_iff_toNat _ _).mp h)
      exact between (a := 0x80) (b := 0x8F) rfl rfl second (by omega) (by omega)
    next => exact isTail_toUInt8 (by omega)

/-- The bytes of a character are read as the character, whatever follows them. -/
theorem decodeLossy_bytesOfChar (c : Char) (rest : List UInt8) :
    decodeLossy (bytesOfChar c ++ rest) = c :: decodeLossy rest := by
  have valid : c.toNat < 0xD800 ∨ 0xDFFF < c.toNat ∧ c.toNat < 0x110000 := c.valid
  have back : ∀ n, n = c.toNat → Char.ofNat n = c := by
    rintro n rfl
    exact Char.ofNat_toNat c
  unfold bytesOfChar
  simp only
  generalize c.toNat = n at *
  -- One to four bytes, as the code point needs them.
  by_cases one : n < 0x80
  · have first : n.toUInt8.toNat = n := toNat_toUInt8 (by omega)
    rw [if_pos one, List.singleton_append, decodeLossy_one _ _ (by omega), back _ first]
  · rw [if_neg one]
    by_cases two : n < 0x800
    · have first : (0xC0 + n / 64).toUInt8.toNat = 0xC0 + n / 64 := toNat_toUInt8 (by omega)
      rw [if_pos two, List.cons_append, List.singleton_append,
        decodeLossy_two _ _ _ (by omega) (isTail_toUInt8 (by omega)), low_toUInt8 (by omega), first,
        back _ (by omega)]
    · rw [if_neg two]
      by_cases three : n < 0x10000
      · have first : (0xE0 + n / 4096).toUInt8.toNat = 0xE0 + n / 4096 :=
          toNat_toUInt8 (by omega)
        have second := secondOfThree_toUInt8 (n := n) (by omega) three (by omega)
        rw [if_pos three, List.cons_append, List.cons_append, List.singleton_append,
          decodeLossy_three _ _ _ _ (by omega) second (isTail_toUInt8 (by omega)),
          low_toUInt8 (by omega), low_toUInt8 (by omega), first, back _ (by omega)]
      · have first : (0xF0 + n / 262144).toUInt8.toNat = 0xF0 + n / 262144 :=
          toNat_toUInt8 (by omega)
        have second := secondOfFour_toUInt8 (n := n) (by omega) (by omega)
        rw [if_neg three, List.cons_append, List.cons_append, List.cons_append,
          List.singleton_append,
          decodeLossy_four _ _ _ _ _ (by omega) second (isTail_toUInt8 (by omega))
            (isTail_toUInt8 (by omega)),
          low_toUInt8 (by omega), low_toUInt8 (by omega), low_toUInt8 (by omega), first,
          back _ (by omega)]

/-! ## Texts -/

theorem decodeLossy_flatMap (cs : List Char) : decodeLossy (cs.flatMap bytesOfChar) = cs := by
  induction cs with
  | nil => rw [List.flatMap_nil, decodeLossy.eq_def]
  | cons c cs ih => rw [List.flatMap_cons, decodeLossy_bytesOfChar, ih]

/-- Reading the bytes of a text gives the text. -/
@[simp] theorem text_bytes (s : String) : text (bytes s) = s := by
  unfold text bytes
  rw [decodeLossy_flatMap, String.ofList_toList]

/-- Different characters have different bytes. -/
theorem flatMap_bytesOfChar_injective {xs ys : List Char}
    (h : xs.flatMap bytesOfChar = ys.flatMap bytesOfChar) : xs = ys := by
  rw [← decodeLossy_flatMap xs, h, decodeLossy_flatMap]

theorem bytesOfChar_ne_nil (c : Char) : bytesOfChar c ≠ [] := by
  unfold bytesOfChar
  simp only
  split
  · simp
  · split
    · simp
    · split <;> simp

end OneFs.Text.Utf8
