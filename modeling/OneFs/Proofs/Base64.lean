import OneFs.Base64
import OneFs.Proofs.Text.Utf8

/-!
# Base64 there and back

Bytes are written in the letters of the standard alphabet, in groups of four that are filled up at
the end, and are read back from there.

- `letter_mem`, `number?_letter`: the letters and their numbers;
- `isPadded_encode`: the form of what is written;
- `decode?_encode`: what is written is read back.
-/

namespace OneFs.Base64

/-! ## Letters -/

/-- The letters of the standard, in the order of their numbers. -/
def alphabet : List Char :=
  "ABCDEFGHIJKLMNOPQRSTUVWXYZabcdefghijklmnopqrstuvwxyz0123456789+/".toList

theorem map_letter : (List.range 64).map letter = alphabet := by
  decide

theorem letter_mem {n : Nat} (small : n < 64) : letter n ∈ alphabet := by
  rw [← map_letter]
  exact List.mem_map_of_mem (List.mem_range.mpr small)

/-- A letter is read as its number. -/
theorem number?_letter {n : Nat} (small : n < 64) : number? (letter n) = some n := by
  have all : ∀ n < 64, number? (letter n) = some n := by decide
  exact all n small

/-- The sign that fills up the last group is no letter. -/
theorem letter_ne_fill (n : Nat) : letter n ≠ '=' := by
  have fill : '=' ∉ alphabet := by decide
  intro eq
  by_cases small : n < 64
  · exact fill (eq ▸ letter_mem small)
  · have last : letter n = '/' := by
      unfold letter
      rw [if_neg (by omega), if_neg (by omega), if_neg (by omega), if_neg (by omega)]
    rw [last] at eq
    cases eq

/-! ## The form of what is written -/

/-- Letters in groups of four, the last of which is filled up with at most two signs. -/
def IsPadded (cs : List Char) : Prop :=
  ∃ letters fill, cs = letters ++ List.replicate fill '=' ∧ (∀ c ∈ letters, c ∈ alphabet) ∧
    fill ≤ 2 ∧ 4 ∣ cs.length

theorem IsPadded.nil : IsPadded [] :=
  ⟨[], 0, rfl, List.forall_mem_nil _, by omega, by decide⟩

/-- A group of four letters in front. -/
theorem IsPadded.group {cs group : List Char} (h : IsPadded cs) (four : group.length = 4)
    (among : ∀ c ∈ group, c ∈ alphabet) : IsPadded (group ++ cs) := by
  obtain ⟨letters, fill, rfl, plain, few, groups⟩ := h
  refine ⟨group ++ letters, fill, by rw [List.append_assoc],
    List.forall_mem_append.mpr ⟨among, plain⟩, few, ?_⟩
  rw [List.length_append, four]
  omega

/-- Whatever the bytes are, they are written in that form. -/
theorem isPadded_encode (bs : List UInt8) : IsPadded (encode bs) := by
  induction bs using encode.induct with
  | case1 => exact .nil
  | case2 a =>
    have ha := a.toNat_lt
    refine ⟨[letter (a.toNat / 4), letter (a.toNat % 4 * 16)], 2, rfl, ?_, by omega, ⟨1, rfl⟩⟩
    simp only [List.forall_mem_cons]
    exact ⟨letter_mem (by omega), letter_mem (by omega), List.forall_mem_nil _⟩
  | case3 a b =>
    have ha := a.toNat_lt
    have hb := b.toNat_lt
    refine ⟨[letter ((a.toNat * 256 + b.toNat) / 1024),
      letter ((a.toNat * 256 + b.toNat) / 16 % 64), letter ((a.toNat * 256 + b.toNat) % 16 * 4)],
      1, rfl, ?_, by omega, ⟨1, rfl⟩⟩
    simp only [List.forall_mem_cons]
    exact ⟨letter_mem (by omega), letter_mem (by omega), letter_mem (by omega),
      List.forall_mem_nil _⟩
  | case4 a b c rest ih =>
    have ha := a.toNat_lt
    have hb := b.toNat_lt
    have hc := c.toNat_lt
    have among : ∀ x ∈ [letter (((a.toNat * 256 + b.toNat) * 256 + c.toNat) / 262144),
        letter (((a.toNat * 256 + b.toNat) * 256 + c.toNat) / 4096 % 64),
        letter (((a.toNat * 256 + b.toNat) * 256 + c.toNat) / 64 % 64),
        letter (((a.toNat * 256 + b.toNat) * 256 + c.toNat) % 64)], x ∈ alphabet := by
      simp only [List.forall_mem_cons]
      exact ⟨letter_mem (by omega), letter_mem (by omega), letter_mem (by omega),
        letter_mem (by omega), List.forall_mem_nil _⟩
    exact ih.group rfl among

/-! ## Reading back -/

theorem toUInt8_eq {n : Nat} {b : UInt8} (h : n = b.toNat) : n.toUInt8 = b := by
  rw [h]
  exact UInt8.ofNat_toNat

/-- One byte, from two letters. -/
theorem decode?_two {m n : Nat} (hm : m < 64) (hn : n < 64) (spare : n % 16 = 0) :
    decode? [letter m, letter n, '=', '='] = some [(m * 4 + n / 16).toUInt8] := by
  simp only [decode?, number?_letter hm, number?_letter hn, Option.bind_eq_bind, Option.bind_some,
    spare, if_true]

/-- Two bytes, from three letters. -/
theorem decode?_three {k m n : Nat} (hk : k < 64) (hm : m < 64) (hn : n < 64) (spare : n % 4 = 0) :
    decode? [letter k, letter m, letter n, '='] =
      some [(k * 4 + m / 16).toUInt8, (m % 16 * 16 + n / 4).toUInt8] := by
  rw [decode?]
  · simp only [number?_letter hk, number?_letter hm, number?_letter hn, Option.bind_eq_bind,
      Option.bind_some, spare, if_true]
  · exact letter_ne_fill n

/-- Three bytes, from four letters. -/
theorem decode?_four {k l m n : Nat} (hk : k < 64) (hl : l < 64) (hm : m < 64) (hn : n < 64)
    (rest : List Char) :
    decode? (letter k :: letter l :: letter m :: letter n :: rest) =
      (decode? rest).map fun bytes => (k * 4 + l / 16).toUInt8 ::
        (l % 16 * 16 + m / 4).toUInt8 :: (m % 4 * 64 + n).toUInt8 :: bytes := by
  rw [decode?]
  · simp only [number?_letter hk, number?_letter hl, number?_letter hm, number?_letter hn,
      Option.bind_eq_bind, Option.bind_some]
    cases decode? rest <;> rfl
  · exact fun fill _ _ => letter_ne_fill m fill
  · exact fun fill _ => letter_ne_fill n fill

/-- Bytes are read back from their letters. -/
theorem decode?_encode (bs : List UInt8) : decode? (encode bs) = some bs := by
  induction bs using encode.induct with
  | case1 => rfl
  | case2 a =>
    have ha := a.toNat_lt
    have byte : (a.toNat / 4 * 4 + a.toNat % 4 * 16 / 16).toUInt8 = a := toUInt8_eq (by omega)
    rw [encode, decode?_two (by omega) (by omega) (by omega), byte]
  | case3 a b =>
    have ha := a.toNat_lt
    have hb := b.toNat_lt
    rw [encode, decode?_three (by omega) (by omega) (by omega) (by omega)]
    simp only [Option.some.injEq, List.cons.injEq, and_true]
    exact ⟨toUInt8_eq (by omega), toUInt8_eq (by omega)⟩
  | case4 a b c rest ih =>
    have ha := a.toNat_lt
    have hb := b.toNat_lt
    have hc := c.toNat_lt
    rw [encode, decode?_four (by omega) (by omega) (by omega) (by omega), ih, Option.map_some]
    simp only [Option.some.injEq, List.cons.injEq, and_true]
    exact ⟨toUInt8_eq (by omega), toUInt8_eq (by omega), toUInt8_eq (by omega)⟩

end OneFs.Base64
