import OneFs.Proofs.Url.Endpoint
import OneFs.Url.Form

/-!
# Form-encoded pairs

- `componentText_component`: a key or a value is read back from its encoding;
- `decode_encode`: so is a list of pairs;
- `length_lt_encode`: a query is longer than the values in it.
-/

namespace OneFs.Form

open Text Text.Utf8

/-! ## Keys and values -/

/-- What stands for itself is neither a percent sign nor one of the marks between keys and values. -/
theorem isPlain_spec {c : Char} (h : isPlain c = true) : c ≠ '%' ∧ c ≠ '+' ∧ c ≠ '&' ∧ c ≠ '=' := by
  refine ⟨?_, ?_, ?_, ?_⟩ <;> rintro rfl <;> exact absurd h (by decide)

/-- The digits of triples stand for themselves. -/
theorem isPlain_hexDigit : ∀ n < 16, isPlain (Percent.hexDigit n) = true := by
  decide

/-- The characters of a triple are its percent sign and digits. -/
theorem mem_triples {c x : Char} (h : x ∈ Percent.triples c) : x = '%' ∨ isPlain x = true := by
  obtain ⟨b, -, hx⟩ := List.mem_flatMap.mp h
  have := b.toNat_lt
  simp only [Percent.triple, List.mem_cons, List.not_mem_nil, or_false] at hx
  rcases hx with rfl | rfl | rfl
  · exact .inl rfl
  · exact .inr (isPlain_hexDigit _ (by omega))
  · exact .inr (isPlain_hexDigit _ (by omega))

/-- No mark that stands between keys and values stands in one. -/
theorem mem_component {s : String} {x : Char} (h : x ∈ component s) : x ≠ '&' ∧ x ≠ '=' := by
  obtain ⟨c, -, hx⟩ := List.mem_flatMap.mp h
  unfold encodeChar at hx
  split at hx
  · rename_i plain
    rw [List.mem_singleton.mp hx]
    exact (isPlain_spec plain).2.2
  · split at hx
    · rw [List.mem_singleton.mp hx]
      decide
    · rcases mem_triples hx with rfl | plain
      · decide
      · exact (isPlain_spec plain).2.2

/-- A plus sign stands for a space. -/
def spaced (c : Char) : Char :=
  if c == '+' then ' ' else c

theorem map_spaced {cs : List Char} (h : ∀ c ∈ cs, c ≠ '+') : cs.map spaced = cs := by
  have same : ∀ c ∈ cs, spaced c = id c := by
    intro c hc
    unfold spaced
    rw [beq_eq_false_iff_ne.mpr (h c hc)]
    rfl
  rw [List.map_congr_left same, List.map_id]

/-- An encoded character stands for its bytes. -/
theorem decode_encodeChar (c : Char) (rest : List Char) :
    Percent.decode ((encodeChar c).map spaced ++ rest) = bytesOfChar c ++ Percent.decode rest := by
  unfold encodeChar
  split
  · rename_i plain
    obtain ⟨percent, plus, -⟩ := isPlain_spec plain
    rw [map_spaced (by simpa using plus), List.singleton_append, Percent.decode_of_ne percent]
  · split
    · rename_i space
      rw [eq_of_beq space]
      exact Percent.decode_of_ne (by decide) rest
    · have free : ∀ x ∈ Percent.triples c, x ≠ '+' := by
        intro x hx
        rcases mem_triples hx with rfl | plain
        · decide
        · exact (isPlain_spec plain).2.1
      rw [map_spaced free, Percent.decode_triples]

/-- A key or a value is read back from its encoding. -/
theorem componentText_component (s : String) : componentText (component s) = s := by
  have read : ∀ cs : List Char,
      Percent.decode ((cs.flatMap encodeChar).map spaced) = cs.flatMap bytesOfChar := by
    intro cs
    induction cs with
    | nil => exact Percent.decode_nil
    | cons c cs ih =>
      rw [List.flatMap_cons, List.map_append, decode_encodeChar, ih, List.flatMap_cons]
  show Text.Utf8.text (Percent.decode ((s.toList.flatMap encodeChar).map spaced)) = s
  rw [read]
  exact text_bytes s

/-! ## Pairs -/

/-- A pair is read back from its encoding. -/
theorem pairOf_pair (p : String × String) : pairOf (pair p) = p := by
  have inside : ∀ c ∈ component p.1, (c != '=') = true := fun c hc => by
    simpa using (mem_component hc).2
  have front : (pair p).takeWhile (· != '=') = component p.1 := by
    unfold pair
    rw [List.takeWhile_append_of_pos inside, List.takeWhile_cons_of_neg (by decide),
      List.append_nil]
  have back : (pair p).dropWhile (· != '=') = '=' :: component p.2 := by
    unfold pair
    rw [List.dropWhile_append_of_pos inside, List.dropWhile_cons_of_neg (by decide)]
  unfold pairOf
  rw [front, back, componentText_component]
  exact congrArg (Prod.mk p.1) (componentText_component p.2)

/-- What has no separator in it is one piece. -/
theorem pieces_alone {sep : Char → Bool} {cs : List Char} (h : ∀ c ∈ cs, sep c = false) :
    pieces sep cs = [cs] := by
  induction cs with
  | nil => rfl
  | cons c cs ih =>
    rw [pieces, h c List.mem_cons_self, ih fun d hd => h d (List.mem_cons_of_mem c hd)]
    rfl

theorem pieces_pair (p : String × String) : pieces (· == '&') (pair p) = [pair p] := by
  refine pieces_alone fun c hc => ?_
  rw [beq_eq_false_iff_ne]
  rcases List.mem_append.mp hc with hc | hc
  · exact (mem_component hc).1
  · rcases List.mem_cons.mp hc with rfl | hc
    · decide
    · exact (mem_component hc).1

/-- The pieces of a query are its pairs. -/
theorem pieces_encode (p : String × String) (ps : List (String × String)) :
    pieces (· == '&') (encode (p :: ps)) = (p :: ps).map pair := by
  induction ps generalizing p with
  | nil => exact pieces_pair p
  | cons q ps ih =>
    show pieces (· == '&') (pair p ++ '&' :: encode (q :: ps)) = _
    rw [Url.pieces_append (by decide), pieces_pair, ih]
    rfl

/-- Pairs are read back from the query that they make up, in their order. -/
theorem decode_encode (ps : List (String × String)) : decode (encode ps) = ps := by
  cases ps with
  | nil => rfl
  | cons p ps =>
    have filled : ∀ piece ∈ (p :: ps).map pair, (!piece.isEmpty) = true := by
      intro piece hpiece
      obtain ⟨q, -, rfl⟩ := List.mem_map.mp hpiece
      simp [pair]
    unfold decode
    rw [pieces_encode, List.filter_eq_self.mpr filled, List.map_map]
    have back : ∀ q ∈ p :: ps, (pairOf ∘ pair) q = id q := fun q _ => pairOf_pair q
    rw [List.map_congr_left back, List.map_id]

/-! ## Sizes -/

/-- Every character takes at least one in a key or a value. -/
theorem length_component (s : String) : s.toList.length ≤ (component s).length := by
  have some_char : ∀ c : Char, 1 ≤ (encodeChar c).length := by
    intro c
    unfold encodeChar
    split
    · exact Nat.le_refl 1
    · split
      · exact Nat.le_refl 1
      · cases bytes : bytesOfChar c with
        | nil => exact absurd bytes (bytesOfChar_ne_nil c)
        | cons b bs => simp [Percent.triples, bytes, Percent.triple]
  have each : ∀ cs : List Char, cs.length ≤ (cs.flatMap encodeChar).length := by
    intro cs
    induction cs with
    | nil => exact Nat.le_refl 0
    | cons c cs ih =>
      have first := some_char c
      rw [List.flatMap_cons, List.length_append, List.length_cons]
      omega
  exact each s.toList

/-- Every character takes at least one byte. -/
theorem length_le_utf8ByteSize (cs : List Char) : cs.length ≤ (String.ofList cs).utf8ByteSize := by
  induction cs with
  | nil => exact Nat.zero_le _
  | cons c cs ih =>
    have first := c.utf8Size_pos
    rw [String.ofList_cons, String.utf8ByteSize_append, String.utf8ByteSize_singleton,
      List.length_cons]
    omega

/-- A query with a value takes more bytes than the value has characters. -/
theorem length_lt_encode (key value : String) :
    value.toList.length < (String.ofList (encode [(key, value)])).utf8ByteSize := by
  have long := length_component value
  have bytes := length_le_utf8ByteSize (encode [(key, value)])
  have whole : (encode [(key, value)]).length =
      (component key).length + ((component value).length + 1) := by
    simp [encode, pair]
  omega

end OneFs.Form
