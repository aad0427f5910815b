import Mathlib.Data.List.Basic
import OneFs.Proofs.Url.Percent
import OneFs.Url.Parse

/-!
# Blanks in hosts

Blanks and control characters around a URL do not count, but none of them stands in a host or a
port. Nothing that is done to a domain makes one disappear: none is mapped, none is part of a
composed character, and every one is among the letters of its label. So they are still there when
the domain is looked through for them.

- `Unicode.mem_composed`: they are there after composition;
- `Domain.domain?_blank`: they make a domain none;
- `Url.hostAndPort_blank`: and a host and port, if one stands at the end.
-/

namespace OneFs

open Text

/-- What is made of the elements of a list one by one is made of each of them. -/
theorem exists_of_mapM {α β : Type} {f : α → Option β} {xs : List α} {ys : List β}
    (h : xs.mapM f = some ys) {x : α} (hx : x ∈ xs) : ∃ y ∈ ys, f x = some y := by
  induction xs generalizing ys with
  | nil => cases hx
  | cons a xs ih =>
    rw [List.mapM_cons] at h
    obtain ⟨y, first, h⟩ := Option.bind_eq_some_iff.mp h
    obtain ⟨rest, later, h⟩ := Option.bind_eq_some_iff.mp h
    cases h
    rcases List.mem_cons.mp hx with rfl | hx
    · exact ⟨y, List.mem_cons_self, first⟩
    · obtain ⟨z, hz, eq⟩ := ih later hx
      exact ⟨z, List.mem_cons_of_mem _ hz, eq⟩

/-- What holds of all blanks can be tried out. -/
theorem forall_blank (P : Char → Prop) (h : ∀ n ≤ 0x20, P (Char.ofNat n)) {b : Char}
    (low : b.toNat ≤ 0x20) : P b := by
  have this := h b.toNat low
  rwa [Char.ofNat_toNat] at this

/-! ## Mapping and composition -/

namespace Unicode

/-- The code points of a line of a table, without what is in front of them in ASCII. -/
def isAbove (line : List Char) : Bool :=
  (pieces (· == ' ') line).all fun entry =>
    (Table.row entry).all fun n => 0x20 < (Char.ofNat n).toNat

theorem forall_written {p : List Char → Bool} {first : List Char} {lines : List String}
    (head : p first = true) (tail : ∀ line ∈ lines, p line.toList = true) :
    ∀ line ∈ String.ofList first :: lines, p line.toList = true := by
  intro l hl
  rcases List.mem_cons.mp hl with rfl | hl
  · rw [String.toList_ofList]
    exact head
  · exact tail l hl

theorem pairTable_isAbove : ∀ line ∈ pairTable, isAbove line.toList = true := by
  unfold pairTable
  repeat' first | exact List.forall_mem_nil _ | refine forall_written (by decide +kernel) ?_

/-- No blank is made of two parts, or is one of two. -/
theorem pair_isAbove {p : Pair} (h : p ∈ pairs) :
    0x20 < p.whole.toNat ∧ 0x20 < p.first.toNat ∧ 0x20 < p.second.toNat := by
  obtain ⟨row, hrow, hp⟩ := List.mem_filterMap.mp h
  obtain ⟨entry, hentry, rfl⟩ := List.mem_map.mp hrow
  obtain ⟨line, hline, hentry⟩ := List.mem_flatMap.mp hentry
  have above : ∀ n ∈ Table.row entry, 0x20 < (Char.ofNat n).toNat := fun n hn =>
    of_decide_eq_true
      (List.all_eq_true.mp (List.all_eq_true.mp (pairTable_isAbove line hline) entry hentry) n hn)
  split at hp
  · rename_i whole first second eq
    cases hp
    exact ⟨above whole (by simp [eq]), above first (by simp [eq]), above second (by simp [eq])⟩
  · cases hp

variable {b : Char}

theorem parts?_blank (low : b.toNat ≤ 0x20) : parts? b = none := by
  have syllable : syllableParts? b = none := if_neg (by omega)
  have single : (pairs.find? fun p => p.whole == b) = none := by
    refine List.find?_eq_none.mpr fun p hp same => ?_
    have := (pair_isAbove hp).1
    rw [beq_iff_eq.mp same] at this
    omega
  rw [parts?, syllable, single]
  rfl

/-- What is put together is no blank. -/
theorem whole?_isAbove {a c whole : Char} (h : whole? a c = some whole) :
    0x20 < a.toNat ∧ 0x20 < c.toNat := by
  unfold whole? at h
  cases syllable : syllable? a c with
  | some s =>
    unfold syllable? at syllable
    split at syllable
    · omega
    · split at syllable
      · omega
      · cases syllable
  | none =>
    rw [syllable, Option.none_or, Option.map_eq_some_iff] at h
    obtain ⟨p, found, -⟩ := h
    have parts := List.find?_some found
    rw [Bool.and_eq_true, beq_iff_eq, beq_iff_eq] at parts
    have := (pair_isAbove (List.mem_of_find?_eq_some found)).2
    rwa [parts.1, parts.2] at this

theorem mem_insertMark {c : Char} {cs : List Char} : b ∈ insertMark c cs ↔ b ∈ c :: cs := by
  induction cs with
  | nil => rfl
  | cons d rest ih =>
    rw [insertMark]
    split
    · rw [List.mem_cons, ih]
      simp only [List.mem_cons]
      exact or_left_comm
    · rfl

theorem mem_decomposed (low : b.toNat ≤ 0x20) {cs : List Char} (h : b ∈ cs) :
    b ∈ decomposed cs := by
  have order : ∀ cs : List Char, b ∈ cs.foldr insertMark [] ↔ b ∈ cs := by
    intro cs
    induction cs with
    | nil => rfl
    | cons c cs ih => rw [List.foldr_cons, mem_insertMark, List.mem_cons, List.mem_cons, ih]
  refine (order _).mpr (List.mem_flatMap.mpr ⟨b, h, ?_⟩)
  rw [partsOf.eq_def, parts?_blank low]
  exact List.mem_singleton_self b

/-- A blank is never put together with what stands around it. -/
theorem mem_composeFrom (low : b.toNat ≤ 0x20) {base : Char} {marks rest : List Char}
    (h : b = base ∨ b ∈ marks ∨ b ∈ rest) : b ∈ composeFrom base marks rest := by
  induction rest generalizing base marks with
  | nil => simpa [composeFrom] using h
  | cons c rest ih =>
    rw [composeFrom]
    split
    · rename_i whole joined
      have parts : whole? base c = some whole := by
        split at joined
        · exact joined
        · cases joined
      have above := whole?_isAbove parts
      refine ih ?_
      rcases h with rfl | h | h
      · omega
      · exact .inr (.inl h)
      · rcases List.mem_cons.mp h with rfl | h
        · omega
        · exact .inr (.inr h)
    · split
      · rcases h with rfl | h | h
        · simp
        · simp [h]
        · refine List.mem_append_right _ (ih ?_)
          rcases List.mem_cons.mp h with rfl | h
          · exact .inl rfl
          · exact .inr (.inr h)
      · refine ih ?_
        rcases h with rfl | h | h
        · exact .inl rfl
        · exact .inr (.inl (List.mem_append_left _ h))
        · rcases List.mem_cons.mp h with rfl | h
          · exact .inr (.inl (List.mem_append_right _ (List.mem_singleton_self _)))
          · exact .inr (.inr h)

/-- Blanks stay when a text is put together. -/
theorem mem_composed (low : b.toNat ≤ 0x20) {cs : List Char} (h : b ∈ cs) : b ∈ composed cs := by
  have apart := mem_decomposed low h
  unfold composed
  split
  · rename_i none
    rw [none] at apart
    cases apart
  · rename_i c rest eq
    rw [eq] at apart
    rcases List.mem_cons.mp apart with rfl | h
    · exact mem_composeFrom low (.inl rfl)
    · exact mem_composeFrom low (.inr (.inr h))

/-- No domain is given with other characters in place of a blank. -/
theorem mem_mapped? (low : b.toNat ≤ 0x20) {cs mapped : List Char} (h : mapped? cs = some mapped)
    (hb : b ∈ cs) : b ∈ mapped := by
  have kept : mapping b = .kept := forall_blank (mapping · = .kept) (by decide) low
  unfold mapped? at h
  obtain ⟨parts, each, eq⟩ := Option.bind_eq_some_iff.mp h
  cases eq
  obtain ⟨part, hpart, result⟩ := exists_of_mapM each hb
  rw [kept] at result
  cases result
  exact List.mem_flatten_of_mem hpart (List.mem_singleton_self b)

end Unicode

/-! ## Labels -/

/-- The ASCII characters of a label are among the letters that stand for it. -/
theorem Punycode.mem_encode {label : List Char} {c : Char} (hc : c ∈ label)
    (ascii : c.toNat < 128) : c ∈ encode label := by
  -- Placing the other characters only adds letters.
  have pass : ∀ (basic n : Nat) (label : List Char) (p : Progress),
      p.out ⊆ (label.foldl (Progress.pass basic n) p).out := by
    intro basic n label
    induction label with
    | nil => exact fun p => List.Subset.refl _
    | cons d label ih =>
      refine fun p => List.Subset.trans ?_ (ih (p.pass basic n d))
      unfold Progress.pass
      split
      · exact List.Subset.refl _
      · split
        · exact List.subset_append_left _ _
        · exact List.Subset.refl _
  have place : ∀ (fuel basic n : Nat) (p : Progress),
      p.out ⊆ (placeAll fuel basic n label p).out := by
    intro fuel basic
    induction fuel with
    | zero =>
      intro n p
      rw [placeAll.eq_def]
      exact List.Subset.refl _
    | succ fuel ih =>
      intro n p
      rw [placeAll.eq_def]
      split
      · rename_i fuel m eq least
        cases eq
        intro x hx
        exact ih (m + 1) _ (pass basic m label _ hx)
      · exact List.Subset.refl _
  have basic : c ∈ label.filter fun c => c.toNat < 128 :=
    List.mem_filter.mpr ⟨hc, decide_eq_true ascii⟩
  refine place _ _ _ _ ?_
  dsimp only
  rw [if_neg fun none => List.ne_nil_of_mem basic (List.isEmpty_iff.mp none)]
  exact List.mem_append_left _ basic

namespace Domain

variable {b : Char}

theorem mem_label? (low : b.toNat ≤ 0x20) {piece : List Char} {l : Label}
    (h : label? piece = some l) (hb : b ∈ piece) : b ∈ l.ascii := by
  unfold label? at h
  split at h
  · rename_i encoded
    unfold ofLetters? at h
    split at h
    · cases h
    · split at h
      · cases h
        have start : piece.take 4 = ['x', 'n', '-', '-'] := beq_iff_eq.mp encoded
        rwa [← start, List.take_append_drop]
      · cases h
  · split at h
    · cases h
      exact hb
    · split at h
      · cases h
        exact List.mem_append_right _ (Punycode.mem_encode hb (by omega))
      · cases h

/-- What stands between separators is in one of the pieces. -/
theorem exists_mem_pieces (sep : Char → Bool) {c : Char} (other : sep c = false) {cs : List Char}
    (hc : c ∈ cs) : ∃ piece ∈ pieces sep cs, c ∈ piece := by
  induction cs with
  | nil => cases hc
  | cons d cs ih =>
    rw [pieces]
    by_cases ends : sep d = true
    · rw [if_pos ends]
      rcases List.mem_cons.mp hc with rfl | hc
      · rw [other] at ends
        cases ends
      · obtain ⟨piece, hp, hc⟩ := ih hc
        exact ⟨piece, List.mem_cons_of_mem _ hp, hc⟩
    · rw [if_neg ends]
      obtain ⟨first, rest, eq⟩ := List.exists_cons_of_ne_nil (pieces_ne_nil sep cs)
      rw [eq] at ih ⊢
      rcases List.mem_cons.mp hc with rfl | hc
      · exact ⟨_, List.mem_cons_self, List.mem_cons_self⟩
      · obtain ⟨piece, hp, hc⟩ := ih hc
        rcases List.mem_cons.mp hp with rfl | hp
        · exact ⟨_, List.mem_cons_self, List.mem_cons_of_mem _ hc⟩
        · exact ⟨piece, List.mem_cons_of_mem _ hp, hc⟩

theorem mem_joined {sep c : Char} {ps : List (List Char)} {p : List Char} (hp : p ∈ ps)
    (hc : c ∈ p) : c ∈ joined sep ps := by
  induction ps with
  | nil => cases hp
  | cons q ps ih =>
    cases ps with
    | nil =>
      rw [List.mem_singleton.mp hp] at hc
      exact hc
    | cons r ps =>
      rw [joined]
      rcases List.mem_cons.mp hp with rfl | hp
      · exact List.mem_append_left _ hc
      · exact List.mem_append_right _ (List.mem_cons_of_mem _ (ih hp))

/-- A byte below 128 is a character of its own. -/
theorem toNat_of_mem_bytesOfChar {c : Char} {x : UInt8} (h : x ∈ Utf8.bytesOfChar c)
    (ascii : x.toNat < 0x80) : c.toNat = x.toNat := by
  have valid : c.toNat < 0xD800 ∨ 0xDFFF < c.toNat ∧ c.toNat < 0x110000 := c.valid
  unfold Utf8.bytesOfChar at h
  dsimp only at h
  generalize c.toNat = n at *
  have value : ∀ m < 256, x = m.toUInt8 → x.toNat = m := by
    rintro m hm rfl
    exact Utf8.toNat_toUInt8 hm
  split at h
  · rw [value n (by omega) (List.mem_singleton.mp h)]
  -- All bytes of longer sequences are above.
  · exfalso
    split at h
    · simp only [List.mem_cons, List.not_mem_nil, or_false] at h
      rcases h with h | h
      · have := value _ (by omega) h
        omega
      · have := value _ (by omega) h
        omega
    · split at h
      · simp only [List.mem_cons, List.not_mem_nil, or_false] at h
        rcases h with h | h | h <;>
        · have := value _ (by omega) h
          omega
      · simp only [List.mem_cons, List.not_mem_nil, or_false] at h
        rcases h with h | h | h | h <;>
        · have := value _ (by omega) h
          omega

/-- No domain has a blank. -/
theorem domain?_blank {x : UInt8} (low : x.toNat ≤ 0x20) {bytes : List UInt8} (hx : x ∈ bytes) :
    domain? bytes = none := by
  cases found : domain? bytes with
  | none => rfl
  | some ascii =>
    exfalso
    unfold domain? at found
    obtain ⟨given, decoded, found⟩ := Option.bind_eq_some_iff.mp found
    obtain ⟨mapped, hmapped, found⟩ := Option.bind_eq_some_iff.mp found
    obtain ⟨labels, hlabels, found⟩ := Option.bind_eq_some_iff.mp found
    -- The blank is still there after every step.
    obtain ⟨b, hb, low⟩ : ∃ b ∈ given, b.toNat ≤ 0x20 := by
      unfold Utf8.decode? at decoded
      dsimp only at decoded
      split at decoded
      · rename_i same
        cases decoded
        rw [← same] at hx
        obtain ⟨b, hb, hx⟩ := List.mem_flatMap.mp hx
        exact ⟨b, hb, by rw [toNat_of_mem_bytesOfChar hx (by omega)]; exact low⟩
      · cases decoded
    have put := Unicode.mem_composed low (Unicode.mem_mapped? low hmapped hb)
    have dot : (b == '.') = false := forall_blank (fun b => (b == '.') = false) (by decide) low
    obtain ⟨piece, hpiece, hb⟩ := exists_mem_pieces (· == '.') dot put
    obtain ⟨label, hlabel, eq⟩ := exists_of_mapM hlabels hpiece
    have inAscii : b ∈ joined '.' (labels.map Label.ascii) :=
      mem_joined (List.mem_map_of_mem hlabel) (mem_label? low eq hb)
    have forbidden : (joined '.' (labels.map Label.ascii)).any isForbidden = true :=
      List.any_eq_true.mpr ⟨b, inAscii, by simp [isForbidden, low]⟩
    dsimp only at found
    rw [forbidden, Bool.or_true, if_pos rfl] at found
    cases found

end Domain

/-! ## Hosts and ports -/

/-- A text that ends in a blank is no host. -/
theorem Host.parse_blank {b : Char} (low : b.toNat ≤ 0x20) (cs : List Char) {h : Host} :
    Host.parse (cs ++ [b]) ≠ .ok h := by
  intro parsed
  have digit : hexValue? b = none := forall_blank (hexValue? · = none) (by decide) low
  have percent : b ≠ '%' := forall_blank (· ≠ '%') (by decide) low
  have bracket : b ≠ ']' := forall_blank (· ≠ ']') (by decide) low
  unfold Host.parse at parsed
  split at parsed
  -- An address ends in its bracket.
  · rename_i rest eq
    have last : rest.getLast? ≠ some ']' := by
      intro closed
      have whole := congrArg List.getLast? eq
      rw [List.getLast?_concat, List.getLast?_cons, closed] at whole
      exact bracket (Option.some.inj whole)
    unfold bracketed at parsed
    rw [if_neg fun h => last (beq_iff_eq.mp h)] at parsed
    cases parsed
  · have bytes : Percent.decode (cs ++ [b]) = Percent.decode cs ++ [b.toNat.toUInt8] := by
      rw [Percent.decode_append_mark digit percent, Percent.decode_nil, List.append_nil]
      unfold Utf8.bytesOfChar
      dsimp only
      rw [if_pos (by omega)]
    have value : b.toNat.toUInt8.toNat = b.toNat := Utf8.toNat_toUInt8 (by omega)
    rw [bytes, Domain.domain?_blank (by rw [value]; exact low)
      (List.mem_append_right _ (List.mem_singleton_self _))] at parsed
    cases parsed

namespace Url

/-- What stands last in an authority is last in the port, or in the host if there is no port. -/
theorem splitPort_concat (inside : Bool) (cs : List Char) {b : Char} (colon : b ≠ ':') :
    (∃ host, splitPort inside (cs ++ [b]) = (host ++ [b], none)) ∨
      ∃ host port, splitPort inside (cs ++ [b]) = (host, some (port ++ [b])) := by
  induction cs generalizing inside with
  | nil =>
    left
    refine ⟨[], ?_⟩
    rw [List.nil_append, splitPort, if_neg (by simp [colon])]
    rfl
  | cons c cs ih =>
    rw [List.cons_append, splitPort]
    by_cases ends : (c == ':' && !inside) = true
    · right
      exact ⟨[], cs, by rw [if_pos ends]⟩
    · rw [if_neg ends]
      rcases ih (c == '[' || (inside && c != ']')) with ⟨host, eq⟩ | ⟨host, port, eq⟩
      · left
        exact ⟨c :: host, by rw [eq]; rfl⟩
      · right
        exact ⟨c :: host, port, by rw [eq]⟩

/-- A text that ends in a blank is no host and port. -/
theorem hostAndPort_blank {scheme : String} (special : isSpecial scheme = true) {b : Char}
    (low : b.toNat ≤ 0x20) (cs : List Char) {found : Host × Option Nat} :
    hostAndPort scheme (cs ++ [b]) ≠ .ok found := by
  intro h
  have colon : b ≠ ':' := forall_blank (· ≠ ':') (by decide) low
  have digit : b.isDigit = false := forall_blank (·.isDigit = false) (by decide) low
  unfold hostAndPort at h
  rcases splitPort_concat false cs colon with ⟨host, eq⟩ | ⟨host, port, eq⟩
  · rw [eq] at h
    have filled : (host ++ [b]).isEmpty = false := by simp
    simp only [special, filled, Bool.false_and, Bool.false_eq_true, if_false, if_true] at h
    cases parsed : Host.parse (host ++ [b]) with
    | ok found => exact Host.parse_blank low host parsed
    | error f =>
      rw [parsed] at h
      cases h
  · rw [eq] at h
    have none : portOf scheme (port ++ [b]) = .error .port := by
      have filled : (port ++ [b]).isEmpty = false := by simp
      unfold portOf natural?
      rw [filled]
      simp [digit]
    simp only [Option.getD_some, none] at h
    -- Whatever is in front of the port, the port is refused.
    by_cases empty : (host.isEmpty && (isSpecial scheme || (some (port ++ [b])).isSome)) = true
    · rw [if_pos empty] at h
      cases h
    · rw [if_neg empty, special, if_pos rfl] at h
      cases parsed : Host.parse host with
      | ok found =>
        rw [parsed] at h
        cases h
      | error f =>
        rw [parsed] at h
        cases h

end Url

end OneFs
