import OneFs.Text.Quoted

/-!
# Quoted texts

A text can be told from how it is quoted: no two texts are quoted alike.

- `hexDigits_injective`: a number can be told from its digits;
- `Escapes`: the three ways in which a character stands inside quotes; `Escapes.unique`: in front of
  anything, they stand for one character;
- `quoted_injective`: so a quoted text is that of one text.
-/

namespace OneFs.Text

/-! ## Code points -/

theorem hexDigits_eq (n : Nat) :
    hexDigits n = if n < 16 then [n.digitChar] else hexDigits (n / 16) ++ [(n % 16).digitChar] :=
  Nat.toDigits_eq_if (by decide)

theorem digitChar_injective {m n : Nat} (hm : m < 16) (hn : n < 16)
    (h : m.digitChar = n.digitChar) : m = n := by
  have all : ∀ m < 16, ∀ n < 16, Nat.digitChar m = Nat.digitChar n → m = n := by decide
  exact all m hm n hn h

theorem hexDigits_ne_nil (n : Nat) : hexDigits n ≠ [] :=
  Nat.toDigits_ne_nil

/-- A number can be told from its digits, the last of which is its remainder. -/
theorem hexDigits_injective {m n : Nat} (h : hexDigits m = hexDigits n) : m = n := by
  induction m using Nat.strongRecOn generalizing n with
  | _ m ih =>
    rw [hexDigits_eq m, hexDigits_eq n] at h
    by_cases hm : m < 16
    · by_cases hn : n < 16
      · rw [if_pos hm, if_pos hn] at h
        exact digitChar_injective hm hn (List.cons.inj h).1
      · rw [if_pos hm, if_neg hn] at h
        have split : [] ++ [m.digitChar] = hexDigits (n / 16) ++ [(n % 16).digitChar] := h
        exact absurd (List.append_inj' split rfl).1.symm (hexDigits_ne_nil _)
    · by_cases hn : n < 16
      · rw [if_neg hm, if_pos hn] at h
        have split : hexDigits (m / 16) ++ [(m % 16).digitChar] = [] ++ [n.digitChar] := h
        exact absurd (List.append_inj' split rfl).1 (hexDigits_ne_nil _)
      · rw [if_neg hm, if_neg hn] at h
        obtain ⟨front, last⟩ := List.append_inj' h rfl
        have quotient := ih (m / 16) (by omega) front
        have remainder := digitChar_injective (Nat.mod_lt m (by decide)) (Nat.mod_lt n (by decide))
          (List.cons.inj last).1
        omega

/-- No digit is a brace. -/
theorem ne_brace_of_mem_hexDigits {n : Nat} : ∀ c ∈ hexDigits n, c ≠ '\x7d' := by
  have digit : ∀ n < 16, Nat.digitChar n ≠ '\x7d' := by decide
  induction n using Nat.strongRecOn with
  | _ n ih =>
    rw [hexDigits_eq n]
    split
    · rename_i small
      exact List.forall_mem_singleton.mpr (digit n small)
    · exact List.forall_mem_append.mpr ⟨ih (n / 16) (by omega),
        List.forall_mem_singleton.mpr (digit (n % 16) (Nat.mod_lt n (by decide)))⟩

/-- Texts that end in front of the first mark are told apart by what stands there. -/
theorem append_mark_inj {mark : Char} {as bs xs ys : List Char} (ha : ∀ c ∈ as, c ≠ mark)
    (hb : ∀ c ∈ bs, c ≠ mark) (h : as ++ mark :: xs = bs ++ mark :: ys) : as = bs ∧ xs = ys := by
  induction as generalizing bs with
  | nil =>
    cases bs with
    | nil => exact ⟨rfl, (List.cons.inj h).2⟩
    | cons b bs => exact absurd (List.cons.inj h).1.symm (hb b List.mem_cons_self)
  | cons a as ih =>
    cases bs with
    | nil => exact absurd (List.cons.inj h).1 (ha a List.mem_cons_self)
    | cons b bs =>
      obtain ⟨rfl, rest⟩ := List.cons.inj h
      obtain ⟨rfl, same⟩ := ih (fun c hc => ha c (List.mem_cons_of_mem _ hc))
        (fun c hc => hb c (List.mem_cons_of_mem _ hc)) rest
      exact ⟨rfl, same⟩

/-! ## Characters inside quotes -/

/-- The character that a backslash and a mark stand for. -/
def escaped (mark : Char) : Char :=
  if mark = '0' then '\x00'
  else if mark = 't' then '\t'
  else if mark = 'n' then '\n'
  else if mark = 'r' then '\r'
  else mark

/-- The ways in which a character stands inside quotes. -/
inductive Escapes : Char → List Char → Prop
  /-- As itself. -/
  | plain {c : Char} (shown : c ≠ '\\') : Escapes c [c]
  /-- As a mark behind a backslash. -/
  | short {mark : Char} (other : mark ≠ 'u') : Escapes (escaped mark) ['\\', mark]
  /-- By its code point. -/
  | code (c : Char) : Escapes c ('\\' :: 'u' :: '\x7b' :: (hexDigits c.toNat ++ ['\x7d']))

theorem escapes_quotedChar (c : Char) : Escapes c (quotedChar c) := by
  have short {d : Char} (mark : Char) (h : (c == d) = true) (stands : d = escaped mark)
      (other : mark ≠ 'u') : Escapes c ['\\', mark] := by
    rw [beq_iff_eq.mp h, stands]
    exact .short other
  unfold quotedChar
  split
  · exact short '0' ‹_› (by decide) (by decide)
  split
  · exact short 't' ‹_› (by decide) (by decide)
  split
  · exact short 'n' ‹_› (by decide) (by decide)
  split
  · exact short 'r' ‹_› (by decide) (by decide)
  split
  · exact short '\x22' ‹_› (by decide) (by decide)
  split
  · exact short '\\' ‹_› (by decide) (by decide)
  rename_i other
  split
  · exact .code c
  · exact .plain fun same => other (beq_iff_eq.mpr same)

/-- Whatever follows them, the ways of two characters differ. -/
theorem Escapes.unique {c d : Char} {cs ds xs ys : List Char} (hc : Escapes c cs)
    (hd : Escapes d ds) (h : cs ++ xs = ds ++ ys) : c = d ∧ xs = ys := by
  cases hc with
  | plain shown =>
    cases hd with
    | plain _ => exact List.cons.inj h
    | short _ => exact absurd (List.cons.inj h).1 shown
    | code _ => exact absurd (List.cons.inj h).1 shown
  | short other =>
    cases hd with
    | plain shown => exact absurd (List.cons.inj h).1.symm shown
    | short _ =>
      obtain ⟨rfl, rest⟩ := List.cons.inj (List.cons.inj h).2
      exact ⟨rfl, rest⟩
    | code _ => exact absurd (List.cons.inj (List.cons.inj h).2).1 other
  | code =>
    cases hd with
    | plain shown => exact absurd (List.cons.inj h).1.symm shown
    | short other => exact absurd (List.cons.inj (List.cons.inj h).2).1.symm other
    | code =>
      have digits : hexDigits c.toNat ++ '\x7d' :: xs = hexDigits d.toNat ++ '\x7d' :: ys := by
        simpa using h
      obtain ⟨number, rest⟩ :=
        append_mark_inj ne_brace_of_mem_hexDigits ne_brace_of_mem_hexDigits digits
      exact ⟨Char.toNat_inj.mp (hexDigits_injective number), rest⟩

theorem Escapes.ne_nil {c : Char} {cs : List Char} (h : Escapes c cs) : cs ≠ [] := by
  cases h <;> exact List.cons_ne_nil _ _

/-- So whole texts stand for themselves, too. -/
theorem flatMap_quotedChar_injective {cs ds : List Char}
    (h : cs.flatMap quotedChar = ds.flatMap quotedChar) : cs = ds := by
  induction cs generalizing ds with
  | nil =>
    cases ds with
    | nil => rfl
    | cons d ds =>
      have none := (List.append_eq_nil_iff.mp h.symm).1
      exact absurd none (escapes_quotedChar d).ne_nil
  | cons c cs ih =>
    cases ds with
    | nil => exact absurd (List.append_eq_nil_iff.mp h).1 (escapes_quotedChar c).ne_nil
    | cons d ds =>
      obtain ⟨rfl, rest⟩ := (escapes_quotedChar c).unique (escapes_quotedChar d) h
      rw [ih rest]

/-- A text can be told from how it is quoted. -/
theorem quoted_injective {s t : String} (h : quoted s = quoted t) : s = t := by
  have inside := (List.cons.inj (String.ofList_injective h)).2
  exact String.toList_injective
    (flatMap_quotedChar_injective (List.append_cancel_right inside))

end OneFs.Text
