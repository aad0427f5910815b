import OneFs.Json.Reader
import OneFs.Proofs.Json.Record

/-!
# Texts of values

A value without doubles whose integers fit 64 bits, nested no deeper than the limit, is found again
in its own text. So whoever reads the text meets the document of the value.

- `scanPieces_escaped`: the escaped characters of a string are read back;
- `scanNumeral_nat`: so are the digits of a number;
- `Value.Legible`: which values are found again;
- `legible_object`: an object is, if the values of its members are;
- `scan_text`: the text of such a value is read as its document, and nothing is left over;
- `Reader.Reads.decode_text`: what a reader makes of the value, it makes of the text.
-/

namespace OneFs.Json

/-! ## Strings -/

/-- Whether a piece of a string stands for a character, which only a control character may do as a
number. -/
def Piece.Spells (c : Char) : Piece → Prop
  | .char d => d = c
  | .unit n => n = c.toNat ∧ n < 0x20

/-- The two digits of a small number, behind two zeros. -/
theorem hexUnit_hexDigit :
    ∀ n < 32, hexUnit? '0' '0' (hexDigit (n / 16)) (hexDigit (n % 16)) = some n := by
  decide

/-- A character that needs no escape stands for itself. -/
theorem scanPieces_plain {c : Char} (quote : c ≠ '\x22') (backslash : c ≠ '\\')
    (low : ¬ c.toNat < 0x20) (cs : List Char) :
    scanPieces (c :: cs) = (.char c :: (scanPieces cs).1, (scanPieces cs).2) := by
  rw [scanPieces.eq_def]
  split
  · contradiction
  · rename_i h
    exact absurd (List.cons.inj h).1 quote
  · rename_i h
    exact absurd (List.cons.inj h).1 backslash
  · rename_i h
    obtain ⟨rfl, rfl⟩ := List.cons.inj h
    rw [if_neg low]

/-- An escaped character is read as a piece that stands for it. -/
theorem scanPieces_escaped (c : Char) (cs : List Char) :
    ∃ p : Piece, p.Spells c ∧
      scanPieces (escaped c ++ cs) = (p :: (scanPieces cs).1, (scanPieces cs).2) := by
  -- Seven characters have escapes of their own, other control characters are written in digits.
  by_cases quote : c = '\x22'
  · subst quote
    exact ⟨.char '\x22', rfl, rfl⟩
  by_cases backslash : c = '\\'
  · subst backslash
    exact ⟨.char '\\', rfl, rfl⟩
  by_cases backspace : c = '\x08'
  · subst backspace
    exact ⟨.char '\x08', rfl, rfl⟩
  by_cases formFeed : c = '\x0c'
  · subst formFeed
    exact ⟨.char '\x0c', rfl, rfl⟩
  by_cases lineFeed : c = '\n'
  · subst lineFeed
    exact ⟨.char '\n', rfl, rfl⟩
  by_cases carriageReturn : c = '\r'
  · subst carriageReturn
    exact ⟨.char '\r', rfl, rfl⟩
  by_cases tab : c = '\t'
  · subst tab
    exact ⟨.char '\t', rfl, rfl⟩
  by_cases low : c.toNat < 0x20
  · have written : escaped c =
        ['\\', 'u', '0', '0', hexDigit (c.toNat / 16), hexDigit (c.toNat % 16)] := by
      simp [escaped, quote, backslash, backspace, formFeed, lineFeed, carriageReturn, tab, low]
    refine ⟨.unit c.toNat, ⟨rfl, low⟩, ?_⟩
    rw [written]
    show scanPieces ('\\' :: 'u' :: '0' :: '0' :: hexDigit (c.toNat / 16) ::
      hexDigit (c.toNat % 16) :: cs) = _
    rw [scanPieces.eq_def]
    simp only [hexUnit_hexDigit c.toNat low]
  · have written : escaped c = [c] := by
      simp [escaped, quote, backslash, backspace, formFeed, lineFeed, carriageReturn, tab, low]
    refine ⟨.char c, rfl, ?_⟩
    rw [written]
    exact scanPieces_plain quote backslash low cs

/-- Pieces that stand for characters make up their text. -/
theorem joinPieces_spelled (closed : Bool) {ps : List Piece} {cs : List Char}
    (h : List.Forall₂ (fun p c => p.Spells c) ps cs) : joinPieces closed ps = .ok cs := by
  induction h with
  | nil => rfl
  | @cons p c ps cs spells rest ih =>
    cases p with
    | char d =>
      rw [joinPieces, ih]
      exact congrArg Except.ok (congrArg (· :: cs) spells)
    | unit n =>
      obtain ⟨rfl, low⟩ := spells
      rw [joinPieces.eq_def]
      dsimp only
      rw [if_neg (by omega), if_pos (.inl (by omega)), ih, Char.ofNat_toNat]
      rfl

/-- A string is read back up to its closing quote. -/
theorem scanPieces_flatMap (rest cs : List Char) :
    ∃ ps, List.Forall₂ (fun p c => p.Spells c) ps cs ∧
      scanPieces (cs.flatMap escaped ++ '\x22' :: rest) = (ps, .ok rest) := by
  induction cs with
  | nil => exact ⟨[], .nil, rfl⟩
  | cons c cs ih =>
    obtain ⟨ps, spells, read⟩ := ih
    obtain ⟨p, spellsHead, readHead⟩ :=
      scanPieces_escaped c (cs.flatMap escaped ++ '\x22' :: rest)
    refine ⟨p :: ps, .cons spellsHead spells, ?_⟩
    rw [List.flatMap_cons, List.append_assoc, readHead, read]

/-- The text of a string is read as the string. -/
theorem scanString_text (s : String) (rest : List Char) :
    scanString (s.toList.flatMap escaped ++ '\x22' :: rest) = (.str (.ok s) none, rest) := by
  obtain ⟨ps, spells, read⟩ := scanPieces_flatMap rest s.toList
  unfold scanString
  rw [read]
  show (Doc.str ((joinPieces true ps).map String.ofList) none, rest) = _
  rw [joinPieces_spelled true spells]
  show (Doc.str (.ok (String.ofList s.toList)) none, rest) = _
  rw [String.ofList_toList]

theorem stringText_append (s : String) (rest : List Char) :
    stringText s ++ rest = '\x22' :: (s.toList.flatMap escaped ++ '\x22' :: rest) := by
  simp [stringText]

/-! ## Numerals -/

/-- What may follow a number: nothing that would go on with it. -/
def Stops (rest : List Char) : Prop :=
  ∀ c cs, rest = c :: cs → c = ',' ∨ c = ']' ∨ c = '\x7d'

theorem Stops.nil : Stops [] :=
  fun _ _ h => by cases h

/-- Digits of a number that fits are all taken. -/
theorem takeDigits_eq (cs : List Char) (significand : Nat)
    (fits : Nat.ofDigitChars 10 cs significand ≤ maxSignificand) :
    takeDigits significand cs = (Nat.ofDigitChars 10 cs significand, 0) := by
  induction cs generalizing significand with
  | nil => rw [takeDigits, Nat.ofDigitChars_nil]
  | cons c cs ih =>
    rw [Nat.ofDigitChars_cons] at fits ⊢
    have step : significand * 10 + digitValue c = 10 * significand + (c.toNat - '0'.toNat) := by
      rw [Nat.mul_comm]
      rfl
    -- A number never falls below a beginning of it.
    have grows : 10 * significand + (c.toNat - '0'.toNat) ≤ maxSignificand := by
      rw [Nat.ofDigitChars_eq_ofDigitChars_zero] at fits
      have : 1 * (10 * significand + (c.toNat - '0'.toNat)) ≤
          10 ^ cs.length * (10 * significand + (c.toNat - '0'.toNat)) :=
        Nat.mul_le_mul_right _ (Nat.one_le_pow _ _ (by omega))
      omega
    rw [takeDigits, step, if_pos grows]
    exact ih _ fits

/-- The digits of a number start with zero only if it is zero. -/
theorem head_toDigits {n : Nat} (positive : 0 < n) :
    ∃ d ds, Nat.toDigits 10 n = d :: ds ∧ d ≠ '0' := by
  induction n using Nat.strongRecOn with
  | ind n ih =>
    rw [Nat.toDigits_eq_if (by omega)]
    by_cases small : n < 10
    · refine ⟨n.digitChar, [], by rw [if_pos small], ?_⟩
      have : ∀ m < 10, 0 < m → m.digitChar ≠ '0' := by decide
      exact this n small positive
    · obtain ⟨d, ds, eq, nonzero⟩ := ih (n / 10) (by omega) (by omega)
      exact ⟨d, ds ++ [(n % 10).digitChar], by rw [if_neg small, eq]; rfl, nonzero⟩

/-- Nothing goes on with a number that is stopped. -/
theorem scanAfterWhole_stops (negative : Bool) (whole : List Char) {rest : List Char}
    (stops : Stops rest) :
    scanAfterWhole negative whole rest =
      ⟨(Numeral.mk negative whole none none).number, none, rest⟩ := by
  cases rest with
  | nil => rfl
  | cons c cs =>
    rcases stops c cs rfl with rfl | rfl | rfl <;> rfl

theorem takeWhile_stops {ds rest : List Char} (digits : ∀ c ∈ ds, c.isDigit = true)
    (stops : Stops rest) : (ds ++ rest).takeWhile Char.isDigit = ds := by
  rw [List.takeWhile_append_of_pos digits]
  cases rest with
  | nil => simp
  | cons c cs => rcases stops c cs rfl with rfl | rfl | rfl <;> simp

theorem dropWhile_stops {ds rest : List Char} (digits : ∀ c ∈ ds, c.isDigit = true)
    (stops : Stops rest) : (ds ++ rest).dropWhile Char.isDigit = rest := by
  rw [List.dropWhile_append_of_pos digits]
  cases rest with
  | nil => rfl
  | cons c cs => rcases stops c cs rfl with rfl | rfl | rfl <;> rfl

/-- The digits of a number are cut off as its whole part. -/
theorem scanNumeral_toDigits (negative : Bool) (n : Nat) {rest : List Char}
    (stops : Stops rest) :
    scanNumeral negative (Nat.toDigits 10 n ++ rest) =
      ⟨(Numeral.mk negative (Nat.toDigits 10 n) none none).number, none, rest⟩ := by
  have digits : ∀ c ∈ Nat.toDigits 10 n, c.isDigit = true := fun c hc =>
    Nat.isDigit_of_mem_toDigits (by omega) (by omega) hc
  by_cases zero : n = 0
  · -- A lone zero is cut off by itself.
    subst zero
    rw [Nat.toDigits_zero]
    cases rest with
    | nil => rfl
    | cons c cs => rcases stops c cs rfl with rfl | rfl | rfl <;> rfl
  · obtain ⟨d, ds, eq, nonzero⟩ := head_toDigits (Nat.pos_of_ne_zero zero)
    have whole := takeWhile_stops digits stops
    have behind := dropWhile_stops digits stops
    rw [eq, List.cons_append] at whole behind ⊢
    rw [scanNumeral.eq_def]
    -- The scanner treats a leading zero apart, and there is none.
    split
    · rename_i h
      exact absurd (List.cons.inj h).1 nonzero
    · dsimp only
      rw [whole, behind]
      exact scanAfterWhole_stops negative (d :: ds) stops

/-- The number that the digits of a number stand for. -/
theorem takeDigits_toDigits {n : Nat} (fits : n ≤ maxSignificand) :
    takeDigits 0 (Nat.toDigits 10 n) = (n, 0) := by
  have back : Nat.ofDigitChars 10 (Nat.toDigits 10 n) 0 = n := Nat.ofDigitChars_ten_toDigits
  rw [takeDigits_eq _ _ (by rw [back]; exact fits), back]

/-- The integers that a text can hold as integers. -/
def fitsNumber (n : Int) : Prop :=
  -9223372036854775808 ≤ n ∧ n ≤ 18446744073709551615

/-- The digits of a natural number that fits stand for the number. -/
theorem number_ofNat {n : Nat} (fits : fitsNumber n) :
    (Numeral.mk false (Nat.toDigits 10 n) none none).number = .ok (.int n) := by
  have small : n ≤ maxSignificand := by
    have : (n : Int) ≤ 18446744073709551615 := fits.2
    unfold maxSignificand
    omega
  simp only [Numeral.number, takeDigits_toDigits small]
  rfl

/-- With a dash in front, they stand for the negative number. -/
theorem number_negSucc {m : Nat} (fits : fitsNumber (Int.negSucc m)) :
    (Numeral.mk true (Nat.toDigits 10 (m + 1)) none none).number =
      .ok (.int (Int.negSucc m)) := by
  have small : m + 1 ≤ 9223372036854775808 := by
    have : -9223372036854775808 ≤ Int.negSucc m := fits.1
    omega
  have read := takeDigits_toDigits (n := m + 1) (by unfold maxSignificand; omega)
  -- Neither a negative zero nor too small for an integer, so it does not become a double.
  have ok : (m + 1 == 0 || decide (9223372036854775808 < m + 1)) = false := by
    simp
    omega
  simp only [Numeral.number, read, bne_self_eq_false, Bool.not_true, Bool.false_eq_true, if_false,
    ok]
  rfl

/-- An integer that fits is read back from its text. -/
theorem scanNumber_text {n : Int} (fits : fitsNumber n) {rest : List Char} (stops : Stops rest) :
    ∃ c cs, (toString n).toList = c :: cs ∧
      ((c = '-' ∧ scanNumber true (cs ++ rest) = (.num (.ok (.int n)) none, rest)) ∨
        (c.isDigit = true ∧
          scanNumber false (c :: cs ++ rest) = (.num (.ok (.int n)) none, rest))) := by
  cases n with
  | ofNat n =>
    have text : (toString (Int.ofNat n)).toList = Nat.toDigits 10 n := Nat.toList_repr
    cases eq : Nat.toDigits 10 n with
    | nil => exact absurd eq Nat.toDigits_ne_nil
    | cons c cs =>
      have digit : c.isDigit = true :=
        Nat.isDigit_of_mem_toDigits (n := n) (b := 10) (by omega) (by omega)
          (by rw [eq]; exact List.mem_cons_self)
      refine ⟨c, cs, text.trans eq, .inr ⟨digit, ?_⟩⟩
      unfold scanNumber
      rw [← eq, scanNumeral_toDigits false n stops]
      dsimp only
      rw [number_ofNat fits]
      rfl
  | negSucc m =>
    have text : (toString (Int.negSucc m)).toList = '-' :: Nat.toDigits 10 (m + 1) := by
      show ("-" ++ (m + 1).repr).toList = _
      rw [String.toList_append, Nat.toList_repr]
      rfl
    refine ⟨'-', Nat.toDigits 10 (m + 1), text, .inl ⟨rfl, ?_⟩⟩
    unfold scanNumber
    rw [scanNumeral_toDigits true (m + 1) stops]
    dsimp only
    rw [number_negSucc fits]

/-! ## Values -/

namespace Value

mutual

/-- The value is found again in its text, inside `level` containers: it has no doubles, its integers
fit, and it is not nested too deep. -/
def Legible (level : Nat) : Value → Prop
  | .num (.int n) => fitsNumber n
  | .num (.float _) => False
  | .arr items => level < nestingLimit ∧ ItemsLegible (level + 1) items
  | .obj members => level < nestingLimit ∧ MembersLegible (level + 1) members
  | _ => True

/-- All items are found again. -/
def ItemsLegible (level : Nat) : List Value → Prop
  | [] => True
  | v :: rest => v.Legible level ∧ ItemsLegible level rest

/-- The values of all members are found again. -/
def MembersLegible (level : Nat) : List (String × Value) → Prop
  | [] => True
  | (_, v) :: rest => v.Legible level ∧ MembersLegible level rest

end

theorem itemsLegible_iff {level : Nat} {vs : List Value} :
    ItemsLegible level vs ↔ ∀ v ∈ vs, v.Legible level := by
  induction vs with
  | nil => simp [ItemsLegible]
  | cons v rest ih => rw [ItemsLegible, List.forall_mem_cons, ih]

theorem membersLegible_iff {level : Nat} {ms : List (String × Value)} :
    MembersLegible level ms ↔ ∀ m ∈ ms, m.2.Legible level := by
  induction ms with
  | nil => simp [MembersLegible]
  | cons m rest ih => rw [MembersLegible, List.forall_mem_cons, ih]

/-- The text of a value starts with neither a blank nor a closing bracket. -/
theorem chars_eq_cons {level : Nat} {v : Value} (legible : v.Legible level) :
    ∃ c cs, v.chars = c :: cs ∧ isSpace c = false ∧ c ≠ ']' := by
  cases v with
  | null => exact ⟨_, _, rfl, rfl, by decide⟩
  | bool b => cases b <;> exact ⟨_, _, rfl, rfl, by decide⟩
  | str s => exact ⟨_, _, rfl, rfl, by decide⟩
  | arr items => exact ⟨_, _, rfl, rfl, by decide⟩
  | obj members => exact ⟨_, _, rfl, rfl, by decide⟩
  | num n =>
    cases n with
    | float x => exact legible.elim
    | int n =>
      obtain ⟨c, cs, text, starts⟩ := scanNumber_text legible Stops.nil
      refine ⟨c, cs, text, ?_⟩
      rcases starts with ⟨rfl, -⟩ | ⟨digit, -⟩
      · exact ⟨rfl, by decide⟩
      · refine ⟨?_, ?_⟩
        · -- No blank is a digit.
          by_contra blank
          simp only [isSpace, Bool.not_eq_false, Bool.or_eq_true, beq_iff_eq] at blank
          rcases blank with ((rfl | rfl) | rfl) | rfl <;> cases digit
        · rintro rfl
          cases digit

/-- So does the text of items. -/
theorem itemChars_eq_cons {level : Nat} {v : Value} (legible : v.Legible level)
    (vs : List Value) :
    ∃ c cs, itemChars (v :: vs) = c :: cs ∧ isSpace c = false ∧ c ≠ ']' := by
  obtain ⟨c, cs, eq, solid, open'⟩ := chars_eq_cons legible
  cases vs with
  | nil => exact ⟨c, cs, eq, solid, open'⟩
  | cons w vs => exact ⟨c, _, by rw [itemChars, eq]; rfl, solid, open'⟩

/-- The text of members starts with a quote. -/
theorem memberChars_eq_cons (k : String) (v : Value) (ms : List (String × Value)) :
    ∃ cs, memberChars ((k, v) :: ms) = '\x22' :: cs := by
  cases ms with
  | nil => exact ⟨_, rfl⟩
  | cons m ms => exact ⟨_, rfl⟩

end Value

theorem skipSpace_of_head {c : Char} (h : isSpace c = false) (cs : List Char) :
    skipSpace (c :: cs) = c :: cs :=
  List.dropWhile_cons_of_neg (by rw [h]; decide)

theorem stops_cons {c : Char} (h : c = ',' ∨ c = ']' ∨ c = '\x7d') (cs : List Char) :
    Stops (c :: cs) := fun _ _ eq => (List.cons.inj eq).1 ▸ h

/-- A value that starts with a digit is a number. -/
theorem scanValue_digit {c : Char} (digit : c.isDigit = true) (fuel level : Nat)
    (cs : List Char) : scanValue (fuel + 1) level (c :: cs) = scanNumber false (c :: cs) := by
  have other : ∀ d : Char, d.isDigit = false → (c == d) = false := by
    intro d hd
    rw [beq_eq_false_iff_ne]
    rintro rfl
    rw [digit] at hd
    cases hd
  have blank : isSpace c = false := by
    simp only [isSpace, other ' ' rfl, other '\n' rfl, other '\t' rfl, other '\r' rfl, Bool.or_self]
  rw [scanValue, skipSpace_of_head blank]
  simp only [other 'n' rfl, other 't' rfl, other 'f' rfl, other '-' rfl, digit,
    Bool.false_eq_true, if_false, if_true]

/-- A list of which something follows the bracket. -/
theorem scanValue_list {c : Char} (solid : isSpace c = false) (item : c ≠ ']')
    (fuel level : Nat) (cs : List Char) :
    scanValue (fuel + 1) level ('[' :: c :: cs) =
      (bounded (level + 1) (.arr (scanItems fuel (level + 1) (c :: cs)).1
        (scanItems fuel (level + 1) (c :: cs)).2.1),
        (scanItems fuel (level + 1) (c :: cs)).2.2) := by
  have bracket : isSpace '[' = false := rfl
  rw [scanValue, skipSpace_of_head bracket]
  simp +decide only [if_true, if_false, skipSpace_of_head solid]
  split
  · rename_i h
    exact absurd (List.cons.inj h).1 item
  · rename_i h
    cases h
  · rfl

/-- An object that has a member. -/
theorem scanValue_object (fuel level : Nat) (cs : List Char) :
    scanValue (fuel + 1) level ('\x7b' :: '\x22' :: cs) =
      (bounded (level + 1) (.obj (scanMembers fuel (level + 1) ('\x22' :: cs)).1
        (scanMembers fuel (level + 1) ('\x22' :: cs)).2.1),
        (scanMembers fuel (level + 1) ('\x22' :: cs)).2.2) :=
  rfl

theorem bounded_eq {level : Nat} (h : level < nestingLimit) (d : Doc) :
    bounded (level + 1) d = d :=
  if_pos h

/-- The last item of a list. -/
theorem scanItems_last {fuel level : Nat} {cs rest : List Char} {d : Doc}
    (read : scanValue fuel level cs = (d, ']' :: rest)) :
    scanItems (fuel + 1) level cs = ([d], none, rest) := by
  rw [scanItems, read]
  rfl

/-- An item that is followed by another. -/
theorem scanItems_more {fuel level : Nat} {cs rest : List Char} {d : Doc} {c : Char}
    (read : scanValue fuel level cs = (d, ',' :: c :: rest)) (solid : isSpace c = false)
    (item : c ≠ ']') :
    scanItems (fuel + 1) level cs = (d :: (scanItems fuel level (c :: rest)).1,
      (scanItems fuel level (c :: rest)).2) := by
  have comma : isSpace ',' = false := rfl
  rw [scanItems, read]
  simp +decide only [skipSpace_of_head comma, skipSpace_of_head solid]
  split
  · rename_i h
    exact absurd (List.cons.inj h).1 item
  · rfl

/-- The last member of an object. -/
theorem scanMembers_last {fuel level : Nat} {k : String} {cs rest : List Char} {d : Doc}
    (read : scanValue fuel level cs = (d, '\x7d' :: rest)) :
    scanMembers (fuel + 1) level (stringText k ++ ':' :: cs) =
      ([(Doc.ofKey k, d)], none, rest) := by
  have colon : skipSpace (':' :: cs) = ':' :: cs := rfl
  have brace : skipSpace ('\x7d' :: rest) = '\x7d' :: rest := rfl
  rw [stringText_append, scanMembers]
  simp only [scanString_text, colon, read, brace]
  rfl

/-- A member that is followed by another. -/
theorem scanMembers_more {fuel level : Nat} {k : String} {cs rest : List Char} {d : Doc}
    (read : scanValue fuel level cs = (d, ',' :: '\x22' :: rest)) :
    scanMembers (fuel + 1) level (stringText k ++ ':' :: cs) =
      ((Doc.ofKey k, d) :: (scanMembers fuel level ('\x22' :: rest)).1,
        (scanMembers fuel level ('\x22' :: rest)).2) := by
  have colon : skipSpace (':' :: cs) = ':' :: cs := rfl
  have comma : skipSpace (',' :: '\x22' :: rest) = ',' :: '\x22' :: rest := rfl
  have quote : skipSpace ('\x22' :: rest) = '\x22' :: rest := rfl
  rw [stringText_append, scanMembers]
  simp only [scanString_text, colon, read, comma, quote]
  rfl

mutual

/-- A value is read from its text, if the fuel is enough for its characters. -/
theorem scanValue_chars : ∀ (v : Value) {level fuel : Nat} {rest : List Char}, v.Legible level →
    2 * v.chars.length ≤ fuel + 1 → Stops rest →
      scanValue (fuel + 1) level (v.chars ++ rest) = (v.doc, rest)
  | .null, _, _, _, _, _, _ => rfl
  | .bool true, _, _, _, _, _, _ => rfl
  | .bool false, _, _, _, _, _, _ => rfl
  | .str s, _, _, rest, _, _, _ => by
    show scanString (s.toList.flatMap escaped ++ ['\x22'] ++ rest) = _
    rw [List.append_assoc]
    exact scanString_text s rest
  | .num (.int n), level, fuel, rest, legible, _, stops => by
    obtain ⟨c, cs, text, starts⟩ := scanNumber_text legible stops
    show scanValue (fuel + 1) level ((toString n).toList ++ rest) = _
    rw [text]
    rcases starts with ⟨rfl, read⟩ | ⟨digit, read⟩
    · exact read
    · rw [List.cons_append, scanValue_digit digit, ← List.cons_append]
      exact read
  | .num (.float _), _, _, _, legible, _, _ => legible.elim
  | .arr [], level, fuel, rest, legible, _, _ => by
    show (bounded (level + 1) (Doc.arr [] none), rest) = _
    rw [bounded_eq legible.1]
    rfl
  | .arr (v :: vs), level, fuel, rest, legible, enough, stops => by
    have text : (Value.arr (v :: vs)).chars ++ rest =
        '[' :: (Value.itemChars (v :: vs) ++ ']' :: rest) := by
      simp [Value.chars]
    obtain ⟨c, cs, head, solid, item⟩ := Value.itemChars_eq_cons legible.2.1 vs
    have length : (Value.arr (v :: vs)).chars.length = (c :: cs).length + 2 := by
      simp [Value.chars, head]
    rw [length, List.length_cons] at enough
    obtain ⟨fuel, rfl⟩ : ∃ less, fuel = less + 1 := ⟨fuel - 1, by omega⟩
    have items : scanItems (fuel + 1) (level + 1) (Value.itemChars (v :: vs) ++ ']' :: rest) =
        (Value.itemDocs (v :: vs), none, rest) :=
      scanItems_chars v vs legible.2 (by rw [head, List.length_cons]; omega)
    rw [text, head, List.cons_append, scanValue_list solid item, ← List.cons_append, ← head, items,
      bounded_eq legible.1]
    rfl
  | .obj [], level, fuel, rest, legible, _, _ => by
    show (bounded (level + 1) (Doc.obj [] none), rest) = _
    rw [bounded_eq legible.1]
    rfl
  | .obj ((k, v) :: ms), level, fuel, rest, legible, enough, stops => by
    have text : (Value.obj ((k, v) :: ms)).chars ++ rest =
        '\x7b' :: (Value.memberChars ((k, v) :: ms) ++ '\x7d' :: rest) := by
      simp [Value.chars]
    have length : (Value.obj ((k, v) :: ms)).chars.length =
        (Value.memberChars ((k, v) :: ms)).length + 2 := by
      simp [Value.chars]
    rw [length] at enough
    obtain ⟨cs, head⟩ := Value.memberChars_eq_cons k v ms
    obtain ⟨fuel, rfl⟩ : ∃ less, fuel = less + 1 := ⟨fuel - 1, by omega⟩
    have members : scanMembers (fuel + 1) (level + 1)
        (Value.memberChars ((k, v) :: ms) ++ '\x7d' :: rest) =
          (Value.memberDocs ((k, v) :: ms), none, rest) :=
      scanMembers_chars k v ms legible.2 (by omega)
    rw [text, head, List.cons_append, scanValue_object, ← List.cons_append, ← head, members,
      bounded_eq legible.1]
    rfl
termination_by v => sizeOf v

/-- Items are read from their text up to the closing bracket. -/
theorem scanItems_chars : ∀ (v : Value) (vs : List Value) {level fuel : Nat} {rest : List Char},
    Value.ItemsLegible level (v :: vs) → 2 * (Value.itemChars (v :: vs)).length ≤ fuel →
      scanItems (fuel + 1) level (Value.itemChars (v :: vs) ++ ']' :: rest) =
        (Value.itemDocs (v :: vs), none, rest)
  | v, [], level, fuel, rest, legible, enough => by
    rw [Value.itemChars] at enough ⊢
    obtain ⟨c, cs, head, -, -⟩ := Value.chars_eq_cons legible.1
    obtain ⟨fuel, rfl⟩ : ∃ less, fuel = less + 1 :=
      ⟨fuel - 1, by rw [head, List.length_cons] at enough; omega⟩
    exact scanItems_last (scanValue_chars v legible.1 enough (stops_cons (.inr (.inl rfl)) _))
  | v, w :: vs, level, fuel, rest, legible, enough => by
    obtain ⟨c, cs, head, solid, item⟩ := Value.itemChars_eq_cons legible.2.1 vs
    have text : Value.itemChars (v :: w :: vs) ++ ']' :: rest =
        v.chars ++ ',' :: c :: (cs ++ ']' :: rest) := by
      rw [Value.itemChars, head]
      simp
    have length : (Value.itemChars (v :: w :: vs)).length =
        v.chars.length + (Value.itemChars (w :: vs)).length + 1 := by
      rw [Value.itemChars]
      simp only [List.length_append, List.length_cons]
      omega
    obtain ⟨fuel, rfl⟩ : ∃ less, fuel = less + 1 := ⟨fuel - 1, by omega⟩
    have first : scanValue (fuel + 1) level (v.chars ++ ',' :: c :: (cs ++ ']' :: rest)) =
        (v.doc, ',' :: c :: (cs ++ ']' :: rest)) :=
      scanValue_chars v legible.1 (by omega) (stops_cons (.inl rfl) _)
    have others : scanItems (fuel + 1) level (Value.itemChars (w :: vs) ++ ']' :: rest) =
        (Value.itemDocs (w :: vs), none, rest) :=
      scanItems_chars w vs legible.2 (by omega)
    rw [head, List.cons_append] at others
    rw [text, scanItems_more first solid item, others]
    rfl
termination_by v vs => sizeOf v + sizeOf vs

/-- Members are read from their text up to the closing brace. -/
theorem scanMembers_chars : ∀ (k : String) (v : Value) (ms : List (String × Value))
    {level fuel : Nat} {rest : List Char}, Value.MembersLegible level ((k, v) :: ms) →
      2 * (Value.memberChars ((k, v) :: ms)).length ≤ fuel →
      scanMembers (fuel + 1) level (Value.memberChars ((k, v) :: ms) ++ '\x7d' :: rest) =
        (Value.memberDocs ((k, v) :: ms), none, rest)
  | k, v, [], level, fuel, rest, legible, enough => by
    have text : Value.memberChars [(k, v)] ++ '\x7d' :: rest =
        stringText k ++ ':' :: (v.chars ++ '\x7d' :: rest) := by
      simp [Value.memberChars]
    have length : (Value.memberChars [(k, v)]).length =
        (stringText k).length + v.chars.length + 1 := by
      simp [Value.memberChars, Nat.add_assoc]
    obtain ⟨fuel, rfl⟩ : ∃ less, fuel = less + 1 := ⟨fuel - 1, by omega⟩
    have only : scanValue (fuel + 1) level (v.chars ++ '\x7d' :: rest) =
        (v.doc, '\x7d' :: rest) :=
      scanValue_chars v legible.1 (by omega) (stops_cons (.inr (.inr rfl)) _)
    rw [text, scanMembers_last only]
    rfl
  | k, v, (l, w) :: ms, level, fuel, rest, legible, enough => by
    obtain ⟨cs, head⟩ := Value.memberChars_eq_cons l w ms
    have text : Value.memberChars ((k, v) :: (l, w) :: ms) ++ '\x7d' :: rest =
        stringText k ++ ':' :: (v.chars ++ ',' :: '\x22' :: (cs ++ '\x7d' :: rest)) := by
      rw [Value.memberChars, head]
      simp
    have length : (Value.memberChars ((k, v) :: (l, w) :: ms)).length =
        (stringText k).length + v.chars.length + (Value.memberChars ((l, w) :: ms)).length + 2 := by
      rw [Value.memberChars]
      simp only [List.length_append, List.length_cons]
      omega
    obtain ⟨fuel, rfl⟩ : ∃ less, fuel = less + 1 := ⟨fuel - 1, by omega⟩
    have first : scanValue (fuel + 1) level (v.chars ++ ',' :: '\x22' :: (cs ++ '\x7d' :: rest)) =
        (v.doc, ',' :: '\x22' :: (cs ++ '\x7d' :: rest)) :=
      scanValue_chars v legible.1 (by omega) (stops_cons (.inl rfl) _)
    have others : scanMembers (fuel + 1) level
        (Value.memberChars ((l, w) :: ms) ++ '\x7d' :: rest) =
          (Value.memberDocs ((l, w) :: ms), none, rest) :=
      scanMembers_chars l w ms legible.2 (by omega)
    rw [head, List.cons_append] at others
    rw [text, scanMembers_more first, others]
    rfl
termination_by _ v ms => sizeOf v + sizeOf ms

end

/-- An integer of 64 bits fits. -/
theorem fitsNumber_int64 (n : Int64) : fitsNumber n.toInt :=
  ⟨n.le_toInt, by have := n.toInt_lt; omega⟩

/-- An object is found again if the values of its members are. -/
theorem legible_object {level : Nat} (small : level < nestingLimit) {ms : List (String × Value)}
    (h : ∀ m ∈ ms, m.2.Legible (level + 1)) : (Value.object ms).Legible level :=
  ⟨small, Value.membersLegible_iff.mpr fun m hm => h m (mem_sorted hm)⟩

/-! ## Texts -/

/-- The text of a value that can be found again is read as its document, without a rest. -/
theorem scan_text {v : Value} (legible : v.Legible 0) : scan v.text = (v.doc, none) := by
  have read : scanValue (2 * v.chars.length + 1 + 1) 0 (v.chars ++ []) = (v.doc, []) :=
    scanValue_chars v legible (by omega) Stops.nil
  rw [List.append_nil] at read
  unfold scan Value.text
  rw [String.toList_ofList]
  dsimp only
  rw [read]
  rfl

/-- What a reader makes of a value, it makes of its text. -/
theorem Reader.Reads.decode_text {α : Type} {r : Reader α} {v : Value} {a : α} (h : r.Reads v a)
    (legible : v.Legible 0) : r.decode v.text = .ok a := by
  unfold decode
  rw [scan_text legible]
  dsimp only
  rw [h.1, h.2]
  rfl

end OneFs.Json
