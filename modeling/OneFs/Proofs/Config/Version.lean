import OneFs.Proofs.Config.Sources
import OneFs.Proofs.Url.Endpoint

/-!
# Spellings of versions

A version is read from a text, from JSON, from an integer and from the environment, each in its own
way. All of them take the same spellings for the same version, and nothing else for one.

- `Text.trim_eq_iff`, `Text.lower_eq_iff`: texts by what is left of them;
- `Version.IsSpelling`, `Version.spellsVersion_iff`: the spellings of a version;
- `Version.reads_document_iff`, `Version.decode_iff`: the values and the texts of JSON that stand for
  one;
- `Config.ofEnvironment_version`: what the environment makes of one;
- `versions_agree`: all of them.
-/

namespace OneFs

open Json

/-! ## Texts by what is left of them -/

namespace Text

/-- A text is what is left of it without the blanks at its ends, between blanks. -/
theorem eq_append_trim (s : String) :
    ∃ before after, s = before ++ trim s ++ after ∧ isBlankText before = true ∧
      isBlankText after = true := by
  obtain ⟨tail, blank, cut⟩ := Url.eq_trimEnd_append isBlank (s.toList.dropWhile isBlank)
  refine ⟨String.ofList (s.toList.takeWhile isBlank), String.ofList tail,
    String.toList_injective ?_, ?_, ?_⟩
  · have kept : (trim s).toList = trimEnd isBlank (s.toList.dropWhile isBlank) :=
      String.toList_ofList
    rw [String.toList_append, String.toList_append, kept, String.toList_ofList,
      String.toList_ofList, List.append_assoc, ← cut, List.takeWhile_append_dropWhile]
  · rw [isBlankText_iff, String.toList_ofList]
    exact fun c hc => List.mem_takeWhile_imp hc
  · rw [isBlankText_iff, String.toList_ofList]
    exact blank

/-- Between blanks, a text without any is what is left. -/
theorem trim_append {t : String} (filled : t ≠ "") (solid : ∀ c ∈ t.toList, isBlank c = false)
    {before after : String} (front : isBlankText before = true) (back : isBlankText after = true) :
    trim (before ++ t ++ after) = t := by
  rw [isBlankText_iff] at front back
  have listed : t.toList ≠ [] := fun none => filled (String.toList_eq_nil_iff.mp none)
  obtain ⟨c, cs, first⟩ := List.exists_cons_of_ne_nil listed
  obtain ⟨ds, d, last⟩ := (List.eq_nil_or_concat t.toList).resolve_left listed
  rw [List.concat_eq_append] at last
  have kept : isBlank c = false := solid c (first ▸ List.mem_cons_self)
  have kept' : isBlank d = false := solid d (last ▸ List.mem_append_right ds List.mem_cons_self)
  have begun : ((before ++ t ++ after).toList).dropWhile isBlank = t.toList ++ after.toList := by
    rw [String.toList_append, String.toList_append, first, List.append_assoc, List.cons_append,
      Url.dropWhile_append_of_neg kept, List.dropWhile_eq_nil_iff.mpr front, List.nil_append]
  have ended : trimEnd isBlank (t.toList ++ after.toList) = t.toList := by
    have none : trimEnd isBlank after.toList = [] := by
      unfold trimEnd
      rw [List.dropWhile_eq_nil_iff.mpr fun x hx => back x (List.mem_reverse.mp hx),
        List.reverse_nil]
    rw [last, List.append_assoc, List.singleton_append, Url.trimEnd_append_of_neg kept', none]
  have left : trimBoth isBlank (before ++ t ++ after).toList = t.toList := by
    show trimEnd isBlank (((before ++ t ++ after).toList).dropWhile isBlank) = t.toList
    rw [begun, ended]
  rw [trim, left, String.ofList_toList]

/-- So a text without blanks is what is left of all texts in which it stands between some. -/
theorem trim_eq_iff {s t : String} (filled : t ≠ "") (solid : ∀ c ∈ t.toList, isBlank c = false) :
    trim s = t ↔ ∃ before after, s = before ++ t ++ after ∧ isBlankText before = true ∧
      isBlankText after = true := by
  constructor
  · rintro rfl
    exact eq_append_trim s
  · rintro ⟨before, after, rfl, front, back⟩
    exact trim_append filled solid front back

/-- The number of a character that was made small. -/
theorem toNat_toLower (c : Char) :
    c.toLower.toNat = if 65 ≤ c.toNat ∧ c.toNat ≤ 90 then c.toNat + 32 else c.toNat := by
  unfold Char.toLower
  by_cases capital : c.val ≥ 'A'.val ∧ c.val ≤ 'Z'.val
  · have bounds : 65 ≤ c.toNat ∧ c.toNat ≤ 90 := capital
    have small : c.val.toNat + 32 < 2 ^ 32 := by
      have : c.val.toNat ≤ 90 := bounds.2
      omega
    rw [dif_pos capital, if_pos bounds]
    show (c.val + 32).toNat = c.val.toNat + 32
    rw [UInt32.toNat_add]
    exact Nat.mod_eq_of_lt small
  · have bounds : ¬ (65 ≤ c.toNat ∧ c.toNat ≤ 90) := capital
    rw [dif_neg capital, if_neg bounds]

/-- What is made small into a character that is no capital letter: the character itself, and the
capital letter of a small one. -/
theorem toLower_eq_iff {c d : Char} (small : d.toNat < 65 ∨ 90 < d.toNat) :
    c.toLower = d ↔ c = d ∨ (97 ≤ d.toNat ∧ d.toNat ≤ 122 ∧ c.toNat + 32 = d.toNat) := by
  rw [← Char.toNat_inj, ← Char.toNat_inj, toNat_toLower]
  split <;> omega

theorem lower_eq_iff {t u : String} : lower t = u ↔ t.toList.map Char.toLower = u.toList := by
  rw [← String.toList_inj, lower, String.toList_ofList]

end Text

/-! ## Spellings -/

namespace Version

/-- The ways to write a version. -/
def spellings : Version → List String
  | .v1 => ["1", "v1", "V1"]
  | .v2 => ["2", "v2", "V2"]

/-- A text spells a version: it is one of the ways to write it, with blanks around it or without. -/
def IsSpelling (v : Version) (s : String) : Prop :=
  ∃ before core after, s = before ++ core ++ after ∧ core ∈ v.spellings ∧
    Text.isBlankText before = true ∧ Text.isBlankText after = true

theorem isSpelling_iff_trim {v : Version} {s : String} :
    v.IsSpelling s ↔ Text.trim s ∈ v.spellings := by
  have solid : ∀ core ∈ v.spellings,
      core ≠ "" ∧ (core.toList.all fun c => !Text.isBlank c) = true := by
    cases v <;> decide
  constructor
  · rintro ⟨before, core, after, whole, written, front, back⟩
    obtain ⟨filled, visible⟩ := solid core written
    have blankless : ∀ c ∈ core.toList, Text.isBlank c = false := by simpa using visible
    rwa [(Text.trim_eq_iff filled blankless).mpr ⟨before, after, whole, front, back⟩]
  · intro written
    obtain ⟨before, after, whole, front, back⟩ := Text.eq_append_trim s
    exact ⟨before, Text.trim s, after, whole, written, front, back⟩

/-- Characters that are made small into a digit, or into a digit behind the letter of versions. -/
theorem map_toLower_iff {d : Char} (digit : d.toNat < 65) (cs : List Char) :
    (cs.map Char.toLower = [d] ↔ cs = [d]) ∧
      (cs.map Char.toLower = ['v', d] ↔ cs = ['v', d] ∨ cs = ['V', d]) := by
  have same (c : Char) : c.toLower = d ↔ c = d := by
    rw [Text.toLower_eq_iff (.inl digit)]
    exact or_iff_left fun capital => by omega
  have letter (c : Char) : c.toLower = 'v' ↔ c = 'v' ∨ c = 'V' := by
    have numbers : 'v'.toNat = 118 ∧ 'V'.toNat = 86 := by decide
    rw [Text.toLower_eq_iff (by decide), ← Char.toNat_inj (d := 'V')]
    refine or_congr_right ?_
    omega
  have alone (cs : List Char) : cs.map Char.toLower = [d] ↔ cs = [d] := by
    simp [List.map_eq_cons_iff, same]
  refine ⟨alone cs, ?_⟩
  rw [List.map_eq_cons_iff]
  constructor
  · rintro ⟨c, rest, rfl, first, behind⟩
    rw [(alone rest).mp behind]
    exact ((letter c).mp first).imp (congrArg (· :: [d])) (congrArg (· :: [d]))
  · rintro (rfl | rfl)
    · exact ⟨'v', [d], rfl, rfl, (alone [d]).mpr rfl⟩
    · exact ⟨'V', [d], rfl, rfl, (alone [d]).mpr rfl⟩

/-- In small letters, the ways to write a version are two. -/
theorem mem_spellings_iff {v : Version} {t : String} :
    t ∈ v.spellings ↔ Text.lower t = v.text ∨ Text.lower t = "v" ++ v.text := by
  rw [Text.lower_eq_iff, Text.lower_eq_iff]
  cases v with
  | v1 =>
    obtain ⟨alone, behind⟩ := map_toLower_iff (d := '1') (by decide) t.toList
    show t ∈ ["1", "v1", "V1"] ↔ t.toList.map Char.toLower = ['1'] ∨
      t.toList.map Char.toLower = ['v', '1']
    rw [alone, behind]
    simp [← String.toList_inj]
  | v2 =>
    obtain ⟨alone, behind⟩ := map_toLower_iff (d := '2') (by decide) t.toList
    show t ∈ ["2", "v2", "V2"] ↔ t.toList.map Char.toLower = ['2'] ∨
      t.toList.map Char.toLower = ['v', '2']
    rw [alone, behind]
    simp [← String.toList_inj]

/-- A text is read as the version that it spells. -/
theorem ofText?_eq_some_iff {s : String} {v : Version} : ofText? s = some v ↔ v.IsSpelling s := by
  rw [isSpelling_iff_trim, mem_spellings_iff]
  unfold ofText? normal
  generalize Text.lower (Text.trim s) = t
  cases v with
  | v1 =>
    show _ ↔ t = "1" ∨ t = "v1"
    grind
  | v2 =>
    show _ ↔ t = "2" ∨ t = "v2"
    grind

theorem spellsVersion_iff {s : String} {v : Version} : SpellsVersion s v ↔ v.IsSpelling s := by
  rw [← ofText?_eq_some_iff]
  unfold SpellsVersion parse
  cases ofText? s with
  | none => simp
  | some w =>
    rw [Option.some_inj]
    exact ⟨Except.ok.inj, congrArg Except.ok⟩

/-- An integer is read as the version that it is the number of. -/
theorem ofInt?_eq_some_iff {n : Int} {v : Version} : ofInt? n = some v ↔ n = v.number := by
  unfold ofInt?
  cases v with
  | v1 =>
    show _ ↔ n = 1
    grind
  | v2 =>
    show _ ↔ n = 2
    grind

theorem ofInt_eq_ok_iff {n : Int} {v : Version} : ofInt n = .ok v ↔ n = v.number := by
  rw [← ofInt?_eq_some_iff]
  unfold ofInt
  cases ofInt? n with
  | none => simp
  | some w =>
    rw [Option.some_inj]
    exact ⟨Except.ok.inj, congrArg Except.ok⟩

end Version

/-! ## JSON -/

/-- A value stands for a version: it is a string that spells it, or the integer that is its
number. -/
theorem writesVersion_iff {v : Version} {w : Value} :
    WritesVersion v w ↔ (∃ s, w = .str s ∧ v.IsSpelling s) ∨ w = .int v.number := by
  constructor
  · rintro (⟨s, spells⟩ | _)
    · exact .inl ⟨s, rfl, Version.spellsVersion_iff.mp spells⟩
    · exact .inr rfl
  · rintro (⟨s, rfl, spells⟩ | rfl)
    · exact .text s (Version.spellsVersion_iff.mpr spells)
    · exact .number

namespace Version

/-- A string is read as the version that it spells. -/
theorem reads_string_iff {s : String} {skip : Option Fault} {v : Version} :
    reader.fault (.str (.ok s) skip) = none ∧ reader.value (.str (.ok s) skip) = v ↔
      v.IsSpelling s := by
  rw [← ofText?_eq_some_iff]
  simp only [reader]
  cases ofText? s with
  | none => simp
  | some w => simp

/-- An integer is read as the version that it is the number of. -/
theorem reads_integer_iff {n : Int} {skip : Option Fault} {v : Version} :
    reader.fault (.num (.ok (.int n)) skip) = none ∧
        reader.value (.num (.ok (.int n)) skip) = v ↔
      n = v.number := by
  rw [← ofInt?_eq_some_iff]
  simp only [reader, ofInt]
  cases ofInt? n with
  | none => simp [faultOf]
  | some w => simp [faultOf]

/-- A document is read as a version just if it is read as a value that stands for it. -/
theorem reads_document_iff (d : Doc) (v : Version) :
    reader.fault d = none ∧ reader.value d = v ↔
      anything.fault d = none ∧ WritesVersion v (anything.value d) := by
  rw [writesVersion_iff]
  -- Nothing but a string or an integer is read as a version, or stands for one.
  have refused {e : Doc} {f : Fault} (fails : reader.fault e = some f)
      (unfit : anything.fault e = none →
        ¬ ((∃ s, anything.value e = .str s ∧ v.IsSpelling s) ∨ anything.value e = .int v.number)) :
      reader.fault e = none ∧ reader.value e = v ↔ anything.fault e = none ∧
        ((∃ s, anything.value e = .str s ∧ v.IsSpelling s) ∨
          anything.value e = .int v.number) := by
    refine iff_of_false (fun h => ?_) fun h => unfit h.1 h.2
    rw [fails] at h
    exact Option.some_ne_none f h.1
  cases d with
  | num read skip =>
    cases read with
    | error f => exact refused rfl fun h => absurd h (Option.some_ne_none f)
    | ok number =>
      cases number with
      | int n =>
        rw [reads_integer_iff]
        simp [anything, Doc.valueFault, Doc.value, faultOf, Value.int]
      | float x => exact refused rfl fun _ => by simp [anything, Doc.value, Value.int]
  | str read skip =>
    cases read with
    | error f => exact refused rfl fun h => absurd h (Option.some_ne_none f)
    | ok s =>
      rw [reads_string_iff]
      simp [anything, Doc.valueFault, Doc.value, faultOf, Value.int]
  | null => exact refused rfl fun _ => by simp [anything, Doc.value, Value.int]
  | bool b => exact refused rfl fun _ => by simp [anything, Doc.value, Value.int]
  | arr items tail => exact refused rfl fun _ => by simp [anything, Doc.value, Value.int]
  | obj members tail =>
    exact refused rfl fun _ => by simp [anything, Doc.value, Value.object, Value.int]
  | beyond inner => exact refused rfl fun h => absurd h (Option.some_ne_none _)
  | absent => exact refused rfl fun h => absurd h (Option.some_ne_none _)
  | missing f => exact refused rfl fun h => absurd h (Option.some_ne_none _)
  | broken f => exact refused rfl fun h => absurd h (Option.some_ne_none _)

/-- A text is read as a version just if it is JSON that stands for it. -/
theorem decode_iff {text : String} {v : Version} :
    reader.decode text = .ok v ↔ ∃ w, anything.decode text = .ok w ∧ WritesVersion v w := by
  simp only [Reader.decode_eq_ok_iff, reads_document_iff]
  grind

/-- So is the text of a string, just if the string spells it. -/
theorem decode_string_iff {s : String} {v : Version} :
    reader.decode (Value.str s).text = .ok v ↔ v.IsSpelling s := by
  have read : anything.decode (Value.str s).text = .ok (.str s) :=
    (Reader.reads_anything (v := .str s) trivial).decode_text trivial
  rw [decode_iff, read]
  simp [writesVersion_iff, Value.int]

end Version

/-! ## The environment -/

/-- A version that is there adds itself to what the environment gives without it. -/
theorem Config.ofEnvironment_version {env : String → Option String} {s : String}
    (there : env "ISILON_API_VERSION" = some s) (filled : s ≠ "") (c : Config) :
    ofEnvironment env = .ok c ↔ ∃ v base, v.IsSpelling s ∧
      ofEnvironment (Function.update env "ISILON_API_VERSION" none) = .ok base ∧
      c = base.withVersion v := by
  have version : settingIn env "ISILON_API_VERSION" = s := by
    rw [settingIn, there]
    rfl
  have given : versionOf s = (Version.parse s).map some :=
    if_neg (mt String.isEmpty_iff.mp filled)
  have absent : versionOf (settingIn (Function.update env "ISILON_API_VERSION" none)
      "ISILON_API_VERSION") = .ok none := rfl
  have others {name : String} (other : name ≠ "ISILON_API_VERSION") :
      settingIn (Function.update env "ISILON_API_VERSION" none) name = settingIn env name := by
    unfold settingIn
    rw [Function.update_of_ne other]
  have loads (timeout : Option Nat) (v : Version) : loaded env timeout (some v) =
      (loaded (Function.update env "ISILON_API_VERSION" none) timeout none).withVersion v := by
    unfold loaded withVersion
    simp only [others (show "ISILON_ENDPOINT" ≠ _ by decide),
      others (show "ISILON_USERNAME" ≠ _ by decide), others (show "ISILON_PASSWORD" ≠ _ by decide),
      others (show "ISILON_GROUP" ≠ _ by decide), others (show "ISILON_VOLUMEPATH" ≠ _ by decide),
      others (show "ISILON_INSECURE" ≠ _ by decide)]
  rw [ofEnvironment_eq, ofEnvironment_eq, version, given, absent, others (by decide)]
  cases timeoutOf (settingIn env "ISILON_TIMEOUT") with
  | error why =>
    refine iff_of_false (fun failed => by cases failed) ?_
    rintro ⟨v, base, -, made, -⟩
    cases made
  | ok timeout =>
    cases read : Version.parse s with
    | error why =>
      refine iff_of_false (fun failed => by cases failed) ?_
      rintro ⟨v, base, spells, -, -⟩
      have : Version.parse s = .ok v := Version.spellsVersion_iff.mpr spells
      rw [read] at this
      cases this
    | ok w =>
      constructor
      · intro made
        refine ⟨w, _, Version.spellsVersion_iff.mp read, rfl, ?_⟩
        rw [← loads]
        exact (Except.ok.inj made).symm
      · rintro ⟨v, base, spells, made, rfl⟩
        have same : Version.parse s = .ok v := Version.spellsVersion_iff.mpr spells
        rw [read] at same
        obtain rfl := Except.ok.inj same
        rw [← Except.ok.inj made, ← loads]
        rfl

/-! ## Agreement -/

/-- Versions are read alike wherever they come from. A text is read as a version just if it spells
it: a digit, alone or behind a letter in either case, with blanks around it or without. JSON is read
as one just if it is a string that spells it, whatever string that is, or the integer that is its
number; so are integers of 64 bits. A variable of the environment that is not empty gives the version
that it spells, besides all that is given without it, and is refused if it spells none. -/
theorem versions_agree :
    (∀ s v, Version.parse s = .ok v ↔ v.IsSpelling s) ∧
    (∀ text v, Version.reader.decode text = .ok v ↔
      (∃ s, anything.decode text = .ok (.str s) ∧ v.IsSpelling s) ∨
        anything.decode text = .ok (.int v.number)) ∧
    (∀ s v, Version.reader.decode (Value.str s).text = .ok v ↔ v.IsSpelling s) ∧
    (∀ (n : Int64) v, Version.ofInt n.toInt = .ok v ↔ n.toInt = v.number) ∧
    ∀ env s, env "ISILON_API_VERSION" = some s → s ≠ "" → ∀ c,
      Config.ofEnvironment env = .ok c ↔ ∃ v base, v.IsSpelling s ∧
        Config.ofEnvironment (Function.update env "ISILON_API_VERSION" none) = .ok base ∧
        c = base.withVersion v := by
  refine ⟨fun s v => Version.spellsVersion_iff, fun text v => ?_, fun s v =>
    Version.decode_string_iff, fun n v => Version.ofInt_eq_ok_iff, fun env s there filled =>
    Config.ofEnvironment_version there filled⟩
  rw [Version.decode_iff]
  simp only [writesVersion_iff]
  constructor
  · rintro ⟨w, read, ⟨s, rfl, spells⟩ | rfl⟩
    · exact .inl ⟨s, read, spells⟩
    · exact .inr read
  · rintro (⟨s, read, spells⟩ | read)
    · exact ⟨.str s, read, .inl ⟨s, rfl, spells⟩⟩
    · exact ⟨.int v.number, read, .inr rfl⟩

/-- An environment that has nothing but a version, as a capital letter between two kinds of blanks. -/
def paddedVersion (name : String) : Option String :=
  lookup name [("ISILON_API_VERSION", "\u00a0V2\t")]

/-- It gives the second version, and nothing besides. -/
theorem versions_agree_padded :
    Version.v2.IsSpelling "\u00a0V2\t" ∧
      Config.ofEnvironment paddedVersion = .ok ((Config.new "" "" "").withVersion .v2) := by
  have spells : Version.v2.IsSpelling "\u00a0V2\t" :=
    ⟨"\u00a0", "V2", "\t", rfl, by decide, by decide, by decide⟩
  refine ⟨spells, ?_⟩
  obtain ⟨-, -, -, -, given⟩ := versions_agree
  refine (given paddedVersion "\u00a0V2\t" rfl (by decide) _).mpr ⟨.v2, _, spells, ?_, rfl⟩
  rfl

end OneFs
