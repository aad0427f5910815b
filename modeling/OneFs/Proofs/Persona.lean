import OneFs.Persona
import OneFs.Proofs.Json.Record

/-!
# Personas and their compact texts

A compact text is taken apart at its first colon. Therefore a typed persona is read back from its
text, and an untyped one unless its id looks like a typed text.

- `Persona.Ambiguous`: an untyped persona whose id starts with a type and a colon;
- `Persona.type_parse_isSome_iff`: which texts name a type;
- `Persona.parse_not_ambiguous`: no text is read as an ambiguous persona;
- `Persona.reread_eq_iff`: a persona is read back from its text unless it is ambiguous.
-/

namespace OneFs

open Json

/-- Whether a word is the name of a type, in any case. -/
def PersonaType.IsName (word : String) : Prop :=
  Text.lower word ∈ ["user", "group", "uid", "gid"]

instance (word : String) : Decidable (PersonaType.IsName word) :=
  inferInstanceAs (Decidable (_ ∈ _))

theorem PersonaType.parse?_isSome_iff {word : String} :
    (parse? word).isSome ↔ IsName word := by
  simp only [parse?, IsName, List.mem_cons, List.not_mem_nil, or_false]
  split
  · simp [*]
  · split
    · simp [*]
    · split
      · simp [*]
      · split <;> simp [*]

/-- A type is read from its name in any case. -/
theorem PersonaType.parse?_eq_some_iff {word : String} {t : PersonaType} :
    parse? word = some t ↔ Text.lower word = t.name := by
  unfold parse?
  generalize Text.lower word = small
  cases t <;> simp only [name] <;> grind

theorem PersonaType.parse?_name (t : PersonaType) : parse? t.name = some t := by
  cases t <;> decide

/-- No type has a colon in its name. -/
theorem PersonaType.IsName.no_colon {word : String} (h : IsName word) : ':' ∉ word.toList := by
  intro hmem
  have hlower : ':' ∈ (Text.lower word).toList := by
    rw [Text.lower, String.toList_ofList]
    exact List.mem_map.mpr ⟨':', hmem, rfl⟩
  have hnone : ∀ name ∈ ["user", "group", "uid", "gid"], ':' ∉ name.toList := by decide
  exact hnone _ h hlower

namespace Persona

/-- The persona has no type, but its id starts with the name of one and a colon. -/
def Ambiguous (p : Persona) : Prop :=
  p.type = none ∧ ∃ word rest, p.id = word ++ ":" ++ rest ∧ PersonaType.IsName word

/-- What a persona is after it was written and read. -/
def reread (p : Persona) : Persona :=
  parse p.text

/-! ## Taking a text apart -/

/-- A text is taken apart at its first colon. -/
theorem parse_append {word : String} (h : ':' ∉ word.toList) (rest : String) :
    parse (word ++ ":" ++ rest) =
      match PersonaType.parse? word with
      | some t => ⟨rest, some t⟩
      | none => ⟨word ++ ":" ++ rest, none⟩ := by
  have hcs : (word ++ ":" ++ rest).toList = word.toList ++ ':' :: rest.toList := by
    simp
  have hne : ∀ c ∈ word.toList, (c != ':') = true := fun c hc =>
    bne_iff_ne.mpr fun heq => h (heq ▸ hc)
  have hdrop : (word ++ ":" ++ rest).toList.dropWhile (· != ':') = ':' :: rest.toList := by
    rw [hcs, List.dropWhile_append_of_pos hne]
    rfl
  have htake : (word ++ ":" ++ rest).toList.takeWhile (· != ':') = word.toList := by
    rw [hcs, List.takeWhile_append_of_pos hne]
    simp
  unfold parse
  cases parsed : PersonaType.parse? word <;>
    simp only [hdrop, htake, String.ofList_toList, parsed]

/-- A text without a colon is an id. -/
theorem parse_of_no_colon {s : String} (h : ':' ∉ s.toList) : parse s = ⟨s, none⟩ := by
  have hdrop : s.toList.dropWhile (· != ':') = [] := by
    have hall : ∀ c ∈ s.toList, (c != ':') = true := fun c hc =>
      bne_iff_ne.mpr fun heq => h (heq ▸ hc)
    have : (s.toList ++ []).dropWhile (· != ':') = [] := List.dropWhile_append_of_pos hall
    rwa [List.append_nil] at this
  unfold parse
  simp only [hdrop]

/-- A text with a colon, cut at the first one. -/
theorem exists_eq_append_of_colon {s : String} (h : ':' ∈ s.toList) :
    ∃ word rest, s = word ++ ":" ++ rest ∧ ':' ∉ word.toList := by
  obtain ⟨front, back, hcs, hfront⟩ := List.eq_append_cons_of_mem h
  refine ⟨String.ofList front, String.ofList back, ?_, by rwa [String.toList_ofList]⟩
  rw [← String.toList_inj, hcs]
  simp

/-- A text is read as typed if it starts with the name of a type and a colon. -/
theorem type_parse_isSome_iff {s : String} :
    (parse s).type.isSome ↔ ∃ word rest, s = word ++ ":" ++ rest ∧ PersonaType.IsName word := by
  constructor
  · intro htype
    by_cases hcolon : ':' ∈ s.toList
    · obtain ⟨word, rest, rfl, hword⟩ := exists_eq_append_of_colon hcolon
      rw [parse_append hword] at htype
      refine ⟨word, rest, rfl, PersonaType.parse?_isSome_iff.mp ?_⟩
      cases hp : PersonaType.parse? word with
      | some t => rfl
      | none => rw [hp] at htype; cases htype
    · rw [parse_of_no_colon hcolon] at htype
      cases htype
  · rintro ⟨word, rest, rfl, hname⟩
    obtain ⟨t, ht⟩ := Option.isSome_iff_exists.mp (PersonaType.parse?_isSome_iff.mpr hname)
    rw [parse_append hname.no_colon, ht]
    rfl

/-- A text that is not read as typed is its own id. -/
theorem parse_of_type_none {s : String} (h : (parse s).type = none) : parse s = ⟨s, none⟩ := by
  by_cases hcolon : ':' ∈ s.toList
  · obtain ⟨word, rest, rfl, hword⟩ := exists_eq_append_of_colon hcolon
    rw [parse_append hword] at h ⊢
    cases hp : PersonaType.parse? word with
    | some t => rw [hp] at h; cases h
    | none => rfl
  · exact parse_of_no_colon hcolon

/-- A text is never read as an untyped persona with an id that looks like a typed text. -/
theorem parse_not_ambiguous (s : String) : ¬ (parse s).Ambiguous := by
  rintro ⟨untyped, word, rest, id, name⟩
  rw [parse_of_type_none untyped] at id
  have typed : (parse s).type.isSome := type_parse_isSome_iff.mpr ⟨word, rest, id, name⟩
  rw [untyped] at typed
  cases typed

/-! ## Writing and reading -/

theorem reread_typed (id : String) (t : PersonaType) :
    (Persona.mk id (some t)).reread = ⟨id, some t⟩ := by
  have hname : ':' ∉ t.name.toList := by cases t <;> decide
  show parse (t.name ++ ":" ++ id) = _
  rw [parse_append hname, PersonaType.parse?_name]

/-- A persona is read back from its text unless it is ambiguous. -/
theorem reread_eq_iff (p : Persona) : p.reread = p ↔ ¬ p.Ambiguous := by
  obtain ⟨id, type⟩ := p
  cases type with
  | some t => exact iff_of_true (reread_typed id t) fun h => by cases h.1
  | none =>
    constructor
    · rintro heq ⟨-, hword⟩
      have htype : (parse id).type.isSome := type_parse_isSome_iff.mpr hword
      rw [show parse id = ⟨id, none⟩ from heq] at htype
      cases htype
    · intro h
      show parse id = ⟨id, none⟩
      cases htype : (parse id).type with
      | none => exact parse_of_type_none htype
      | some t =>
        exact absurd ⟨rfl, type_parse_isSome_iff.mp (by rw [htype]; rfl)⟩ h

/-- A persona as written is read as what its text says. -/
theorem reads_encode (p : Persona) : Persona.reader.Reads p.encode p.reread :=
  Reader.reads_checked (Reader.reads_anything (v := .str p.text) trivial) rfl

end Persona

end OneFs
