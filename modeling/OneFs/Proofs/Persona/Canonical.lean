import OneFs.Proofs.Persona

/-!
# Canonical texts of personas

A compact text has many spellings of a type, and one in which it is written. So texts are sorted by
what they are written as: two of them stand for one persona just if they have the same canonical
text, and that is a text which stands for itself.

- `Persona.text_parse_append`, `Persona.text_parse_of_no_colon`: how a text is written once it was
  read;
- `Persona.parse_eq_iff`: which texts stand for one persona;
- `texts_canonical`: the canonical text of every text.
-/

namespace OneFs

open Text

namespace Persona

/-- What stands in front of the first colon is written in small letters if it names a type. All else
is written as it was read. -/
theorem text_parse_append {word : String} (first : ':' ∉ word.toList) (rest : String) :
    (parse (word ++ ":" ++ rest)).text =
      (if PersonaType.IsName word then lower word else word) ++ ":" ++ rest := by
  rw [parse_append first]
  cases read : PersonaType.parse? word with
  | some t =>
    have named : PersonaType.IsName word := PersonaType.parse?_isSome_iff.mp (by rw [read]; rfl)
    rw [if_pos named, PersonaType.parse?_eq_some_iff.mp read]
    rfl
  | none =>
    have unnamed : ¬ PersonaType.IsName word := fun named => by
      have typed := PersonaType.parse?_isSome_iff.mpr named
      rw [read] at typed
      cases typed
    rw [if_neg unnamed]
    rfl

/-- A text without a colon is written as it was read. -/
theorem text_parse_of_no_colon {s : String} (h : ':' ∉ s.toList) : (parse s).text = s := by
  rw [parse_of_no_colon h]
  rfl

/-- The canonical text stands for what the text stood for. -/
theorem parse_text_parse (s : String) : parse (parse s).text = parse s :=
  (reread_eq_iff (parse s)).mpr (parse_not_ambiguous s)

/-- Texts stand for one persona just if they have the same canonical text. -/
theorem parse_eq_iff (s t : String) : parse s = parse t ↔ (parse s).text = (parse t).text := by
  constructor
  · exact congrArg text
  · intro written
    rw [← parse_text_parse s, written, parse_text_parse]

end Persona

/-- Personas have one canonical text. Whatever text is read: it is written as it was, but for what
stands in front of its first colon, which is written in small letters if it names a type in any
case. The written text stands for the same persona. Other texts stand for that persona just if they
are written alike. And every persona with a type is read back from its text, whatever its id. -/
theorem texts_canonical (s : String) :
    (∀ word rest, ':' ∉ word.toList → s = word ++ ":" ++ rest →
      (Persona.parse s).text =
        (if PersonaType.IsName word then lower word else word) ++ ":" ++ rest) ∧
    (':' ∉ s.toList → (Persona.parse s).text = s) ∧
    Persona.parse (Persona.parse s).text = Persona.parse s ∧
    (∀ t, Persona.parse s = Persona.parse t ↔ (Persona.parse s).text = (Persona.parse t).text) ∧
    ∀ id type, Persona.parse (Persona.mk id (some type)).text = ⟨id, some type⟩ := by
  refine ⟨?_, Persona.text_parse_of_no_colon, Persona.parse_text_parse s, Persona.parse_eq_iff s,
    Persona.reread_typed⟩
  rintro word rest first rfl
  exact Persona.text_parse_append first rest

end OneFs
