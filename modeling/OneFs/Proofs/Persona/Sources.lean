import OneFs.Proofs.Json.Text
import OneFs.Proofs.Json.Unknown
import OneFs.Proofs.Persona

/-!
# Personas and what they are read from

A persona is read from a string or from an object, and written as its compact text. Whatever it is
read from, an untyped persona has an id that does not look like a typed text, with one exception: an
object that gives a name and nothing else may give any name. That persona is taken for another one
when it was written.

- `Json.Reader.decode_checked`: what a reader with a check makes of a text;
- `Persona.NamedAlike`: the objects that make the exception;
- `Persona.not_ambiguous_or`, `Persona.ofValue_ambiguous_iff`: which personas are read from texts
  and from values;
- `persona_kept_iff`: a persona survives unless it is read from such an object.
-/

namespace OneFs

open Json

/-- What a reader with a check makes of a text passes the check. -/
theorem Json.Reader.decode_checked {α β : Type} [Inhabited β] {r : Reader α}
    {f : α → Except Fault β} {text : String} {b : β} (h : (r.checked f).decode text = .ok b) :
    ∃ a, r.decode text = .ok a ∧ f a = .ok b := by
  obtain ⟨fine, after, value⟩ := fault_of_decode h
  obtain ⟨read, passed⟩ := Option.or_eq_none_iff.mp fine
  refine ⟨r.value (scan text).1, ?_, ?_⟩
  · unfold Reader.decode
    dsimp only
    rw [read, after]
    rfl
  · unfold Reader.checked at value
    dsimp only at value
    cases eq : f (r.value (scan text).1) with
    | ok b' =>
      rw [eq] at value
      exact congrArg Except.ok value
    | error fault =>
      rw [eq] at passed
      cases passed

namespace Persona

/-- An object that gives no id and no type, and a name that starts with the name of a type and a
colon. -/
structure NamedAlike (v : Value) (word rest : String) : Prop where
  unidentified : ∀ id, v.member? "id" ≠ some (.str id)
  untyped : ∀ name, v.member? "type" = some (.str name) → ¬ PersonaType.IsName name
  named : v.member? "name" = some (.str (word ++ ":" ++ rest))
  alike : PersonaType.IsName word

/-- Giving a type to what was read from a text does not make it look like another. -/
theorem not_ambiguous_or (s : String) (type : Option PersonaType) :
    ¬ Ambiguous ⟨(parse s).id, (parse s).type.or type⟩ := by
  rintro ⟨untyped, word, rest, id, name⟩
  exact parse_not_ambiguous s ⟨(Option.or_eq_none_iff.mp untyped).1, word, rest, id, name⟩

/-- The text of a member, if it is a string. -/
theorem bind_asText?_eq_some_iff {o : Option Value} {s : String} :
    o.bind Value.asText? = some s ↔ o = some (.str s) := by
  cases o with
  | none => simp
  | some v => cases v <;> simp [Value.asText?]

/-- A member gives no type if it is no string or not the name of one. -/
theorem bind_parse?_eq_none_iff {o : Option Value} :
    (o.bind Value.asText?).bind PersonaType.parse? = none ↔
      ∀ name, o = some (.str name) → ¬ PersonaType.IsName name := by
  rw [Option.bind_eq_none_iff]
  refine forall_congr' fun name => ?_
  rw [bind_asText?_eq_some_iff, ← PersonaType.parse?_isSome_iff, Option.not_isSome_iff_eq_none]

/-- The objects that make the exception are those from which an ambiguous persona is read. -/
theorem ofObject_ambiguous_iff {members : List (String × Value)} {p : Persona}
    (read : ofObject members = .ok p) :
    p.Ambiguous ↔ ∃ word rest, NamedAlike (.obj members) word rest := by
  unfold ofObject at read
  dsimp only at read
  cases identified : (lookup "id" members).bind Value.asText? with
  | some id =>
    -- The id was read as a text, which leaves nothing to be mistaken.
    rw [identified] at read
    cases read
    refine iff_of_false (not_ambiguous_or id _) ?_
    rintro ⟨word, rest, alike⟩
    exact alike.unidentified id (bind_asText?_eq_some_iff.mp identified)
  | none =>
    rw [identified] at read
    cases named : (lookup "name" members).bind Value.asText? with
    | none => rw [named] at read; cases read
    | some name =>
      rw [named] at read
      cases read
      have unidentified : ∀ id, lookup "id" members ≠ some (.str id) := fun id h =>
        absurd (bind_asText?_eq_some_iff.mpr h) (by rw [identified]; simp)
      have name_eq := bind_asText?_eq_some_iff.mp named
      constructor
      · rintro ⟨untyped, word, rest, rfl, alike⟩
        exact ⟨word, rest, unidentified, bind_parse?_eq_none_iff.mp untyped, name_eq, alike⟩
      · rintro ⟨word, rest, alike⟩
        have same : name = word ++ ":" ++ rest := by
          have := name_eq.symm.trans alike.named
          simpa using this
        exact ⟨bind_parse?_eq_none_iff.mpr alike.untyped, word, rest, same, alike.alike⟩

/-- A persona that is read from a value is ambiguous just if the value makes the exception. -/
theorem ofValue_ambiguous_iff {v : Value} {p : Persona} (read : ofValue v = .ok p) :
    p.Ambiguous ↔ ∃ word rest, NamedAlike v word rest := by
  cases v with
  | str s =>
    cases read
    refine iff_of_false (parse_not_ambiguous s) ?_
    rintro ⟨word, rest, alike⟩
    cases alike.named
  | obj members => exact ofObject_ambiguous_iff read
  | null => cases read
  | bool b => cases read
  | num n => cases read
  | arr items => cases read

/-- The name that makes the exception is the id of what is read. -/
theorem eq_of_namedAlike {v : Value} {p : Persona} {word rest : String} (read : ofValue v = .ok p)
    (alike : NamedAlike v word rest) : p = ⟨word ++ ":" ++ rest, none⟩ := by
  cases v with
  | obj members =>
    have identified : (lookup "id" members).bind Value.asText? = none :=
      Option.eq_none_iff_forall_ne_some.mpr fun id h =>
        alike.unidentified id (bind_asText?_eq_some_iff.mp h)
    have named : (lookup "name" members).bind Value.asText? = some (word ++ ":" ++ rest) :=
      bind_asText?_eq_some_iff.mpr alike.named
    have untyped : ((lookup "type" members).bind Value.asText?).bind PersonaType.parse? = none :=
      bind_parse?_eq_none_iff.mpr alike.untyped
    change ofObject members = _ at read
    unfold ofObject at read
    rw [identified, named, untyped] at read
    cases read
    rfl
  | _ => cases alike.named

end Persona

/-- Personas that survive. Whatever text a persona is read from, its compact text is read again, and
as the same persona unless the text is an object without id and type whose name starts with the name
of a type and a colon. Then the persona was read as untyped, with that name as its id, and it comes
back with the type and with what follows the colon as its id. -/
theorem persona_kept_iff {text : String} {p : Persona}
    (decoded : Persona.reader.decode text = .ok p) :
    ∃ v, anything.decode text = .ok v ∧
      Persona.reader.decode p.encode.text = .ok p.reread ∧
      (p.reread = p ↔ ¬ ∃ word rest, Persona.NamedAlike v word rest) ∧
      ∀ word rest, Persona.NamedAlike v word rest →
        p = ⟨word ++ ":" ++ rest, none⟩ ∧
          p.reread = ⟨rest, PersonaType.parse? word⟩ ∧ (PersonaType.parse? word).isSome := by
  obtain ⟨v, value, read⟩ := Reader.decode_checked decoded
  refine ⟨v, value, p.reads_encode.decode_text trivial, ?_, fun word rest alike => ?_⟩
  · rw [p.reread_eq_iff, Persona.ofValue_ambiguous_iff read]
  · have typed := PersonaType.parse?_isSome_iff.mpr alike.alike
    have eq := Persona.eq_of_namedAlike read alike
    refine ⟨eq, ?_, typed⟩
    obtain ⟨t, ht⟩ := Option.isSome_iff_exists.mp typed
    rw [eq]
    show Persona.parse (word ++ ":" ++ rest) = _
    rw [Persona.parse_append alike.alike.no_colon, ht]

/-- A user who is called like a number. -/
def numberedName : String :=
  "\x7b\"name\": \"UID:1000\"\x7d"

/-- The name is taken for the number once it was written. -/
theorem numberedName_not_kept :
    Persona.reader.decode numberedName = .ok ⟨"UID:1000", none⟩ ∧
      Persona.reader.decode (Persona.mk "UID:1000" none).encode.text = .ok ⟨"1000", some .uid⟩ ∧
      ∃ v, anything.decode numberedName = .ok v ∧
        ∃ word rest, Persona.NamedAlike v word rest := by
  have read : (Persona.reader.decode numberedName).toOption = some ⟨"UID:1000", none⟩ := by
    decide +kernel
  cases decoded : Persona.reader.decode numberedName with
  | error fault => rw [decoded] at read; cases read
  | ok p =>
    rw [decoded] at read
    obtain rfl := Option.some.inj read
    obtain ⟨v, value, again, kept, -⟩ := persona_kept_iff decoded
    have reread : (Persona.mk "UID:1000" none).reread = ⟨"1000", some .uid⟩ := by decide
    rw [reread] at again kept
    exact ⟨rfl, again, v, value, not_not.mp (mt kept.mpr (by decide))⟩

end OneFs
