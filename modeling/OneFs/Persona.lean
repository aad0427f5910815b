import OneFs.Json.Reader
import OneFs.Text.Letter

/-!
# Personas

A persona names a user or a group, by name or by number. Its written form is the compact text
`type:id`, or the bare id when the type is unknown.

- `PersonaType.parse?`: the four types, in any case;
- `Persona.parse`: the persona of a compact text, which never fails;
- `Persona.text`: the compact text;
- `Persona.reader`: a persona as a string or as an object with `id` or `name` and `type`.
-/

namespace OneFs

open Json

/-- The kind of identity that a persona names. -/
inductive PersonaType where
  | user
  | group
  | uid
  | gid
  deriving DecidableEq, Inhabited

namespace PersonaType

/-- The name of a type. -/
def name : PersonaType → String
  | .user => "user"
  | .group => "group"
  | .uid => "uid"
  | .gid => "gid"

/-- The type of a name in any case. -/
def parse? (s : String) : Option PersonaType :=
  let n := Text.lower s
  if n = "user" then some .user
  else if n = "group" then some .group
  else if n = "uid" then some .uid
  else if n = "gid" then some .gid
  else none

/-- A type, by its name in any case. -/
def reader : Reader PersonaType :=
  string.checked fun s =>
    match parse? s with
    | some t => .ok t
    | none => .error (.misfit (.unacceptable ("unknown persona id type: " ++ s)) .behind)

/-- A type as written. -/
def encode (t : PersonaType) : Value :=
  .str t.name

end PersonaType

/-- A user or group. -/
structure Persona where
  id : String
  type : Option PersonaType
  deriving DecidableEq, Inhabited

namespace Persona

/-- The user of a name. -/
def user (name : String) : Persona :=
  ⟨name, some .user⟩

/-- The group of a name. -/
def group (name : String) : Persona :=
  ⟨name, some .group⟩

/-- The user of a number. -/
def uid (n : UInt32) : Persona :=
  ⟨toString n.toNat, some .uid⟩

/-- The group of a number. -/
def gid (n : UInt32) : Persona :=
  ⟨toString n.toNat, some .gid⟩

/-- The compact text. -/
def text (p : Persona) : String :=
  match p.type with
  | some t => t.name ++ ":" ++ p.id
  | none => p.id

/-- The persona of a compact text. What stands before the first colon is a type only if it is one
of the four. -/
def parse (s : String) : Persona :=
  let cs := s.toList
  match cs.dropWhile (· != ':') with
  | ':' :: id =>
    match PersonaType.parse? (String.ofList (cs.takeWhile (· != ':'))) with
    | some t => ⟨String.ofList id, some t⟩
    | none => ⟨s, none⟩
  | _ => ⟨s, none⟩

/-- The persona of an object: its `id`, else its `name`; the `type` counts if that gives none. -/
def ofObject (members : List (String × Value)) : Except Fault Persona :=
  let type := ((lookup "type" members).bind Value.asText?).bind PersonaType.parse?
  let named :=
    match (lookup "id" members).bind Value.asText? with
    | some id => some (parse id)
    | none => ((lookup "name" members).bind Value.asText?).map fun name => ⟨name, none⟩
  match named with
  | some p => .ok ⟨p.id, p.type.or type⟩
  | none => .error (.misfit (.unacceptable "persona object has neither id nor name") .behind)

/-- The persona of a value. -/
def ofValue : Value → Except Fault Persona
  | .str s => .ok (parse s)
  | .obj members => ofObject members
  | v =>
    .error <| .misfit (.unacceptable ("persona id must be a string or object, got " ++ v.text))
      .behind

/-- A persona, as a string or an object. -/
def reader : Reader Persona :=
  anything.checked ofValue

/-- A persona as written. -/
def encode (p : Persona) : Value :=
  .str p.text

end Persona

end OneFs
