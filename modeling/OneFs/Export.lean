import OneFs.Persona

/-!
# NFS exports

An export publishes paths to clients. Only the commonly used settings are fields; every other
member that the cluster reports is kept in `extra` and written back unchanged.

- `UserMapping`, `Export`, `ExportList`: the records, with `reader` and `encode`;
- `Export.creationV1`, `Export.creationV2`, `Export.restriction`: request bodies.
-/

namespace OneFs

open Json

/-- The identity that requests from the clients of an export are mapped to. -/
structure UserMapping where
  enabled : Option Bool
  user : Option Persona
  primaryGroup : Option Persona
  secondaryGroups : Option (List Persona)
  extra : List (String × Value)
  deriving BEq, Inhabited

namespace UserMapping

/-- A mapping that says nothing. -/
def blank : UserMapping :=
  ⟨none, none, none, none, []⟩

/-- Everyone is mapped to `user`, and to a primary group if there is one. -/
def toUser (user : String) (group : Option String) : UserMapping :=
  { blank with user := some (Persona.user user), primaryGroup := group.map Persona.group }

/-- The fields of a mapping. -/
def fields : Fields UserMapping :=
  UserMapping.mk
    <$> field? "enabled" boolean
    <*> field? "user" Persona.reader
    <*> field? "primary_group" Persona.reader
    <*> field? "secondary_groups" (list Persona.reader)
    <*> otherMembers

/-- A mapping in a text. -/
def reader : Reader UserMapping :=
  record "struct UserMapping" .kept fields

/-- The members of the fields of a mapping, in their order. -/
def declared (m : UserMapping) : List (String × Value) :=
  optionalMember "enabled" .bool m.enabled ++
  optionalMember "user" Persona.encode m.user ++
  optionalMember "primary_group" Persona.encode m.primaryGroup ++
  optionalMember "secondary_groups" (fun gs => .arr (gs.map Persona.encode)) m.secondaryGroups

/-- The members of a mapping, those that no field declares last. -/
def members (m : UserMapping) : List (String × Value) :=
  m.declared ++ m.extra

/-- A mapping as a value. -/
def encode (m : UserMapping) : Value :=
  .object m.members

end UserMapping

/-- An NFS export. -/
structure Export where
  id : Int64
  paths : List String
  clients : Option (List String)
  rootClients : Option (List String)
  readOnlyClients : Option (List String)
  readWriteClients : Option (List String)
  readOnly : Option Bool
  description : Option String
  zone : Option String
  mapAll : Option UserMapping
  mapRoot : Option UserMapping
  extra : List (String × Value)
  deriving BEq, Inhabited

namespace Export

/-- An export that says nothing. -/
def blank : Export :=
  ⟨0, [], none, none, none, none, none, none, none, none, none, []⟩

/-- The clients that may mount the export; none stands for everyone. -/
def allowed (e : Export) : List String :=
  e.clients.getD []

/-- Whether the export publishes a path. -/
def hasPath (e : Export) (path : String) : Bool :=
  e.paths.any (· == path)

/-- The fields of an export. -/
def fields : Fields Export :=
  Export.mk
    <$> fieldD "id" int64 0
    <*> fieldD "paths" (list string) []
    <*> field? "clients" (list string)
    <*> field? "root_clients" (list string)
    <*> field? "read_only_clients" (list string)
    <*> field? "read_write_clients" (list string)
    <*> field? "read_only" boolean
    <*> field? "description" string
    <*> field? "zone" string
    <*> field? "map_all" UserMapping.reader
    <*> field? "map_root" UserMapping.reader
    <*> otherMembers

/-- An export in a text. -/
def reader : Reader Export :=
  record "struct Export" .kept fields

/-- The members of the fields of an export, in their order. -/
def declared (e : Export) : List (String × Value) :=
  [("id", .ofInt64 e.id), ("paths", .ofTexts e.paths)] ++
  optionalMember "clients" .ofTexts e.clients ++
  optionalMember "root_clients" .ofTexts e.rootClients ++
  optionalMember "read_only_clients" .ofTexts e.readOnlyClients ++
  optionalMember "read_write_clients" .ofTexts e.readWriteClients ++
  optionalMember "read_only" .bool e.readOnly ++
  optionalMember "description" .str e.description ++
  optionalMember "zone" .str e.zone ++
  optionalMember "map_all" UserMapping.encode e.mapAll ++
  optionalMember "map_root" UserMapping.encode e.mapRoot

/-- The members of an export, those that no field declares last. -/
def members (e : Export) : List (String × Value) :=
  e.declared ++ e.extra

/-- An export as a value. -/
def encode (e : Export) : Value :=
  .object e.members

/-- The body that publishes a path in version 1: plain user and group names. -/
def creationV1 (path user : String) (group : Option String) : Value :=
  .obj [
    ("paths", .ofTexts [path]),
    ("map_all", .obj (("user", .str user) ::
      match group with
      | some g => [("groups", .ofTexts [g])]
      | none => []))]

/-- The body that publishes a path in version 2: a mapping to personas. -/
def creationV2 (path user : String) (group : Option String) : Value :=
  .obj [
    ("paths", .ofTexts [path]),
    ("map_all", .obj (UserMapping.toUser user group).members)]

/-- The body that replaces the clients of an export. -/
def restriction (clients : List String) : Value :=
  .obj [("clients", .ofTexts clients)]

/-- The id in the reply to a creation. -/
def createdId : Reader Int64 :=
  record "struct CreatedExport" .dropped (requiredField "id" int64)

end Export

/-- A listing of exports, also the reply to a look-up of one. -/
structure ExportList where
  exports : List Export
  extra : List (String × Value)
  deriving BEq, Inhabited

namespace ExportList

/-- The fields of a listing. -/
def fields : Fields ExportList :=
  ExportList.mk <$> fieldD "exports" (list Export.reader) [] <*> otherMembers

/-- A listing in a text. -/
def reader : Reader ExportList :=
  record "struct ExportList" .kept fields

/-- The members of the fields of a listing. -/
def declared (l : ExportList) : List (String × Value) :=
  [("exports", .arr (l.exports.map Export.encode))]

/-- A listing as a value. -/
def encode (l : ExportList) : Value :=
  .object (l.declared ++ l.extra)

end ExportList

end OneFs
