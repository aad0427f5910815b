import OneFs.Export

/-!
# Volumes

A volume is a directory under the volumes path. Its attributes are untyped, and it is handed to
an owner by a change of its access control list.

- `Volume`, `VolumeAttribute`, `Ownership`, `AclRequest`: the records, with `reader` and `encode`;
- `Volume.children`, `Volume.metadata`: the parts of replies that hold them.
-/

namespace OneFs

open Json

/-- One piece of metadata. -/
structure VolumeAttribute where
  name : String
  value : Value
  deriving BEq, Inhabited

namespace VolumeAttribute

/-- An attribute in a text. -/
def reader : Reader VolumeAttribute :=
  record "struct VolumeAttribute" .dropped <|
    VolumeAttribute.mk <$> requiredField "name" string <*> fieldD "value" anything .null

/-- An attribute as a value. -/
def encode (a : VolumeAttribute) : Value :=
  .object [("name", .str a.name), ("value", a.value)]

end VolumeAttribute

/-- A directory under the volumes path. Only a look-up of one volume fills in the attributes. -/
structure Volume where
  name : String
  attributes : List VolumeAttribute
  deriving BEq, Inhabited

namespace Volume

/-- A volume of which only the name is known. -/
def named (name : String) : Volume :=
  ⟨name, []⟩

/-- The value of the first attribute of a name. -/
def attribute? (v : Volume) (name : String) : Option Value :=
  (v.attributes.find? (·.name == name)).map (·.value)

/-- A volume in a text. -/
def reader : Reader Volume :=
  record "struct Volume" .dropped <|
    Volume.mk
      <$> fieldD "name" string ""
      <*> fieldD "attrs" (list VolumeAttribute.reader) []

/-- A volume as a value. -/
def encode (v : Volume) : Value :=
  .object [("name", .str v.name), ("attrs", .arr (v.attributes.map VolumeAttribute.encode))]

/-- The volumes of a directory listing. -/
def children : Reader (List Volume) :=
  record "struct VolumeList" .dropped (fieldD "children" (list reader) [])

/-- The attributes in the reply to a look-up. -/
def metadata : Reader (List VolumeAttribute) :=
  record "struct VolumeAttributes" .dropped (fieldD "attrs" (list VolumeAttribute.reader) [])

end Volume

/-- The owner or the group in a change of an access control list. -/
structure Ownership where
  name : String
  kind : String
  deriving DecidableEq, Inhabited

namespace Ownership

/-- The user of a name. -/
def user (name : String) : Ownership :=
  ⟨name, "user"⟩

/-- The group of a name. -/
def group (name : String) : Ownership :=
  ⟨name, "group"⟩

/-- An owner in a text. -/
def reader : Reader Ownership :=
  record "struct Ownership" .dropped <|
    Ownership.mk <$> requiredField "name" string <*> requiredField "type" string

/-- An owner as a value. -/
def encode (o : Ownership) : Value :=
  .object [("name", .str o.name), ("type", .str o.kind)]

end Ownership

/-- A change of an access control list that hands a directory to an owner. -/
structure AclRequest where
  authoritative : String
  action : String
  owner : Ownership
  group : Option Ownership
  deriving DecidableEq, Inhabited

namespace AclRequest

/-- The change that sets the owner and, if there is one, the group. -/
def ownership (owner : String) (group : Option String) : AclRequest :=
  ⟨"acl", "update", Ownership.user owner, group.map Ownership.group⟩

/-- A change in a text. -/
def reader : Reader AclRequest :=
  record "struct AclRequest" .dropped <|
    AclRequest.mk
      <$> requiredField "authoritative" string
      <*> requiredField "action" string
      <*> requiredField "owner" Ownership.reader
      <*> nullableField "group" Ownership.reader

/-- The members of a change in the order of its fields. -/
def members (r : AclRequest) : List (String × Value) :=
  [("authoritative", .str r.authoritative), ("action", .str r.action),
    ("owner", r.owner.encode)] ++ optionalMember "group" Ownership.encode r.group

/-- A change as a value. -/
def encode (r : AclRequest) : Value :=
  .object r.members

/-- A change as it is sent. -/
def body (r : AclRequest) : Value :=
  .obj r.members

end AclRequest

end OneFs
