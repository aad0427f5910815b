import OneFs.Json.Scan

/-!
# Readers

A text is refused at its first fault in reading order, and what an accepted text stands for does
not depend on the order of its members. A `Reader` keeps the two apart: `fault` finds the first
thing to object to in a document, and `value` says what a document without faults stands for.

- basic readers: `anything`, `ignored`, `string`, `boolean`, `int64`, `word64`, `double`;
- `list`, `optional`, `checked`, `unitVariant`: readers from readers;
- `Fields` and `record`: records, whose fields are declared once, in order;
- `Reader.decode`: reading a whole text.
-/

namespace OneFs.Json

/-- A way of reading documents. -/
structure Reader (α : Type) where
  /-- The first thing to object to. -/
  fault : Doc → Option Fault
  /-- What a document without faults stands for. -/
  value : Doc → α

namespace Reader

variable {α β : Type}

/-- The outcome of reading a document. -/
def read (r : Reader α) (d : Doc) : Except Fault α :=
  match r.fault d with
  | some f => .error f
  | none => .ok (r.value d)

/-- The outcome of reading a whole text. -/
def decode (r : Reader α) (text : String) : Except Fault α :=
  let (d, after) := scan text
  match (r.fault d).or after with
  | some f => .error f
  | none => .ok (r.value d)

/-- Reads what `f` accepts among the values of `r`. -/
def checked [Inhabited β] (r : Reader α) (f : α → Except Fault β) : Reader β where
  fault d := (r.fault d).or (faultOf (f (r.value d)))
  value d :=
    match f (r.value d) with
    | .ok b => b
    | .error _ => default

end Reader

/-- Any value. -/
def anything : Reader Value where
  fault := Doc.valueFault
  value := Doc.value

/-- Anything at all, passed over. -/
def ignored : Reader Unit where
  fault := Doc.skipFault
  value _ := ()

/-- A string. -/
def string : Reader String where
  fault
    | .str (.ok _) _ => none
    | d => some (d.mismatch "a string")
  value
    | .str (.ok s) _ => s
    | _ => ""

/-- `true` or `false`. -/
def boolean : Reader Bool where
  fault
    | .bool _ => none
    | d => some (d.mismatch "a boolean")
  value
    | .bool b => b
    | _ => false

/-- A signed integer of 64 bits. -/
def int64 : Reader Int64 where
  fault
    | .num (.ok (.int n)) _ =>
      if -9223372036854775808 ≤ n ∧ n < 9223372036854775808 then none
      else some (.misfit (.invalidValue (.int n) "i64") .token)
    | d => some (d.mismatch "i64")
  value
    | .num (.ok (.int n)) _ => Int64.ofInt n
    | _ => 0

/-- An integer of 64 bits that is not negative. -/
def word64 : Reader Nat where
  fault
    | .num (.ok (.int n)) _ =>
      if 0 ≤ n then none else some (.misfit (.invalidValue (.int n) "u64") .token)
    | d => some (d.mismatch "u64")
  value
    | .num (.ok (.int n)) _ => n.toNat
    | _ => 0

/-- The double nearest to an integer of 64 bits. -/
def floatOfInt (n : Int) : Float :=
  if n < 0 then -(n.natAbs.toUInt64.toFloat) else n.natAbs.toUInt64.toFloat

/-- A number as a double. -/
def double : Reader Float where
  fault
    | .num (.ok _) _ => none
    | d => some (d.mismatch "f64")
  value
    | .num (.ok (.int n)) _ => floatOfInt n
    | .num (.ok (.float x)) _ => x
    | _ => 0.0

/-- The first fault that `r` finds in a list of documents, of which the first is item `i`. -/
def firstFault {α : Type} (r : Reader α) (i : Nat) : List Doc → Option Fault
  | [] => none
  | d :: rest => ((r.fault d).map (Fault.inItem i)).or (firstFault r (i + 1) rest)

/-- A list of what `r` reads. -/
def list {α : Type} (r : Reader α) : Reader (List α) where
  fault
    | .arr items tail => (firstFault r 0 items).or tail
    | .beyond (.arr _ _) => some (.malformed .nestedTooDeep)
    | d => some (d.mismatch "a sequence")
  value
    | .arr items _ => items.map r.value
    | _ => []

/-- `null`, or what `r` reads. -/
def optional {α : Type} (r : Reader α) : Reader (Option α) where
  fault
    | .null => none
    | d => r.fault d
  value
    | .null => none
    | d => some (r.value d)

/-- The complaint that a document that stands as the first key of an object is not as `expected`. -/
def Doc.tagFault (expected : String) (k : Doc) : Fault :=
  match k.mismatch expected with
  | .misfit why _ => .misfit why .tag
  | f => f

/-- What may follow the only member of an object that names a variant. -/
def afterVariant (rest : List (Doc × Doc)) (tail : Option Fault) : Option Fault :=
  if rest.isEmpty then tail else some (.malformed .expectedValue)

/-- One of several names, as a string or as the key of an object whose only member is `null`. -/
def unitVariant {α : Type} (ofName : String → α) : Reader α where
  fault
    | .str (.ok _) _ => none
    | .str (.error f) _ => some f
    | .obj [] tail => some (tail.getD (.malformed .expectedValue))
    | .obj ((k, d) :: rest) tail =>
      match k with
      | .str (.ok _) _ =>
        match d with
        | .null => afterVariant rest tail
        | d => some ((d.mismatch "unit").inItem 0)
      | k => some (k.tagFault "variant identifier")
    | .beyond (.obj _ _) => some (.malformed .nestedTooDeep)
    | .absent => some (.unfinished .value)
    | .missing f => some f
    | _ => some (.malformed .expectedValue)
  value
    | .str (.ok s) _ => ofName s
    | .obj ((k, _) :: _) _ => ofName k.key
    | _ => ofName ""

/-! ## Records -/

/-- Whether a field may be left out. -/
inductive Presence where
  /-- It must be there. -/
  | required
  /-- An object may leave it out, a list may not. -/
  | nullable
  /-- It may be left out. -/
  | defaulted
  deriving DecidableEq, Inhabited

/-- A declared field of a record. -/
structure Field where
  name : String
  presence : Presence
  fault : Doc → Option Fault

/-- The members of a record: its declared fields by name, and the others. -/
structure Members where
  declared : String → Option Doc
  others : List (String × Value)

/-- The fields of a record, and the record that its members make up. -/
structure Fields (α : Type) where
  declared : List Field
  build : Members → α

namespace Fields

variable {α β : Type}

/-- No field. -/
def pure (a : α) : Fields α :=
  ⟨[], fun _ => a⟩

/-- The fields of `f`, then those of `a`. -/
def seq (f : Fields (α → β)) (a : Unit → Fields α) : Fields β :=
  ⟨f.declared ++ (a ()).declared, fun m => f.build m ((a ()).build m)⟩

instance : Applicative Fields where
  pure := Fields.pure
  seq := Fields.seq

end Fields

/-- A field that reads as `default` when it is left out. -/
def fieldD {α : Type} (name : String) (r : Reader α) (default : α) : Fields α where
  declared := [⟨name, .defaulted, r.fault⟩]
  build m := ((m.declared name).map r.value).getD default

/-- An optional field, `none` when it is left out. -/
def field? {α : Type} (name : String) (r : Reader α) : Fields (Option α) :=
  fieldD name (optional r) none

/-- An optional field that only an object may leave out. -/
def nullableField {α : Type} (name : String) (r : Reader α) : Fields (Option α) where
  declared := [⟨name, .nullable, (optional r).fault⟩]
  build m := (m.declared name).bind (optional r).value

/-- A field that must be there. -/
def requiredField {α : Type} [Inhabited α] (name : String) (r : Reader α) : Fields α where
  declared := [⟨name, .required, r.fault⟩]
  build m := ((m.declared name).map r.value).getD default

/-- The members that no field declares. -/
def otherMembers : Fields (List (String × Value)) :=
  ⟨[], Members.others⟩

/-- What becomes of members that no field declares. -/
inductive Others where
  | kept
  | dropped
  deriving DecidableEq

/-- What is wrong with an undeclared member. -/
def Others.fault : Others → Doc → Option Fault
  | .kept => Doc.valueFault
  | .dropped => Doc.skipFault

/-- The field of a name. -/
def findField (name : String) : List Field → Option Field
  | [] => none
  | f :: rest => if f.name = name then some f else findField name rest

/-- The first fault among the members of a record from member `i` on, of whose fields those in
`seen` are there. -/
def recordFault (fields : List Field) (others : Others) :
    Nat → List String → List (Doc × Doc) → Option Fault
  | _, _, [] => none
  | i, seen, (k, d) :: rest =>
    k.keyFault.or <|
      match findField k.key fields with
      | some f =>
        if k.key ∈ seen then some (.misfit (.duplicateField k.key) (.key i))
        else
          ((f.fault d).map (Fault.inItem i)).or
            (recordFault fields others (i + 1) (k.key :: seen) rest)
      | none => (others.fault d).or (recordFault fields others (i + 1) seen rest)

/-- The first required field that is not among the members. -/
def missingField (members : List (Doc × Doc)) : List Field → Option Fault
  | [] => none
  | f :: rest =>
    if f.presence = .required ∧ ¬ members.any (fun m => m.1.key == f.name) then
      some (.misfit (.missingField f.name) .whole)
    else missingField members rest

/-- The first fault of a record written as a list of its fields, from field `i` on. -/
def positionalFault (total : String) (tail : Option Fault) :
    Nat → List Field → List Doc → Option Fault
  | _, [], [] => tail
  | _, [], _ :: _ => some (.malformed .trailingCharacters)
  | i, f :: fields, d :: items =>
    ((f.fault d).map (Fault.inItem i)).or (positionalFault total tail (i + 1) fields items)
  | i, f :: fields, [] =>
    tail.or <|
      if f.presence = .defaulted then positionalFault total tail (i + 1) fields []
      else some (.misfit (.invalidLength i total) .whole)

/-- The document under a name. -/
def docOf (name : String) : List (Doc × Doc) → Option Doc
  | [] => none
  | (k, d) :: rest => if k.key = name then some d else docOf name rest

/-- The item at the place of a name among the fields. -/
def itemOf (name : String) : List Field → List Doc → Option Doc
  | f :: fields, d :: items => if f.name = name then some d else itemOf name fields items
  | _, _ => none

/-- The members that no field declares, sorted, the later of two with one key. -/
def undeclared (fields : List Field) (members : List (Doc × Doc)) : List (String × Value) :=
  sorted ((Doc.memberValues members).filter fun m => (findField m.1 fields).isNone)

/-- The members of a document that is read as a record. -/
def membersOf (fields : List Field) : Doc → Members
  | .obj members _ => ⟨fun name => docOf name members, undeclared fields members⟩
  | .arr items _ => ⟨fun name => itemOf name fields items, []⟩
  | _ => ⟨fun _ => none, []⟩

/-- `elements` in words. -/
def countOf (total : Nat) : String :=
  toString total ++ (if total = 1 then " element" else " elements")

/-- A record. One that keeps undeclared members is an object; another may also be the list of its
fields in order. -/
def record {α : Type} (title : String) (others : Others) (fields : Fields α) : Reader α where
  fault
    | .obj members tail =>
      (recordFault fields.declared others 0 [] members).or <|
        tail.or (missingField members fields.declared)
    | .arr items tail =>
      match others with
      | .kept => some ((Doc.arr items tail).mismatch title)
      | .dropped =>
        positionalFault (title ++ " with " ++ countOf fields.declared.length) tail 0
          fields.declared items
    | .beyond (.obj _ _) => some (.malformed .nestedTooDeep)
    | .beyond (.arr items tail) =>
      match others with
      | .kept => some ((Doc.arr items tail).mismatch title)
      | .dropped => some (.malformed .nestedTooDeep)
    | d => some (d.mismatch title)
  value d := fields.build (membersOf fields.declared d)

end OneFs.Json
