import OneFs.Json.Fault

/-!
# JSON texts as read

A `Doc` is the tree of a JSON text with everything that a reader may still object to left in
place: members in their order with their duplicates, numbers beyond every range, unpaired
surrogates, nesting beyond the limit, and the point at which the text stops being JSON.
Whoever walks the tree in order and stops at the first fault meets the faults in the order of the
text.

- `Doc.valueFault`, `Doc.value`: reading a document as a value;
- `Doc.skipFault`: passing over a document, which objects to less;
- `Value.doc`: a value as a document, in which there is nothing to object to.
-/

namespace OneFs.Json

/-- A JSON text as read.

Numbers and strings carry what reading them gives and what passing over them objects to.
`beyond` marks a container nested deeper than the limit, `absent` a text that ended before the
value, `missing` a container that breaks off before it, and `broken` something that no value starts
with. The fault of a container is what follows its last item in place of its end; `none` if it is
closed. -/
inductive Doc where
  | null
  | bool (b : Bool)
  | num (read : Except Fault Number) (skip : Option Fault)
  | str (read : Except Fault String) (skip : Option Fault)
  | arr (items : List Doc) (tail : Option Fault)
  | obj (members : List (Doc × Doc)) (tail : Option Fault)
  | beyond (inner : Doc)
  | absent
  | missing (why : Fault)
  | broken (why : Fault)
  deriving Inhabited

/-- An optional fault out of a result. -/
def faultOf {α : Type} : Except Fault α → Option Fault
  | .error f => some f
  | .ok _ => none

namespace Doc

/-- What stands at the beginning of a document, looking no further than its first token. -/
def found : Doc → Except Fault Found
  | .null => .ok .null
  | .bool b => .ok (.bool b)
  | .num (.ok (.int n)) _ => .ok (.int n)
  | .num (.ok (.float x)) _ => .ok (.float x)
  | .num (.error f) _ => .error f
  | .str (.ok s) _ => .ok (.str s)
  | .str (.error f) _ => .error f
  | .arr _ _ => .ok .sequence
  | .obj _ _ => .ok .map
  | .beyond d => d.found
  | .absent => .error (.unfinished .value)
  | .missing f => .error f
  | .broken f => .error f

/-- The complaint that a document does not begin as `expected`. -/
def mismatch (expected : String) (d : Doc) : Fault :=
  match d.found with
  | .ok found => .misfit (.invalidType found expected) .token
  | .error f => f

/-- What is wrong with a document that stands as the key of a member. -/
def keyFault : Doc → Option Fault
  | .str (.ok _) _ => none
  | .str (.error f) _ => some f
  | .absent => some (.unfinished .value)
  | .missing f => some f
  | _ => some (.malformed .keyMustBeString)

/-- The key that a document stands for. -/
def key : Doc → String
  | .str (.ok s) _ => s
  | _ => ""

mutual

/-- The first fault met when the whole document is read as a value. -/
def valueFault : Doc → Option Fault
  | .null => none
  | .bool _ => none
  | .num read _ => faultOf read
  | .str read _ => faultOf read
  | .arr items tail => (itemsFault items).or tail
  | .obj members tail => (membersFault members).or tail
  | .beyond _ => some (.malformed .nestedTooDeep)
  | .absent => some (.unfinished .value)
  | .missing f => some f
  | .broken f => some f

/-- The first fault among items. -/
def itemsFault : List Doc → Option Fault
  | [] => none
  | d :: rest => d.valueFault.or (itemsFault rest)

/-- The first fault among members. -/
def membersFault : List (Doc × Doc) → Option Fault
  | [] => none
  | (k, d) :: rest => k.keyFault.or (d.valueFault.or (membersFault rest))

end

mutual

/-- The value of a document without faults. -/
def value : Doc → Value
  | .null => .null
  | .bool b => .bool b
  | .num (.ok n) _ => .num n
  | .str (.ok s) _ => .str s
  | .arr items _ => .arr (itemValues items)
  | .obj members _ => Value.object (memberValues members)
  | _ => .null

/-- The values of items. -/
def itemValues : List Doc → List Value
  | [] => []
  | d :: rest => d.value :: itemValues rest

/-- The values of members, in the order of the text. -/
def memberValues : List (Doc × Doc) → List (String × Value)
  | [] => []
  | (k, d) :: rest => (k.key, d.value) :: memberValues rest

end

/-- What is wrong with a key that is passed over. -/
def skipKeyFault : Doc → Option Fault
  | .str _ skip => skip
  | .absent => some (.unfinished .object)
  | _ => some (.malformed .keyMustBeString)

mutual

/-- The first fault met when the document is passed over: numbers may have any size, strings any
escapes, and containers any depth. -/
def skipFault : Doc → Option Fault
  | .null => none
  | .bool _ => none
  | .num _ skip => skip
  | .str _ skip => skip
  | .arr items tail => (itemsSkipFault items).or tail
  | .obj members tail => (membersSkipFault members).or tail
  | .beyond d => d.skipFault
  | .absent => some (.unfinished .value)
  | .missing f => some f
  | .broken f => some f

/-- The first fault among items that are passed over. -/
def itemsSkipFault : List Doc → Option Fault
  | [] => none
  | d :: rest => d.skipFault.or (itemsSkipFault rest)

/-- The first fault among members that are passed over. -/
def membersSkipFault : List (Doc × Doc) → Option Fault
  | [] => none
  | (k, d) :: rest => k.skipKeyFault.or (d.skipFault.or (membersSkipFault rest))

end

/-- A key as a document. -/
def ofKey (k : String) : Doc :=
  .str (.ok k) none

end Doc

namespace Value

mutual

/-- A value as a document. -/
def doc : Value → Doc
  | .null => .null
  | .bool b => .bool b
  | .num n => .num (.ok n) none
  | .str s => .str (.ok s) none
  | .arr items => .arr (itemDocs items) none
  | .obj members => .obj (memberDocs members) none

/-- Items as documents. -/
def itemDocs : List Value → List Doc
  | [] => []
  | v :: rest => v.doc :: itemDocs rest

/-- Members as documents. -/
def memberDocs : List (String × Value) → List (Doc × Doc)
  | [] => []
  | (k, v) :: rest => (Doc.ofKey k, v.doc) :: memberDocs rest

end

end Value

end OneFs.Json
