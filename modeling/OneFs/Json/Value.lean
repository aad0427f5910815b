import OneFs.Decimal.Shortest

/-!
# JSON values

`Value` is a JSON text as held in memory. An object built by `Value.object` has its keys in
increasing order, each once, and a later member replaces an earlier one of the same key.

- `insert`: put a member into a sorted member list;
- `Value.object`: an object from members in any order;
- `Value.text`: the compact text of a value, with members in the order in which they are held.
-/

namespace OneFs.Json

/-- A JSON number: a 64 bit integer of either kind, or a double. -/
inductive Number where
  | int (n : Int)
  | float (x : Float)
  deriving BEq, Inhabited

/-- A JSON value. -/
inductive Value where
  | null
  | bool (b : Bool)
  | num (n : Number)
  | str (s : String)
  | arr (items : List Value)
  | obj (members : List (String × Value))
  deriving BEq, Inhabited

/-- A list of members with distinct keys in increasing order is kept so; a member of the same key
is replaced. -/
def insert (key : String) (v : Value) : List (String × Value) → List (String × Value)
  | [] => [(key, v)]
  | (k, w) :: rest =>
    if key < k then (key, v) :: (k, w) :: rest
    else if key = k then (key, v) :: rest
    else (k, w) :: insert key v rest

/-- Members sorted by key; of two with one key the later stays. -/
def sorted (members : List (String × Value)) : List (String × Value) :=
  members.foldl (fun acc m => insert m.1 m.2 acc) []

/-- The first member with a key. -/
def lookup {α : Type} (key : String) : List (String × α) → Option α
  | [] => none
  | (k, v) :: rest => if k = key then some v else lookup key rest

/-- A member that is written only if it has a value. -/
def optionalMember {α : Type} (name : String) (encode : α → Value) :
    Option α → List (String × Value)
  | some a => [(name, encode a)]
  | none => []

namespace Value

/-- An object from members in any order. -/
def object (members : List (String × Value)) : Value :=
  .obj (sorted members)

/-- The integer `n`. -/
def int (n : Int) : Value :=
  .num (.int n)

/-- A 64 bit integer. -/
def ofInt64 (n : Int64) : Value :=
  int n.toInt

/-- Texts as a list. -/
def ofTexts (ss : List String) : Value :=
  .arr (ss.map .str)

/-- Things as a list. -/
def ofList {α : Type} (encode : α → Value) (as : List α) : Value :=
  .arr (as.map encode)

/-- What has no value of its own. -/
def ofUnit (_ : Unit) : Value :=
  .null

/-- A value, `null` if there is none. -/
def orNull {α : Type} (encode : α → Value) : Option α → Value
  | some a => encode a
  | none => .null

/-- The text held in a string. -/
def asText? : Value → Option String
  | .str s => some s
  | _ => none

/-- The member of an object with the given key. -/
def member? (key : String) : Value → Option Value
  | .obj members => lookup key members
  | _ => none

end Value

/-- Numbers are positional between `0.00001` and `1e+16`. -/
def numberLayout : Decimal.Layout :=
  ⟨-5, 15, 2⟩

/-- The text of a double. -/
def floatText (x : Float) : String :=
  numberLayout.render x

/-- The text of a number. -/
def Number.text : Number → List Char
  | .int n => (toString n).toList
  | .float x => (floatText x).toList

/-- The hexadecimal digit of a number below sixteen. -/
def hexDigit (n : Nat) : Char :=
  Nat.digitChar n

/-- One character inside a JSON string: quotes, backslashes and control characters are escaped. -/
def escaped (c : Char) : List Char :=
  if c == '\x22' then ['\\', '\x22']
  else if c == '\\' then ['\\', '\\']
  else if c == '\x08' then ['\\', 'b']
  else if c == '\x0c' then ['\\', 'f']
  else if c == '\n' then ['\\', 'n']
  else if c == '\r' then ['\\', 'r']
  else if c == '\t' then ['\\', 't']
  else if c.toNat < 0x20 then
    ['\\', 'u', '0', '0', hexDigit (c.toNat / 16), hexDigit (c.toNat % 16)]
  else [c]

/-- A JSON string. -/
def stringText (s : String) : List Char :=
  '\x22' :: s.toList.flatMap escaped ++ ['\x22']

namespace Value

mutual

/-- The compact text of a value. -/
def chars : Value → List Char
  | .null => ['n', 'u', 'l', 'l']
  | .bool true => ['t', 'r', 'u', 'e']
  | .bool false => ['f', 'a', 'l', 's', 'e']
  | .num n => n.text
  | .str s => stringText s
  | .arr items => '[' :: itemChars items ++ [']']
  | .obj members => '\x7b' :: memberChars members ++ ['\x7d']

/-- Items with commas between them. -/
def itemChars : List Value → List Char
  | [] => []
  | [v] => chars v
  | v :: w :: rest => chars v ++ ',' :: itemChars (w :: rest)

/-- Members with commas between them. -/
def memberChars : List (String × Value) → List Char
  | [] => []
  | [(k, v)] => stringText k ++ ':' :: chars v
  | (k, v) :: m :: rest => stringText k ++ ':' :: chars v ++ ',' :: memberChars (m :: rest)

end

/-- The compact text of a value. -/
def text (v : Value) : String :=
  String.ofList v.chars

end Value

end OneFs.Json
