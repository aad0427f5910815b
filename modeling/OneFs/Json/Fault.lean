import OneFs.Json.Value
import OneFs.Text.Quoted

/-!
# Why a JSON text is refused

A text is refused because it ends too early, because it is not JSON, or because it is JSON of the
wrong shape. Each way is a cause of its own; the wording is in `Fault.message`. A wrong shape also
has a `Site`, which leads to it from the outermost value.
-/

namespace OneFs.Json

/-- What was being read when the text ended. -/
inductive Unfinished where
  | value
  | list
  | object
  | string
  deriving DecidableEq, Inhabited

/-- Why a text is not JSON. -/
inductive Malformed where
  | expectedColon
  | expectedListCommaOrEnd
  | expectedObjectCommaOrEnd
  | expectedIdentifier
  | expectedValue
  | invalidEscape
  | invalidNumber
  | numberOutOfRange
  | controlCharacter
  | keyMustBeString
  | loneSurrogate
  | unexpectedEndOfHexEscape
  | trailingComma
  | trailingCharacters
  | nestedTooDeep
  deriving DecidableEq, Inhabited

/-- What stands in a text where something else is expected. -/
inductive Found where
  | null
  | bool (b : Bool)
  | int (n : Int)
  | float (x : Float)
  | str (s : String)
  | sequence
  | map
  deriving BEq, Inhabited

/-- Why JSON has the wrong shape. -/
inductive Misfit where
  | invalidType (found : Found) (expected : String)
  | invalidValue (found : Found) (expected : String)
  | invalidLength (length : Nat) (expected : String)
  | missingField (name : String)
  | duplicateField (name : String)
  | unacceptable (reason : String)
  deriving BEq, Inhabited

/-- Where a value shows that it has the wrong shape, as seen from the value. -/
inductive Site where
  /-- At its beginning: behind the token there, or in front of the bracket. -/
  | token
  /-- At its end. -/
  | whole
  /-- Behind it, where the container around it goes on. -/
  | behind
  /-- At the key of its first member. -/
  | tag
  /-- Behind the key of its member `i`. -/
  | key (i : Nat)
  /-- Somewhere in its item `i`, or in the value of its member `i`. -/
  | within (i : Nat) (site : Site)
  deriving DecidableEq, Inhabited

/-- Why a text is refused. -/
inductive Fault where
  | unfinished (what : Unfinished)
  | malformed (why : Malformed)
  | misfit (why : Misfit) (site : Site)
  deriving BEq, Inhabited

/-- The three kinds of refusal. -/
inductive Category where
  | eof
  | syntactic
  | data
  deriving DecidableEq, Inhabited

namespace Fault

/-- The kind of a refusal. -/
def category : Fault → Category
  | .unfinished _ => .eof
  | .malformed _ => .syntactic
  | .misfit _ _ => .data

/-- The fault of an item, as seen from the container. -/
def inItem (i : Nat) : Fault → Fault
  | .misfit why site => .misfit why (.within i site)
  | f => f

end Fault

/-- The words for what was being read. -/
def Unfinished.message : Unfinished → String
  | .value => "EOF while parsing a value"
  | .list => "EOF while parsing a list"
  | .object => "EOF while parsing an object"
  | .string => "EOF while parsing a string"

/-- The words for a break of the grammar. -/
def Malformed.message : Malformed → String
  | .expectedColon => "expected `:`"
  | .expectedListCommaOrEnd => "expected `,` or `]`"
  | .expectedObjectCommaOrEnd => "expected `,` or `\x7d`"
  | .expectedIdentifier => "expected ident"
  | .expectedValue => "expected value"
  | .invalidEscape => "invalid escape"
  | .invalidNumber => "invalid number"
  | .numberOutOfRange => "number out of range"
  | .controlCharacter =>
    "control character (\\u0000-\\u001F) found while parsing a string"
  | .keyMustBeString => "key must be a string"
  | .loneSurrogate => "lone leading surrogate in hex escape"
  | .unexpectedEndOfHexEscape => "unexpected end of hex escape"
  | .trailingComma => "trailing comma"
  | .trailingCharacters => "trailing characters"
  | .nestedTooDeep => "recursion limit exceeded"

/-- The words for what stands in the text. -/
def Found.message : Found → String
  | .null => "null"
  | .bool true => "boolean `true`"
  | .bool false => "boolean `false`"
  | .int n => "integer `" ++ toString n ++ "`"
  | .float x => "floating point `" ++ floatText x ++ "`"
  | .str s => "string " ++ Text.quoted s
  | .sequence => "sequence"
  | .map => "map"

/-- The words for a wrong shape. -/
def Misfit.message : Misfit → String
  | .invalidType found expected => "invalid type: " ++ found.message ++ ", expected " ++ expected
  | .invalidValue found expected => "invalid value: " ++ found.message ++ ", expected " ++ expected
  | .invalidLength n expected => "invalid length " ++ toString n ++ ", expected " ++ expected
  | .missingField name => "missing field `" ++ name ++ "`"
  | .duplicateField name => "duplicate field `" ++ name ++ "`"
  | .unacceptable reason => reason

/-- The words for a refusal. -/
def Fault.message : Fault → String
  | .unfinished what => what.message
  | .malformed why => why.message
  | .misfit why _ => why.message

end OneFs.Json
