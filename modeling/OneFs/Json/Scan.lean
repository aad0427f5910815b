import OneFs.Json.Doc
import OneFs.Json.Numeral
import OneFs.Text.Letter
import OneFs.Text.Utf8

/-!
# From text to document

`scan` cuts a whole text into its document and what is wrong after it. It never fails: what is
wrong with the text stays in the document, at the place where a reader meets it.

- `scanString`: a string after its opening quote;
- `scanValue`: a value at the beginning of a text, nested `level` containers deep;
- `scan`: a text.
-/

namespace OneFs.Json

/-- The blanks between tokens. -/
def isSpace (c : Char) : Bool :=
  c == ' ' || c == '\n' || c == '\t' || c == '\r'

/-- A text without its leading blanks. -/
def skipSpace (cs : List Char) : List Char :=
  cs.dropWhile isSpace

/-- A character of a string, or a 16 bit unit written as an escape. -/
inductive Piece where
  | char (c : Char)
  | unit (n : Nat)

/-- The number of four hexadecimal digits. -/
def hexUnit? (a b c d : Char) : Option Nat := do
  let a ← Text.hexValue? a
  let b ← Text.hexValue? b
  let c ← Text.hexValue? c
  let d ← Text.hexValue? d
  pure (((a * 16 + b) * 16 + c) * 16 + d)

/-- The character of a one letter escape. -/
def escape? (c : Char) : Option Char :=
  if c == '\x22' then some '\x22'
  else if c == '\\' then some '\\'
  else if c == '/' then some '/'
  else if c == 'b' then some '\x08'
  else if c == 'f' then some '\x0c'
  else if c == 'n' then some '\n'
  else if c == 'r' then some '\r'
  else if c == 't' then some '\t'
  else none

/-- The fault of a `\u` escape in front of `cs`, which has no four digits: fewer than four bytes
are an end, others are no digits. -/
def unitFault (cs : List Char) : Fault :=
  if Text.Utf8.width cs < 4 then .unfinished .string else .malformed .invalidEscape

/-- The pieces of a string up to its closing quote, and the text after it or what is wrong. -/
def scanPieces : List Char → List Piece × Except Fault (List Char)
  | [] => ([], .error (.unfinished .string))
  | '\x22' :: rest => ([], .ok rest)
  | '\\' :: rest =>
    match rest with
    | [] => ([], .error (.unfinished .string))
    | 'u' :: digits =>
      match digits with
      | a :: b :: c :: d :: rest =>
        match hexUnit? a b c d with
        | some n =>
          let (pieces, close) := scanPieces rest
          (.unit n :: pieces, close)
        | none => ([], .error (unitFault digits))
      | _ => ([], .error (unitFault digits))
    | e :: rest =>
      match escape? e with
      | some c =>
        let (pieces, close) := scanPieces rest
        (.char c :: pieces, close)
      | none => ([], .error (.malformed .invalidEscape))
  | c :: rest =>
    if c.toNat < 0x20 then ([], .error (.malformed .controlCharacter))
    else
      let (pieces, close) := scanPieces rest
      (.char c :: pieces, close)

/-- The text of pieces; units must be characters or pairs of surrogates. The text may break off
after a first surrogate if the string does. -/
def joinPieces (closed : Bool) : List Piece → Except Fault (List Char)
  | [] => .ok []
  | .char c :: rest => (joinPieces closed rest).map (c :: ·)
  | .unit n :: rest =>
    if 0xDC00 ≤ n ∧ n ≤ 0xDFFF then .error (.malformed .loneSurrogate)
    else if n < 0xD800 ∨ 0xDFFF < n then (joinPieces closed rest).map (Char.ofNat n :: ·)
    else
      match rest with
      | .unit m :: rest =>
        if 0xDC00 ≤ m ∧ m ≤ 0xDFFF then
          (joinPieces closed rest).map
            (Char.ofNat ((n - 0xD800) * 0x400 + (m - 0xDC00) + 0x10000) :: ·)
        else .error (.malformed .loneSurrogate)
      | [] => if closed then .error (.malformed .unexpectedEndOfHexEscape) else .ok []
      | _ => .error (.malformed .unexpectedEndOfHexEscape)

/-- A string after its opening quote, and the text after it. -/
def scanString (cs : List Char) : Doc × List Char :=
  match scanPieces cs with
  | (pieces, .ok rest) => (.str ((joinPieces true pieces).map String.ofList) none, rest)
  | (pieces, .error f) =>
    match joinPieces false pieces with
    | .error g => (.str (.error g) (some f), [])
    | .ok _ => (.str (.error f) (some f), [])

/-- The rest of a literal of which the first letter is read. -/
def scanWord (word : List Char) (whole : Doc) (cs : List Char) : Doc × List Char :=
  match word, cs with
  | [], cs => (whole, cs)
  | _ :: _, [] => (.broken (.unfinished .value), [])
  | w :: word, c :: cs =>
    if w = c then scanWord word whole cs else (.broken (.malformed .expectedIdentifier), [])

/-- A numeral as a document, and the text after it. -/
def scanNumber (negative : Bool) (cs : List Char) : Doc × List Char :=
  let s := scanNumeral negative cs
  (.num s.read s.skip, s.rest)

/-- The greatest number of containers inside one another. -/
def nestingLimit : Nat :=
  127

/-- A container that has `level` containers around it, itself included. -/
def bounded (level : Nat) (d : Doc) : Doc :=
  if level ≤ nestingLimit then d else .beyond d

mutual

/-- A value at the beginning of a text, inside `level` containers, and the text after it. The fuel
bounds the number of tokens. -/
def scanValue (fuel level : Nat) (cs : List Char) : Doc × List Char :=
  match fuel with
  | 0 => (.absent, [])
  | fuel + 1 =>
    match skipSpace cs with
    | [] => (.absent, [])
    | c :: cs =>
      if c == 'n' then scanWord ['u', 'l', 'l'] .null cs
      else if c == 't' then scanWord ['r', 'u', 'e'] (.bool true) cs
      else if c == 'f' then scanWord ['a', 'l', 's', 'e'] (.bool false) cs
      else if c == '-' then scanNumber true cs
      else if c.isDigit then scanNumber false (c :: cs)
      else if c == '\x22' then scanString cs
      else if c == '[' then
        match skipSpace cs with
        | ']' :: cs => (bounded (level + 1) (.arr [] none), cs)
        | [] => (bounded (level + 1) (.arr [] (some (.unfinished .list))), [])
        | cs =>
          let (items, tail, rest) := scanItems fuel (level + 1) cs
          (bounded (level + 1) (.arr items tail), rest)
      else if c == '\x7b' then
        match skipSpace cs with
        | '\x7d' :: cs => (bounded (level + 1) (.obj [] none), cs)
        | [] => (bounded (level + 1) (.obj [] (some (.unfinished .object))), [])
        | cs =>
          let (members, tail, rest) := scanMembers fuel (level + 1) cs
          (bounded (level + 1) (.obj members tail), rest)
      else (.broken (.malformed .expectedValue), [])

/-- The items of a list from one that is due up to the closing bracket, what stands in place of
the bracket, and the text after it. -/
def scanItems (fuel level : Nat) (cs : List Char) : List Doc × Option Fault × List Char :=
  match fuel with
  | 0 => ([], none, [])
  | fuel + 1 =>
    let (item, rest) := scanValue fuel level cs
    match skipSpace rest with
    | [] => ([item], some (.unfinished .list), [])
    | ']' :: rest => ([item], none, rest)
    | ',' :: rest =>
      match skipSpace rest with
      | ']' :: _ => ([item, .missing (.malformed .trailingComma)], none, [])
      | rest =>
        let (items, tail, rest) := scanItems fuel level rest
        (item :: items, tail, rest)
    | _ => ([item], some (.malformed .expectedListCommaOrEnd), [])

/-- The members of an object from one that is due up to the closing brace, what stands in place of
the brace, and the text after it. -/
def scanMembers (fuel level : Nat) (cs : List Char) :
    List (Doc × Doc) × Option Fault × List Char :=
  match fuel with
  | 0 => ([], none, [])
  | fuel + 1 =>
    match cs with
    | '\x22' :: cs =>
      let (key, rest) := scanString cs
      match skipSpace rest with
      | ':' :: rest =>
        let (item, rest) := scanValue fuel level rest
        match skipSpace rest with
        | [] => ([(key, item)], some (.unfinished .object), [])
        | '\x7d' :: rest => ([(key, item)], none, rest)
        | ',' :: rest =>
          match skipSpace rest with
          | '\x7d' :: _ =>
            ([(key, item), (.missing (.malformed .trailingComma), .absent)], none, [])
          | rest =>
            let (members, tail, rest) := scanMembers fuel level rest
            ((key, item) :: members, tail, rest)
        | _ => ([(key, item)], some (.malformed .expectedObjectCommaOrEnd), [])
      | [] => ([(key, .missing (.unfinished .object))], none, [])
      | _ => ([(key, .missing (.malformed .expectedColon))], none, [])
    | cs => ([((scanValue fuel level cs).1, .absent)], none, [])

end

/-- The document of a text, and what is wrong after it. -/
def scan (text : String) : Doc × Option Fault :=
  let cs := text.toList
  let (d, rest) := scanValue (2 * cs.length + 2) 0 cs
  (d, if (skipSpace rest).isEmpty then none else some (.malformed .trailingCharacters))

end OneFs.Json
