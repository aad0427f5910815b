import OneFs.Text.Letter
import OneFs.Text.Utf8

/-!
# Percent encoding

A character that may not stand in some part of a URL is written as one `%XX` triple for each of
its UTF-8 bytes. The parts differ in the characters that they exclude.

- `isControl`, `inFragment`, `inQuery`, `inSpecialQuery`, `inPath`, `inUserInfo`: what is
  excluded, part by part;
- `encode`: a text with the excluded characters written as triples;
- `decode`: the bytes of a text with its triples undone.
-/

namespace OneFs.Percent

/-- Control characters and everything beyond ASCII are excluded everywhere. -/
def isControl (c : Char) : Bool :=
  c.toNat < 0x20 || 0x7F ≤ c.toNat

/-- What a query excludes. -/
def inQuery (c : Char) : Bool :=
  isControl c || c == ' ' || c == '\x22' || c == '#' || c == '<' || c == '>'

/-- What the query of a special scheme excludes. -/
def inSpecialQuery (c : Char) : Bool :=
  inQuery c || c == '\x27'

/-- What a fragment excludes. -/
def inFragment (c : Char) : Bool :=
  isControl c || c == ' ' || c == '\x22' || c == '<' || c == '>' || c == '\x60'

/-- What a path excludes. -/
def inPath (c : Char) : Bool :=
  inFragment c || c == '#' || c == '?' || c == '\x7b' || c == '\x7d'

/-- What a user name and a password exclude. -/
def inUserInfo (c : Char) : Bool :=
  inPath c || c == '/' || c == ':' || c == ';' || c == '=' || c == '@' || c == '[' || c == '\\' ||
    c == ']' || c == '^' || c == '|'

/-- The capital hexadecimal digit of a number below sixteen. -/
def hexDigit (n : Nat) : Char :=
  (Nat.digitChar n).toUpper

/-- The triple of a byte. -/
def triple (b : UInt8) : List Char :=
  ['%', hexDigit (b.toNat / 16), hexDigit (b.toNat % 16)]

/-- The triples of a character. -/
def triples (c : Char) : List Char :=
  (Text.Utf8.bytesOfChar c).flatMap triple

/-- Characters with the excluded ones written as triples. -/
def encode (excluded : Char → Bool) (cs : List Char) : List Char :=
  cs.flatMap fun c => if excluded c then triples c else [c]

/-- The byte that the digits of a triple stand for. -/
def byte? (a b : Char) : Option UInt8 := do
  let a ← Text.hexValue? a
  let b ← Text.hexValue? b
  pure (a * 16 + b).toUInt8

/-- The bytes of a text with its triples undone; a `%` without two digits stands for itself. -/
def decode : List Char → List UInt8
  | '%' :: a :: b :: rest =>
    match byte? a b with
    | some byte => byte :: decode rest
    | none => Text.Utf8.bytesOfChar '%' ++ decode (a :: b :: rest)
  | c :: rest => Text.Utf8.bytesOfChar c ++ decode rest
  | [] => []

/-- The text of a text with its triples undone, if that is one. -/
def decodeText? (cs : List Char) : Option String :=
  (Text.Utf8.decode? (decode cs)).map String.ofList

end OneFs.Percent
