import OneFs.Text.Utf8
import OneFs.Unicode.Composition
import OneFs.Unicode.Direction
import OneFs.Unicode.Joining
import OneFs.Unicode.Mapping
import OneFs.Url.Punycode

/-!
# Domains

A domain reaches the network in ASCII. Its characters are mapped and composed, so that all spellings
of a domain become one, and each label beyond ASCII is written as `xn--` and its Punycode letters.

- `Label`: a label as it is written in ASCII and as it is meant;
- `label?`: the label that a piece of a mapped domain stands for;
- `domain?`: the ASCII form of a domain, unless there is no such domain.
-/

namespace OneFs.Domain

/-- A label: the ASCII that stands for it and the characters that it means. -/
structure Label where
  ascii : List Char
  meant : List Char
  deriving DecidableEq, Inhabited

/-- ASCII characters that no domain has. -/
def isForbidden (c : Char) : Bool :=
  c.toNat ≤ 0x20 || c.toNat == 0x7F || c == '#' || c == '%' || c == '/' || c == ':' || c == '<' ||
    c == '>' || c == '?' || c == '@' || c == '[' || c == '\\' || c == ']' || c == '^' || c == '|'

/-- Whether a label is ASCII. -/
def isAscii (label : List Char) : Bool :=
  label.all fun c => c.toNat < 128

/-- Whether a label announces Punycode letters. -/
def isEncoded (label : List Char) : Bool :=
  label.take 4 == ['x', 'n', '-', '-']

/-- Whether a label is what mapping and composing it gives. -/
def isSettled (label : List Char) : Bool :=
  (label.all fun c => Unicode.mapping c == .kept) && Unicode.composed label == label

/-- Whether a label starts with a character of its own and has joiners only where they may be. -/
def isWellFormed (label : List Char) : Bool :=
  !((label.head?.map Unicode.isMark).getD false) && Unicode.joinersFit [] label

/-- The label that Punycode letters stand for. It is beyond ASCII, is not itself announced as
encoded, and is written as its own letters. -/
def ofLetters? (letters : List Char) : Option Label :=
  match Punycode.decode? letters with
  | none => none
  | some meant =>
    if !isAscii meant && !isEncoded meant && isSettled meant && isWellFormed meant &&
        Punycode.encode meant == letters then
      some ⟨['x', 'n', '-', '-'] ++ letters, meant⟩
    else none

/-- The label that a piece of a mapped domain stands for. -/
def label? (piece : List Char) : Option Label :=
  if isEncoded piece then ofLetters? (piece.drop 4)
  else if isAscii piece then some ⟨piece, piece⟩
  else if isWellFormed piece then
    some ⟨['x', 'n', '-', '-'] ++ Punycode.encode piece, piece⟩
  else none

/-- Whether labels can stand in one domain: if one has parts that run to the left, each of them runs
one way throughout. -/
def agree (labels : List Label) : Bool :=
  !labels.any (fun l => Unicode.hasLeftward l.meant) ||
    labels.all (fun l => Unicode.runsOneWay l.meant)

/-- The ASCII form of the domain that the bytes spell. -/
def domain? (bytes : List UInt8) : Option (List Char) := do
  let given ← Text.Utf8.decode? bytes
  let cs ← Unicode.mapped? given
  let labels ← (Text.pieces (· == '.') (Unicode.composed cs)).mapM label?
  let ascii := Text.joined '.' (labels.map Label.ascii)
  if !agree labels || ascii.any isForbidden then none else some ascii

end OneFs.Domain
