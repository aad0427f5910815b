import OneFs.Text.Split
import OneFs.Url.Percent

/-!
# Form encoding

A list of pairs as a query: `key=value`, joined by `&`, with spaces written as `+` and everything
but letters, digits and `*-._` as percent triples.

- `encode`: pairs as a query;
- `decode`: the pairs of a query.
-/

namespace OneFs.Form

/-- The characters that stand for themselves. -/
def isPlain (c : Char) : Bool :=
  c.isAlphanum || c == '*' || c == '-' || c == '.' || c == '_'

/-- One character of a key or value. -/
def encodeChar (c : Char) : List Char :=
  if isPlain c then [c] else if c == ' ' then ['+'] else Percent.triples c

/-- A key or a value. -/
def component (s : String) : List Char :=
  s.toList.flatMap encodeChar

/-- A pair. -/
def pair (p : String × String) : List Char :=
  component p.1 ++ '=' :: component p.2

/-- Pairs with `&` between them. -/
def encode : List (String × String) → List Char
  | [] => []
  | [p] => pair p
  | p :: q :: rest => pair p ++ '&' :: encode (q :: rest)

/-- The text that an encoded key or value stands for. -/
def componentText (cs : List Char) : String :=
  Text.Utf8.text (Percent.decode (cs.map fun c => if c == '+' then ' ' else c))

/-- The pair of a piece; a piece without `=` is a key without value. -/
def pairOf (cs : List Char) : String × String :=
  (componentText (cs.takeWhile (· != '=')),
    componentText ((cs.dropWhile (· != '=')).drop 1))

/-- The pairs of a query; empty pieces are none. -/
def decode (cs : List Char) : List (String × String) :=
  ((Text.pieces (· == '&') cs).filter fun piece => !piece.isEmpty).map pairOf

end OneFs.Form
