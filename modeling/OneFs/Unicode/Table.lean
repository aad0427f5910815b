import OneFs.Text.Letter
import OneFs.Text.Split

/-!
# Tables of characters

A table is written as lines of entries with blanks between them. An entry is a row of code points in
hexadecimal digits, with a mark between each two.

- `rows`: the rows of a table;
- `ranges`, `contains`: a table of ranges, and whether it has a character.
-/

namespace OneFs.Unicode.Table

/-- The number that hexadecimal digits spell. -/
def hexNumber (digits : List Char) : Nat :=
  digits.foldl (fun n c => n * 16 + (Text.hexValue? c).getD 0) 0

/-- The entries of a line. -/
def entries (line : String) : List (List Char) :=
  Text.pieces (· == ' ') line.toList

/-- The code points of an entry. -/
def row (entry : List Char) : List Nat :=
  (Text.pieces (fun c => (Text.hexValue? c).isNone) entry).map hexNumber

/-- The rows of a table. -/
def rows (lines : List String) : List (List Nat) :=
  (lines.flatMap entries).map row

/-- The code points from `first` to `last`. -/
structure Range where
  first : Nat
  last : Nat
  deriving DecidableEq, Inhabited

/-- Whether a range has a code point. -/
def Range.has (r : Range) (n : Nat) : Bool :=
  r.first ≤ n && n ≤ r.last

/-- The ranges of a table with entries `first-last`, or `first` alone. -/
def ranges (lines : List String) : List Range :=
  (rows lines).filterMap fun
    | [n] => some ⟨n, n⟩
    | [first, last] => some ⟨first, last⟩
    | _ => none

/-- Whether one of the ranges has a character. -/
def contains (rs : List Range) (c : Char) : Bool :=
  rs.any fun r => r.has c.toNat

end OneFs.Unicode.Table
