/-!
# ASCII letters, digits and their case

Case and digit rules that look at ASCII alone, as protocol texts do, and reading whole numbers
written in decimal.

- `lower`: a text with its ASCII capitals made small;
- `natural?`: one or more decimal digits, as a number;
- `unsigned?`, `signed?`: the same with an optional sign and a range.
-/

namespace OneFs.Text

/-- A text with its ASCII capitals made small and all else left alone. -/
def lower (s : String) : String :=
  String.ofList (s.toList.map Char.toLower)

/-- Whether two texts differ at most in the case of ASCII letters. -/
def sameLetters (s t : String) : Bool :=
  lower s == lower t

/-- The number of a hexadecimal digit. -/
def hexValue? (c : Char) : Option Nat :=
  let n := c.toNat
  if 48 ≤ n ∧ n ≤ 57 then some (n - 48)
  else if 97 ≤ n ∧ n ≤ 102 then some (n - 87)
  else if 65 ≤ n ∧ n ≤ 70 then some (n - 55)
  else none

/-- The number that a run of decimal digits spells, starting from `acc`. -/
def digitsValue (acc : Nat) : List Char → Nat
  | [] => acc
  | c :: cs => digitsValue (acc * 10 + (c.toNat - 48)) cs

/-- One or more decimal digits, as a number. -/
def natural? (cs : List Char) : Option Nat :=
  if cs.isEmpty || !cs.all Char.isDigit then none else some (digitsValue 0 cs)

/-- A number below `bound`, with an optional `+` before its digits. -/
def unsigned? (bound : Nat) (s : String) : Option Nat :=
  let digits := match s.toList with
    | '+' :: cs => cs
    | cs => cs
  match natural? digits with
  | some n => if n < bound then some n else none
  | none => none

/-- A number from `-half` up to but not including `half`, with an optional sign. -/
def signed? (half : Nat) (s : String) : Option Int :=
  match s.toList with
  | '-' :: cs =>
    match natural? cs with
    | some n => if n ≤ half then some (-(n : Int)) else none
    | none => none
  | '+' :: cs =>
    match natural? cs with
    | some n => if n < half then some (n : Int) else none
    | none => none
  | cs =>
    match natural? cs with
    | some n => if n < half then some (n : Int) else none
    | none => none

/-- A number that fits 32 bits. -/
def word32? (s : String) : Option Nat :=
  unsigned? 4294967296 s

/-- A number that fits 64 bits. -/
def word64? (s : String) : Option Nat :=
  unsigned? 18446744073709551616 s

/-- A signed number that fits 64 bits. -/
def int64? (s : String) : Option Int64 :=
  (signed? 9223372036854775808 s).map Int64.ofInt

end OneFs.Text
