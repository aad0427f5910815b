import OneFs.Json.Fault

/-!
# JSON numerals

How a numeral is cut off the text in front of it and what number it stands for.

- `scanNumeral`: the numeral at the beginning of a text, as `Numeral`;
- `Numeral.number`: an integer if it has neither point nor exponent and fits 64 bits, and a double
  otherwise.

A double is worked out from the first digits that fit 64 bits and a power of ten, with one
multiplication or division of doubles. Later digits only count as places.
-/

namespace OneFs.Json

/-- The parts of a numeral; no part `none` is written. -/
structure Numeral where
  negative : Bool
  whole : List Char
  places : Option (List Char)
  exponent : Option (Bool × List Char)

/-- The greatest significand, the greatest number of 64 bits. -/
def maxSignificand : Nat :=
  18446744073709551615

/-- The number that a digit stands for. -/
def digitValue (c : Char) : Nat :=
  c.toNat - 48

/-- Digits appended to a significand as long as it fits, and how many did not. -/
def takeDigits (significand : Nat) : List Char → Nat × Nat
  | [] => (significand, 0)
  | c :: cs =>
    let next := significand * 10 + digitValue c
    if next ≤ maxSignificand then takeDigits next cs else (significand, cs.length + 1)

/-- The number that digits spell. -/
def spelled (cs : List Char) : Nat :=
  cs.foldl (fun n c => n * 10 + digitValue c) 0

/-- A power of ten as a double. -/
def powerOfTen (n : Nat) : Float :=
  Float.ofScientific 1 false n

/-- `x * 10 ^ e` in steps that stay within the powers of ten that are doubles; `none` beyond all
doubles. Two steps down exhaust every significand, so `steps` never ends the search. -/
def scaleFloat (steps : Nat) (x : Float) (e : Int) : Option Float :=
  if 0 ≤ e ∧ e ≤ 308 then
    let y := x * powerOfTen e.toNat
    if y.isInf then none else some y
  else if -308 ≤ e ∧ e < 0 then some (x / powerOfTen (-e).toNat)
  else if x == 0.0 then some x
  else if 0 ≤ e then none
  else
    match steps with
    | 0 => some 0.0
    | steps + 1 => scaleFloat steps (x / powerOfTen 308) (e + 308)

/-- A double from sign, significand and power of ten. -/
def floatOfParts (negative : Bool) (significand : Nat) (e : Int) : Except Fault Number :=
  match scaleFloat 4 significand.toUInt64.toFloat e with
  | none => .error (.malformed .numberOutOfRange)
  | some x => .ok (.float (if negative then -x else x))

namespace Numeral

/-- The power of ten that the exponent asks for. -/
def power (n : Numeral) : Int :=
  match n.exponent with
  | none => 0
  | some (true, ds) => -(spelled ds : Int)
  | some (false, ds) => spelled ds

/-- The number that a numeral stands for. -/
def number (n : Numeral) : Except Fault Number :=
  let (significand, dropped) := takeDigits 0 n.whole
  match n.places, n.exponent with
  | none, none =>
    if dropped != 0 then floatOfParts n.negative significand dropped
    else if !n.negative then .ok (.int significand)
    else if significand == 0 || 9223372036854775808 < significand then
      floatOfParts true significand 0
    else .ok (.int (-(significand : Int)))
  | places, _ =>
    let ds := places.getD []
    let (significand, unread) := takeDigits significand ds
    floatOfParts n.negative significand
      ((dropped : Int) - ((ds.length - unread : Nat) : Int) + n.power)

end Numeral

/-- A numeral cut off a text: its number or the fault in reading it, the fault in passing over it,
and the text after it. -/
structure NumeralScan where
  read : Except Fault Number
  skip : Option Fault
  rest : List Char

/-- A numeral that breaks off before `cs`. At the end of the text a reader waits for more, and one
who passes over it does not. -/
def NumeralScan.cut (cs : List Char) : NumeralScan :=
  let wrong : Fault := .malformed .invalidNumber
  ⟨.error (if cs.isEmpty then .unfinished .value else wrong), some wrong, []⟩

/-- The exponent of a numeral, after its `e`. -/
def scanExponent (negative : Bool) (whole : List Char) (places : Option (List Char))
    (cs : List Char) : NumeralScan :=
  let (down, cs) := match cs with
    | '+' :: cs => (false, cs)
    | '-' :: cs => (true, cs)
    | cs => (false, cs)
  let digits := cs.takeWhile Char.isDigit
  if digits.isEmpty then NumeralScan.cut cs
  else ⟨(Numeral.mk negative whole places (some (down, digits))).number, none,
    cs.dropWhile Char.isDigit⟩

/-- What may follow the digits of a numeral. -/
def scanAfterDigits (negative : Bool) (whole : List Char) (places : Option (List Char))
    (cs : List Char) : NumeralScan :=
  match cs with
  | 'e' :: cs => scanExponent negative whole places cs
  | 'E' :: cs => scanExponent negative whole places cs
  | cs => ⟨(Numeral.mk negative whole places none).number, none, cs⟩

/-- What may follow the whole part of a numeral. -/
def scanAfterWhole (negative : Bool) (whole : List Char) (cs : List Char) : NumeralScan :=
  match cs with
  | '.' :: cs =>
    let digits := cs.takeWhile Char.isDigit
    if digits.isEmpty then NumeralScan.cut cs
    else scanAfterDigits negative whole (some digits) (cs.dropWhile Char.isDigit)
  | cs => scanAfterDigits negative whole none cs

/-- A numeral after its sign: a lone zero or digits that do not start with one. -/
def scanNumeral (negative : Bool) (cs : List Char) : NumeralScan :=
  match cs with
  | '0' :: cs =>
    match cs with
    | [] => scanAfterWhole negative ['0'] []
    | d :: rest =>
      if d.isDigit then NumeralScan.cut (d :: rest) else scanAfterWhole negative ['0'] (d :: rest)
  | cs =>
    let digits := cs.takeWhile Char.isDigit
    if digits.isEmpty then NumeralScan.cut cs
    else scanAfterWhole negative digits (cs.dropWhile Char.isDigit)

end OneFs.Json
