import OneFs.Text.Letter
import OneFs.Text.Split

/-!
# Numeric addresses

- `ipv4?`: an address of one to four numbers, each decimal, octal or hexadecimal, the last of
  which fills the remaining bytes;
- `ipv6?`: an address of eight pieces of 16 bits, a run of zeros of which may be left out;
- `ipv4Text`, `ipv6Text`: their normal forms.
-/

namespace OneFs.Address

/-- Whether a character is a digit to a base of at most sixteen. -/
def isDigit (base : Nat) (c : Char) : Bool :=
  match Text.hexValue? c with
  | some d => d < base
  | none => false

/-- The number that digits spell to a base. -/
def spelled (base : Nat) (cs : List Char) : Nat :=
  cs.foldl (fun n c => n * base + (Text.hexValue? c).getD 0) 0

/-- The number of a text that holds only digits to a base; no digit spells zero. -/
def digits? (base : Nat) (cs : List Char) : Option Nat :=
  if cs.all (isDigit base) then some (spelled base cs) else none

/-- A number in decimal, in octal after `0`, or in hexadecimal after `0x`. -/
def number? (cs : List Char) : Option Nat :=
  match cs with
  | [] => none
  | '0' :: 'x' :: ds => digits? 16 ds
  | '0' :: 'X' :: ds => digits? 16 ds
  | '0' :: d :: ds => digits? 8 (d :: ds)
  | ds => digits? 10 ds

/-- The parts of a dotted text; a last empty part does not count. -/
def parts (cs : List Char) : List (List Char) :=
  let ps := Text.pieces (· == '.') cs
  if ps.getLast? == some [] then ps.dropLast else ps

/-- Whether a domain is meant as a numeric address. -/
def endsInNumber (cs : List Char) : Bool :=
  match (parts cs).getLast? with
  | none => false
  | some [] => false
  | some last => last.all Char.isDigit || (number? last).isSome

/-- The numbers of parts. -/
def numbers? : List (List Char) → Option (List Nat)
  | [] => some []
  | p :: rest => do
    let n ← number? p
    let ns ← numbers? rest
    pure (n :: ns)

/-- The value of numbers that name an address among `room` ones: each takes the first of the bytes
that are left, and the last number fills them all. -/
def ipv4OfNumbers (room : Nat) : List Nat → Option Nat
  | [] => none
  | [n] => if n < room then some n else none
  | n :: rest =>
    if n < 256 then (ipv4OfNumbers (room / 256) rest).map (n * (room / 256) + ·) else none

/-- An address of four bytes. -/
def ipv4? (cs : List Char) : Option Nat := do
  let ns ← numbers? (parts cs)
  if ns.length ≤ 4 then ipv4OfNumbers 4294967296 ns else none

/-- The four bytes with dots between them. -/
def ipv4Text (n : Nat) : String :=
  ".".intercalate
    [toString (n / 16777216 % 256), toString (n / 65536 % 256), toString (n / 256 % 256),
      toString (n % 256)]

/-- One to four hexadecimal digits. -/
def piece? (cs : List Char) : Option Nat :=
  if cs.isEmpty || 4 < cs.length then none else digits? 16 cs

/-- A byte in decimal, without leading zeros. -/
def byte? (cs : List Char) : Option Nat :=
  match cs with
  | '0' :: _ :: _ => none
  | cs =>
    match Text.natural? cs with
    | some n => if n < 256 then some n else none
    | none => none

/-- Four bytes with dots between them, as two pieces. -/
def dottedPieces? (cs : List Char) : Option (List Nat) :=
  match Text.pieces (· == '.') cs with
  | [a, b, c, d] => do
    let a ← byte? a
    let b ← byte? b
    let c ← byte? c
    let d ← byte? d
    pure [a * 256 + b, c * 256 + d]
  | _ => none

/-- The pieces of groups; the last group may be dotted if `dotted`. -/
def groups? (dotted : Bool) : List (List Char) → Option (List Nat)
  | [] => some []
  | [g] =>
    match piece? g with
    | some n => some [n]
    | none => if dotted then dottedPieces? g else none
  | g :: rest => do
    let n ← piece? g
    let ns ← groups? dotted rest
    pure (n :: ns)

/-- The pieces of groups with colons between them; an empty text has none. -/
def pieces? (dotted : Bool) (cs : List Char) : Option (List Nat) :=
  if cs.isEmpty then some [] else groups? dotted (Text.pieces (· == ':') cs)

/-- The text in front of the first two colons and the text after them. -/
def splitGap : List Char → Option (List Char × List Char)
  | ':' :: ':' :: rest => some ([], rest)
  | c :: rest => (splitGap rest).map fun (front, back) => (c :: front, back)
  | [] => none

/-- An address of eight pieces. -/
def ipv6? (cs : List Char) : Option (List Nat) :=
  match splitGap cs with
  | none => do
    let ns ← pieces? true cs
    if ns.length = 8 then pure ns else none
  | some (front, back) => do
    let ms ← pieces? false front
    let ns ← pieces? true back
    if ms.length + ns.length ≤ 7 then
      pure (ms ++ List.replicate (8 - ms.length - ns.length) 0 ++ ns)
    else none

/-- How many zeros a list starts with. -/
def zeros (ns : List Nat) : Nat :=
  (ns.takeWhile (· == 0)).length

/-- The place and the length of the first longest run of zeros in `ns`, which stands at `place`. -/
def longestRun (place : Nat) : List Nat → Nat × Nat
  | [] => (place, 0)
  | n :: rest =>
    let here := zeros (n :: rest)
    let later := longestRun (place + 1) rest
    if later.2 ≤ here then (place, here) else later

/-- Pieces with colons between them. -/
def colons (ns : List Nat) : List Char :=
  Text.joined ':' (ns.map (Nat.toDigits 16))

/-- The eight pieces with colons between them, the longest run of zeros left out. -/
def ipv6Text (ns : List Nat) : String :=
  let (place, length) := longestRun 0 ns
  if length < 2 then String.ofList (colons ns)
  else String.ofList (colons (ns.take place) ++ ':' :: ':' :: colons (ns.drop (place + length)))

end OneFs.Address
