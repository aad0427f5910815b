/-!
# Shortest decimal texts of floating point numbers

A finite double stands for every real that rounds to it. Its shortest text has the fewest digits
that still lie in that interval and, among those, comes nearest to the number.

- `Binary`: a positive double as `mantissa * 2 ^ power`;
- `Binary.shortest`: the digits and the power of ten of its shortest text;
- `Layout`: the decisions of a notation, kept in one value;
- `render`: the text of any double under a layout.
-/

namespace OneFs.Decimal

/-- A positive number `mantissa * 2 ^ power`, and whether the next double below is nearer than the
next one above. -/
structure Binary where
  mantissa : Nat
  power : Int
  narrowBelow : Bool

/-- The bit in front of the stored bits of a mantissa. -/
def hiddenBit : Nat :=
  4503599627370496

/-- The parts of the bits of a positive double. -/
def Binary.ofBits (bits : Nat) : Binary :=
  let field : Nat := bits / hiddenBit % 2048
  let fraction : Nat := bits % hiddenBit
  if field = 0 then ⟨fraction, -1074, false⟩
  else ⟨hiddenBit + fraction, (field : Int) - 1075, fraction = 0 && field > 1⟩

/-- A fraction of natural numbers. -/
structure Ratio where
  num : Nat
  den : Nat

/-- `n * 2 ^ p` as a fraction. -/
def Ratio.scaled (n : Nat) (p : Int) : Ratio :=
  if 0 ≤ p then ⟨n * Nat.pow 2 p.toNat, 1⟩ else ⟨n, Nat.pow 2 (-p).toNat⟩

/-- A fraction divided by `10 ^ k`. -/
def Ratio.downBy (r : Ratio) (k : Int) : Ratio :=
  if 0 ≤ k then ⟨r.num, r.den * Nat.pow 10 k.toNat⟩ else ⟨r.num * Nat.pow 10 (-k).toNat, r.den⟩

/-- The value in quarters of its last binary place. -/
def Binary.quarters (b : Binary) (offset : Int) : Ratio :=
  Ratio.scaled ((4 * b.mantissa : Int) + offset).toNat (b.power - 2)

/-- Whether the decimal `digits * 10 ^ k` reads back as the number: it lies between the midpoints
to the two neighbours, which count when the mantissa is even. -/
def Binary.reads (b : Binary) (digits : Nat) (k : Int) : Bool :=
  let low := (b.quarters (if b.narrowBelow then -1 else -2)).downBy k
  let high := (b.quarters 2).downBy k
  if b.mantissa % 2 = 0 then
    low.num ≤ digits * low.den && digits * high.den ≤ high.num
  else
    low.num < digits * low.den && digits * high.den < high.num

/-- On the grid of multiples of `10 ^ k`, the neighbour of the number that reads back: the nearer
one if both do, the even one if they are equally near. -/
def Binary.onGrid (b : Binary) (k : Int) : Option Nat :=
  let v := (b.quarters 0).downBy k
  let below := v.num / v.den
  let twice := 2 * (v.num % v.den)
  match b.reads below k && below != 0, b.reads (below + 1) k with
  | false, false => none
  | true, false => some below
  | false, true => some (below + 1)
  | true, true =>
    if twice < v.den then some below
    else if twice > v.den then some (below + 1)
    else some (if below % 2 = 0 then below else below + 1)

/-- The first grid with a number that reads back, from `10 ^ k` downwards. -/
def Binary.search (b : Binary) : Nat → Int → Nat × Int
  | 0, k => (0, k)
  | grids + 1, k =>
    match b.onGrid k with
    | some digits => (digits, k)
    | none => b.search grids (k - 1)

/-- The number without its trailing decimal zeros, which move into the exponent. -/
def dropZeros : Nat → Nat → Int → Nat × Int
  | 0, digits, k => (digits, k)
  | fuel + 1, digits, k =>
    if digits % 10 = 0 && digits != 0 then dropZeros fuel (digits / 10) (k + 1) else (digits, k)

/-- An exponent of ten above every digit of the number. -/
def Binary.above (b : Binary) : Int :=
  let bits : Int := (Nat.log2 b.mantissa : Int) + b.power
  bits * 30103 / 100000 + 1

/-- The digits and the power of ten of the shortest decimal that reads back. -/
def Binary.shortest (b : Binary) : Nat × Int :=
  let (digits, k) := b.search 24 b.above
  dropZeros 24 digits k

/-- The decisions of a notation: the decimal exponents of the first digit that are written
positionally, and the fewest digits of a written exponent. -/
structure Layout where
  lowest : Int
  highest : Int
  exponentDigits : Nat

/-- The decimal digits of a number. -/
def digitsOf (n : Nat) : List Char :=
  Nat.toDigits 10 n

/-- Zeros in front of a text up to the given length. -/
def padZeros (width : Nat) (cs : List Char) : List Char :=
  List.replicate (width - cs.length) '0' ++ cs

/-- The text of `digits * 10 ^ k`: positional with at least one decimal place, or one digit before
the point and a signed exponent. -/
def Layout.write (l : Layout) (digits : Nat) (k : Int) : List Char :=
  let ds := digitsOf digits
  let first := (ds.length : Int) - 1 + k
  if l.lowest ≤ first && first ≤ l.highest then
    if 0 ≤ k then ds ++ List.replicate k.toNat '0' ++ ['.', '0']
    else if 0 ≤ first then ds.take (first.toNat + 1) ++ ['.'] ++ ds.drop (first.toNat + 1)
    else ['0', '.'] ++ List.replicate (-first - 1).toNat '0' ++ ds
  else
    let head := match ds with
      | d :: d' :: rest => d :: '.' :: d' :: rest
      | ds => ds
    head ++ ['e', if first < 0 then '-' else '+'] ++
      padZeros l.exponentDigits (digitsOf first.natAbs)

/-- The text of a double; only finite ones have digits. -/
def Layout.render (l : Layout) (x : Float) : String :=
  let bits := x.toBits.toNat
  let signBit := 2048 * hiddenBit
  let negative := signBit ≤ bits
  let size := bits % signBit
  let body :=
    if 2047 * hiddenBit < size then ['N', 'a', 'N']
    else if size = 2047 * hiddenBit then ['i', 'n', 'f']
    else if size = 0 then ['0', '.', '0']
    else
      let (digits, k) := (Binary.ofBits size).shortest
      l.write digits k
  String.ofList (if negative then '-' :: body else body)

end OneFs.Decimal
