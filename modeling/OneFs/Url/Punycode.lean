/-!
# Punycode

A label beyond ASCII as ASCII letters, digits and hyphens: the ASCII characters come first, then
a hyphen, and the others follow as distances to their places in the order of code points, in
numbers whose digits have weights that adapt to the distances seen so far.

- `encode`: the letters that stand for a label;
- `decode?`: the label that letters stand for.
-/

namespace OneFs.Punycode

/-- The digit of a number below 36. -/
def digit (n : Nat) : Char :=
  if n < 26 then Char.ofNat (97 + n) else Char.ofNat (22 + n)

/-- The number of a digit. -/
def number? (c : Char) : Option Nat :=
  let n := c.toNat
  if 97 ≤ n ∧ n ≤ 122 then some (n - 97)
  else if 65 ≤ n ∧ n ≤ 90 then some (n - 65)
  else if 48 ≤ n ∧ n ≤ 57 then some (n - 22)
  else none

/-- The threshold of the digit at place `k`. -/
def threshold (k bias : Nat) : Nat :=
  if k ≤ bias then 1 else if bias + 26 ≤ k then 26 else k - bias

/-- The bias that a distance, scaled down, leads to. The scale falls by 35 in each step, so the
fuel is enough for any distance below `35 ^ fuel`. -/
def settle (fuel k delta : Nat) : Nat :=
  match fuel with
  | 0 => k
  | fuel + 1 =>
    if 455 < delta then settle fuel (k + 36) (delta / 35) else k + 36 * delta / (delta + 38)

/-- The bias after a distance, with `points` characters placed. -/
def adapt (delta points : Nat) (first : Bool) : Nat :=
  let delta := if first then delta / 700 else delta / 2
  settle 16 0 (delta + delta / points)

/-- The digits of a distance. -/
def distance (fuel k bias q : Nat) : List Char :=
  match fuel with
  | 0 => []
  | fuel + 1 =>
    let t := threshold k bias
    if q < t then [digit q]
    else digit (t + (q - t) % (36 - t)) :: distance fuel (k + 36) bias ((q - t) / (36 - t))

/-- Where an encoding stands: the characters placed, the bias and the distance so far. -/
structure Progress where
  placed : Nat
  bias : Nat
  delta : Nat
  out : List Char

/-- One character of the label, while the code point `n` is placed. -/
def Progress.pass (basic n : Nat) (p : Progress) (c : Char) : Progress :=
  if c.toNat < n then { p with delta := p.delta + 1 }
  else if c.toNat = n then
    { placed := p.placed + 1, bias := adapt p.delta (p.placed + 1) (p.placed == basic), delta := 0,
      out := p.out ++ distance 16 36 p.bias p.delta }
  else p

/-- The least code point of a label that is at least `n`. -/
def least (n : Nat) (label : List Char) : Option Nat :=
  (label.map Char.toNat).foldl
    (fun best m => if n ≤ m then some (min m (best.getD m)) else best) none

/-- The code points from `n` on, in their order. The fuel bounds their number. -/
def placeAll (fuel basic n : Nat) (label : List Char) (p : Progress) : Progress :=
  match fuel, least n label with
  | fuel + 1, some m =>
    let p := { p with delta := p.delta + (m - n) * (p.placed + 1) }
    let p := label.foldl (Progress.pass basic m) p
    placeAll fuel basic (m + 1) label { p with delta := p.delta + 1 }
  | _, _ => p

/-- The letters that stand for a label. -/
def encode (label : List Char) : List Char :=
  let basic := label.filter fun c => c.toNat < 128
  let start := if basic.isEmpty then [] else basic ++ ['-']
  (placeAll label.length basic.length 128 label ⟨basic.length, 72, 0, start⟩).out

/-- A number at the beginning of `cs`, added to `i`, and the letters after it. -/
def readDistance (k bias weight i : Nat) : List Char → Option (Nat × List Char)
  | [] => none
  | c :: cs =>
    match number? c with
    | none => none
    | some d =>
      let i := i + d * weight
      let t := threshold k bias
      if d < t then some (i, cs) else readDistance (k + 36) bias (weight * (36 - t)) i cs

/-- The characters that the letters after the hyphen put into `out`. -/
def readAll (fuel n i bias : Nat) (out cs : List Char) : Option (List Char) :=
  match fuel, cs with
  | _, [] => some out
  | 0, _ => none
  | fuel + 1, cs =>
    match readDistance 36 bias 1 i cs with
    | none => none
    | some (next, rest) =>
      let points := out.length + 1
      let n := n + next / points
      let place := next % points
      if Nat.isValidChar n then
        readAll fuel n (place + 1) (adapt (next - i) points (i == 0))
          (out.take place ++ Char.ofNat n :: out.drop place) rest
      else none

/-- The label that letters stand for. -/
def decode? (cs : List Char) : Option (List Char) :=
  let tail := (cs.reverse.takeWhile (· != '-')).reverse
  let head := cs.take (cs.length - tail.length)
  readAll cs.length 128 0 72 head.dropLast (if head.isEmpty then cs else tail)

end OneFs.Punycode
