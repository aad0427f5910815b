/-!
# Reading bytes as UTF-8

`decodeLossy` reads any byte string: well-formed sequences give their characters, and each
longest beginning of a sequence that breaks off gives one replacement character.
-/

namespace OneFs.Text.Utf8

/-- What stands for bytes that are no character. -/
def replacement : Char := Char.ofNat 0xFFFD

/-- Whether a byte can follow the first byte of a sequence. -/
def isTail (b : UInt8) : Bool :=
  0x80 ≤ b && b ≤ 0xBF

/-- The second bytes that the first byte `b` of a three byte sequence admits. -/
def secondOfThree (b second : UInt8) : Bool :=
  if b == 0xE0 then 0xA0 ≤ second && second ≤ 0xBF
  else if b == 0xED then 0x80 ≤ second && second ≤ 0x9F
  else isTail second

/-- The second bytes that the first byte `b` of a four byte sequence admits. -/
def secondOfFour (b second : UInt8) : Bool :=
  if b == 0xF0 then 0x90 ≤ second && second ≤ 0xBF
  else if b == 0xF4 then 0x80 ≤ second && second ≤ 0x8F
  else isTail second

/-- The six low bits of a byte. -/
def low (b : UInt8) : Nat :=
  b.toNat % 64

/-- The characters of a byte string, with a replacement for each sequence that breaks off. -/
def decodeLossy : List UInt8 → List Char
  | [] => []
  | b :: rest =>
    if b < 0x80 then
      Char.ofNat b.toNat :: decodeLossy rest
    else if 0xC2 ≤ b && b ≤ 0xDF then
      match rest with
      | c :: rest' =>
        if isTail c then
          Char.ofNat (b.toNat % 32 * 64 + low c) :: decodeLossy rest'
        else replacement :: decodeLossy (c :: rest')
      | [] => [replacement]
    else if 0xE0 ≤ b && b ≤ 0xEF then
      match rest with
      | c :: rest' =>
        if secondOfThree b c then
          match rest' with
          | d :: rest'' =>
            if isTail d then
              Char.ofNat ((b.toNat % 16 * 64 + low c) * 64 + low d) :: decodeLossy rest''
            else replacement :: decodeLossy (d :: rest'')
          | [] => [replacement]
        else replacement :: decodeLossy (c :: rest')
      | [] => [replacement]
    else if 0xF0 ≤ b && b ≤ 0xF4 then
      match rest with
      | c :: rest' =>
        if secondOfFour b c then
          match rest' with
          | d :: rest'' =>
            if isTail d then
              match rest'' with
              | e :: rest''' =>
                if isTail e then
                  Char.ofNat (((b.toNat % 8 * 64 + low c) * 64 + low d) * 64 + low e) ::
                    decodeLossy rest'''
                else replacement :: decodeLossy (e :: rest''')
              | [] => [replacement]
            else replacement :: decodeLossy (d :: rest'')
          | [] => [replacement]
        else replacement :: decodeLossy (c :: rest')
      | [] => [replacement]
    else replacement :: decodeLossy rest

/-- The text of a byte string. -/
def text (bytes : List UInt8) : String :=
  String.ofList (decodeLossy bytes)

/-- The UTF-8 bytes of one character. -/
def bytesOfChar (c : Char) : List UInt8 :=
  let n := c.toNat
  if n < 0x80 then [n.toUInt8]
  else if n < 0x800 then [(0xC0 + n / 64).toUInt8, (0x80 + n % 64).toUInt8]
  else if n < 0x10000 then
    [(0xE0 + n / 4096).toUInt8, (0x80 + n / 64 % 64).toUInt8, (0x80 + n % 64).toUInt8]
  else
    [(0xF0 + n / 262144).toUInt8, (0x80 + n / 4096 % 64).toUInt8, (0x80 + n / 64 % 64).toUInt8,
      (0x80 + n % 64).toUInt8]

/-- The UTF-8 bytes of a text. -/
def bytes (s : String) : List UInt8 :=
  s.toList.flatMap bytesOfChar

/-- How many bytes characters take. -/
def width : List Char → Nat
  | [] => 0
  | c :: cs => c.utf8Size + width cs

/-- The characters of a byte string that is UTF-8 throughout. -/
def decode? (bs : List UInt8) : Option (List Char) :=
  let cs := decodeLossy bs
  if cs.flatMap bytesOfChar = bs then some cs else none

end OneFs.Text.Utf8
