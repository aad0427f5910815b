import OneFs.Text.Hidden

/-!
# Quoted texts for messages

A text in double quotes with everything that would not show written as an escape:

- `\0`, `\t`, `\n`, `\r`, `\"` and `\\` for those six characters;
- `\u` and the code point in braces, in small hexadecimal digits, for other hidden characters;
- every other character as itself.

`optionDetail` does the same for things that may be missing.
-/

namespace OneFs.Text

/-- The small hexadecimal digits of a number, at least one. -/
def hexDigits (n : Nat) : List Char :=
  Nat.toDigits 16 n

/-- One character as it stands inside quotes. -/
def quotedChar (c : Char) : List Char :=
  if c == '\x00' then ['\\', '0']
  else if c == '\t' then ['\\', 't']
  else if c == '\n' then ['\\', 'n']
  else if c == '\r' then ['\\', 'r']
  else if c == '\x22' then ['\\', '\x22']
  else if c == '\\' then ['\\', '\\']
  else if isHidden c then ['\\', 'u', '\x7b'] ++ hexDigits c.toNat ++ ['\x7d']
  else [c]

/-- A text between double quotes, with escapes. -/
def quoted (s : String) : String :=
  String.ofList ('\x22' :: s.toList.flatMap quotedChar ++ ['\x22'])

/-- An optional thing, by the detail of what is there. -/
def optionDetail {α : Type} (detail : α → String) : Option α → String
  | some a => "Some(" ++ detail a ++ ")"
  | none => "None"

end OneFs.Text
