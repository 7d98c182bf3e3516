import InterestMux.Text.Hidden

/-!
# Quoted text

`Quoted.encode` writes a text between double quotes. Quotes and backslashes are escaped, the
common control characters have short names, and a character without a glyph of its own is written
as its hexadecimal code point.
-/

namespace InterestMux.Quoted

/-- The code point of a character in hexadecimal, between braces. -/
def codePoint (c : Char) : List Char :=
  ['\\', 'u', '\x7b'] ++ Nat.toDigits 16 c.toNat ++ ['\x7d']

/-- One character between quotes. -/
def escape (c : Char) : List Char :=
  if c == '"' then ['\\', '"']
  else if c == '\\' then ['\\', '\\']
  else if c == '\n' then ['\\', 'n']
  else if c == '\r' then ['\\', 'r']
  else if c == '\t' then ['\\', 't']
  else if c.toNat = 0 then ['\\', '0']
  else if isHidden c then codePoint c
  else [c]

/-- The text between double quotes, with escapes. -/
def encode (s : String) : String :=
  String.ofList ('"' :: s.toList.flatMap escape ++ ['"'])

end InterestMux.Quoted
