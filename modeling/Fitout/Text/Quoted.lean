import Fitout.Text.Hidden

/-!
# Quoted texts

A text between double quotes, as log lines show raw values: the quote, the backslash, tab, line
feed, carriage return and NUL are written as two characters, a character without an image of its
own as its code point in braces, and every other character as it is.
-/

namespace Fitout.Text

/-- How one character stands in a quoted text. -/
def quotedChar (c : Char) : List Char :=
  if c == '\x22' then ['\\', '\x22']
  else if c == '\\' then ['\\', '\\']
  else if c == '\t' then ['\\', 't']
  else if c == '\n' then ['\\', 'n']
  else if c == '\r' then ['\\', 'r']
  else if c.toNat == 0 then ['\\', '0']
  else if isHidden c then ['\\', 'u', '\x7b'] ++ Nat.toDigits 16 c.toNat ++ ['\x7d']
  else [c]

/-- The quoted form of a text. -/
def quoted (s : String) : String :=
  String.ofList (['\x22'] ++ s.toList.flatMap quotedChar ++ ['\x22'])

end Fitout.Text
