import LogScript.Text.Extending
import LogScript.Text.Printable

namespace LogScript.Text

/-- The code of a character in braces, as few hexadecimal digits as it needs. -/
def codeInBraces (c : Char) : List Char :=
  '\\' :: 'u' :: '\x7b' :: (Nat.toDigits 16 c.toNat ++ ['\x7d'])

/-- How one character is shown. A character that extends another has no glyph between quotes. -/
def shown (c : Char) : List Char :=
  if c = '"' ∨ c = '\\' then ['\\', c]
  else if c = '\n' then ['\\', 'n']
  else if c = '\r' then ['\\', 'r']
  else if c = '\t' then ['\\', 't']
  else if c = '\x00' then ['\\', '0']
  else if isExtending c || !isPrintable c then codeInBraces c
  else [c]

/-- A text between double quotes with its invisible characters written by their codes. -/
def quoted (s : String) : String :=
  String.ofList ('"' :: (s.toList.flatMap shown ++ ['"']))

end LogScript.Text
