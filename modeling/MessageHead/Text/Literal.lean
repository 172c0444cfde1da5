/-
Texts and characters as error messages quote them: in quotes, with every character that
could not be told apart on a screen written as an escape.
-/
import MessageHead.Text.Basic
import MessageHead.Text.Number
import MessageHead.Text.Printable

namespace MessageHead.Literal

/-- The escape `\u` with the code point in braces, in lower-case hexadecimal digits. -/
def codePoint (c : Char) : Text :=
  "\\u\x7b".toList ++ Number.hexDigits c.toNat ++ ['\x7d']

/-- One character inside quotes made of `quote`. -/
def escapeChar (quote c : Char) : Text :=
  if c == '\x00' then ['\\', '0']
  else if c == '\t' then ['\\', 't']
  else if c == '\r' then ['\\', 'r']
  else if c == '\n' then ['\\', 'n']
  else if c == '\\' || c == quote then ['\\', c]
  else if combining.contains c || unprintable.contains c then codePoint c
  else [c]

/-- A text in double quotes. -/
def text (s : Text) : Text := '"' :: s.flatMap (escapeChar '"') ++ ['"']

/-- A character in single quotes. -/
def char (c : Char) : Text := '\'' :: escapeChar '\'' c ++ ['\'']

end MessageHead.Literal
