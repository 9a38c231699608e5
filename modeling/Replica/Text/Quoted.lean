/-
Quoted text: double quotes around a text whose quotes, backslashes, line breaks
and invisible characters are escaped.
-/
import Replica.Text.Printable

namespace Replica.Text

/-- A number in hexadecimal without leading zeros. -/
def hexadecimal (n : Nat) : List Char := (Nat.toDigits 16 n)

/-- How a quoted text writes one character. -/
def escape (c : Char) : List Char :=
  if c = '"' then ['\\', '"']
  else if c = '\\' then ['\\', '\\']
  else if c = '\n' then ['\\', 'n']
  else if c = '\r' then ['\\', 'r']
  else if c = '\t' then ['\\', 't']
  else if c = Char.ofNat 0 then ['\\', '0']
  else if isPrintable c then [c]
  else ['\\', 'u', '\x7b'] ++ hexadecimal c.toNat ++ ['\x7d']

/-- The text in double quotes. -/
def quoted (s : String) : String :=
  String.ofList ('"' :: s.toList.flatMap escape ++ ['"'])

end Replica.Text
