import Throttle.Text.Unprintable

/-!
# Quoted texts

A text between double quotes, written so that every character can be told from the printed form:
quotes and backslashes after a backslash, the usual short forms for tab, line feed, carriage return
and NUL, and the code point in hexadecimal for every other character that is not printed as itself.
-/

namespace Throttle.Text

/-- The code point of a character in lower-case hexadecimal, between braces. -/
def codePoint (c : Char) : List Char :=
  '\\' :: 'u' :: '{' :: (Nat.toDigits 16 c.toNat ++ ['}'])

def quoteChar (c : Char) : List Char :=
  if c = '"' then ['\\', '"']
  else if c = '\\' then ['\\', '\\']
  else if c = '\t' then ['\\', 't']
  else if c = '\n' then ['\\', 'n']
  else if c = '\r' then ['\\', 'r']
  else if c.toNat = 0 then ['\\', '0']
  else if isUnprintable c then codePoint c
  else [c]

/-- A text between double quotes, its characters in their printed forms. -/
def quoted (s : String) : String :=
  String.ofList ('"' :: s.toList.flatMap quoteChar ++ ['"'])

end Throttle.Text
