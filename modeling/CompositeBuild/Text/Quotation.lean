/-
# Quoting text in messages

A text quoted in a message stands between double quotes.  The quote, the backslash and the common
control characters are escaped by a backslash; characters that do not print on their own are spelled
by their number.
-/
import CompositeBuild.Unicode.Unprintable

namespace CompositeBuild.Text

/-- A character inside a quotation. -/
def quotedChar (c : Char) : List Char :=
  if c = '\x00' then ['\\', '0']
  else if c = '\t' then ['\\', 't']
  else if c = '\r' then ['\\', 'r']
  else if c = '\n' then ['\\', 'n']
  else if c = '\\' then ['\\', '\\']
  else if c = '"' then ['\\', '"']
  else if Unicode.isUnprintable c then
    ['\\', 'u', '{'] ++ Nat.toDigits 16 c.toNat ++ ['}']
  else [c]

/-- The text as it is quoted in a message. -/
def quotation (text : String) : String :=
  String.ofList ('"' :: (text.toList.flatMap quotedChar ++ ['"']))

end CompositeBuild.Text
