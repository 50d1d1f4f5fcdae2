import Switchboard.Text.Unprintable
/-!
# Quoted text

`quoted` writes a text between quotes for a reader of messages: quotes, backslashes and the common
controls by a short escape, every other character that does not print by its number in braces.
-/

namespace Switchboard

/-- How one character of a quoted text is written. -/
def quotedChar (c : Char) : List Char :=
  if c = '"' then ['\\', '"']
  else if c = '\\' then ['\\', '\\']
  else if c = '\x00' then ['\\', '0']
  else if c = '\t' then ['\\', 't']
  else if c = '\r' then ['\\', 'r']
  else if c = '\n' then ['\\', 'n']
  else if isUnprintable c then ['\\', 'u', '{'] ++ Nat.toDigits 16 c.toNat ++ ['}']
  else [c]

def quoted (s : String) : String := String.ofList ('"' :: s.toList.flatMap quotedChar ++ ['"'])

end Switchboard
