import QueryPlanner.Text.Hexadecimal
import QueryPlanner.Text.Printable

/-!
Text shown between double quotes, so that every character can be told from every other one.
-/

namespace QueryPlanner.Text

def quotedChar (c : Char) : List Char :=
  if c = '\x00' then ['\\', '0']
  else if c = '\t' then ['\\', 't']
  else if c = '\r' then ['\\', 'r']
  else if c = '\n' then ['\\', 'n']
  else if c = '\\' then ['\\', '\\']
  else if c = '"' then ['\\', '"']
  else if isPrintable c then [c]
  else '\\' :: 'u' :: '{' :: lowerHex c.toNat ++ ['}']

def quoted (text : List Char) : List Char :=
  '"' :: text.flatMap quotedChar ++ ['"']

end QueryPlanner.Text
