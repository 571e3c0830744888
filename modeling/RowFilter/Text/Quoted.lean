import RowFilter.Text.HiddenTable
import RowFilter.Text.Ranges

/-!
# Quoted names

`quotedName` writes a name between quotes, as the text of a type shows it.  A character that
shows nothing by itself is written as its code point.
-/

namespace RowFilter

/-- The hexadecimal digits of a number. -/
def hexDigits (n : Nat) : List Char :=
  Nat.toDigits 16 n

/-- A character as it stands inside a quoted name. -/
def quotedNameChar (c : Char) : List Char :=
  if c = '"' then ['\\', '"']
  else if c = '\\' then ['\\', '\\']
  else if c = '\t' then ['\\', 't']
  else if c = '\n' then ['\\', 'n']
  else if c = '\r' then ['\\', 'r']
  else if c.toNat = 0 then ['\\', '0']
  else if inRanges hiddenRanges c then
    '\\' :: 'u' :: '\x7b' :: (hexDigits c.toNat ++ ['\x7d'])
  else [c]

/-- A name between quotes. -/
def quotedName (name : String) : String :=
  String.ofList ('"' :: (name.toList.flatMap quotedNameChar ++ ['"']))

end RowFilter
