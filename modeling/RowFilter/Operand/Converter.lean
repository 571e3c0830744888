import RowFilter.Operand.Literal
import RowFilter.Schema.TypeName

/-!
# Converters

A `Converter` turns the text of an operand into a literal of a declared type, or says why it
cannot.  `Converter.standard` keeps texts as they are and reads all other types from the text
without the blanks around it.
-/

namespace RowFilter

/-- Turns a text into a literal for a type, or gives a message. -/
abbrev Converter := String → DataType → Except String Literal

/-- The truth value that a word stands for, in letters of any case. -/
def readBool? (text : List Char) : Option Bool :=
  let word := String.ofList (text.map Char.toLower)
  if ["true", "yes", "on", "1"].contains word then some true
  else if ["false", "no", "off", "0"].contains word then some false
  else none

namespace Converter

/-- The literal that was read, or a message that the text is not what it has to be. -/
def orRefuse (text complaint : String) : Option Literal → Except String Literal
  | some literal => .ok literal
  | none => .error ("'" ++ text ++ "' " ++ complaint)

/-- Reads a text as a value of a type, dates and instants in the given formats. -/
def standard (dates : DateFormats) (text : String) : DataType → Except String Literal
  | .text _ => .ok (.text text)
  | .dictionary _ value => standard dates text value
  | .boolean => orRefuse text "is not a boolean" ((readBool? (trim text.toList)).map .bool)
  | .int _ => orRefuse text "is not an integer" ((readSigned? (trim text.toList)).map .int)
  | .uint _ =>
    orRefuse text "is not an unsigned integer" ((readUnsigned? (trim text.toList)).map .uint)
  | .float _ | .decimal _ _ _ =>
    orRefuse text "is not a number" ((readFloating? .double (trim text.toList)).map .float)
  | .date32 | .date64 =>
    orRefuse text "does not match any configured date format"
      ((dates.readDate? (trim text.toList)).map fun date => .date date.toDays)
  | .timestamp _ _ =>
    orRefuse text "is not a timestamp" ((dates.readInstant? (trim text.toList)).map .instant)
  | other => .error ("No conversion from string to " ++ other.name)

end Converter

end RowFilter
