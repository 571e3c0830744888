import RowFilter.Error
import RowFilter.Operand.Converter
import RowFilter.Text.LowerCase

/-!
# Coercion of operands

A `Coercion` makes literals of operands as they were written.  Numbers and truth values are
taken as they are; a text goes through the converter, and where letter case does not count a
text that comes out is put in lower case.
-/

namespace RowFilter

/-- How operands become literals. -/
structure Coercion where
  converter : Converter
  /-- Whether letter case counts in comparisons of texts. -/
  caseSensitive : Bool

namespace Coercion

/-- Whether fields and operands of a type are put in lower case. -/
def foldsCase (coercion : Coercion) (type : DataType) : Bool :=
  !coercion.caseSensitive && type.isTextual

/-- The literal of a JSON number: a signed integer where one will do. -/
def numberLiteral : JsonNumber → Literal
  | .integer n => if fitsSigned 64 n then .int n else .uint n.toNat
  | .floating x => .float x

/-- A literal with its text in lower case where letter case does not count. -/
def fold (coercion : Coercion) (type : DataType) : Literal → Literal
  | .text s => if coercion.foldsCase type then .text (lowerText s) else .text s
  | other => other

/-- The literal of an operand for a type. -/
def literal (coercion : Coercion) (type : DataType) : Scalar → Except FilterError Literal
  | .null => .ok .null
  | .bool b => .ok (.bool b)
  | .number n => .ok (numberLiteral n)
  | .text s =>
    match coercion.converter s type with
    | .ok converted => .ok (coercion.fold type converted)
    | .error message => .error (.conversion s type (.refused message))

/-- The literals of a list of operands for a type. -/
def literals (coercion : Coercion) (type : DataType) :
    List Scalar → Except FilterError (List Literal)
  | [] => .ok []
  | scalar :: rest => do
    let first ← coercion.literal type scalar
    let others ← coercion.literals type rest
    return first :: others

end Coercion

end RowFilter
