import RowFilter.Filter.Wire
import RowFilter.Json.Reader
import RowFilter.Schema.TypeName

/-!
# Errors

A `FilterError` says why a filter cannot be read or applied.  Its constructors are the causes;
`FilterError.message` gives each its words.  `FilterError.isClientError` tells the errors of the
one who wrote the filter from faults of the data store, `BackendFault`s.
-/

namespace RowFilter

/-- Why a JSON value is no filter. -/
inductive GrammarFault where
  /-- The filter is no array. -/
  | notArray (found : JsonKind)
  /-- No filter is an array of this size. -/
  | arraySize (size : Nat)
  /-- An array has no element at a position where one is looked for. -/
  | noElement (position : Nat)
  /-- The first of three elements is neither a path nor a filter. -/
  | firstElement (found : JsonKind)
  /-- The first of two elements does not mark a negation. -/
  | notNegation (first : Json)
  /-- An element that has to be a filter is no array. -/
  | childNotArray (position : Nat) (found : JsonKind)
  /-- The first element of a comparison is no path. -/
  | pathNotText
  /-- The operator of a comparison is unknown. -/
  | unknownOperatorOn (text path : String) (size : Nat)
  /-- The operator of a comparison is no text. -/
  | operatorNotText (path : String) (found : JsonKind)
  /-- An operator for a single value is written with an array. -/
  | arrayForScalar (op : Operator) (path : String)
  /-- An operator for a list is written with something else. -/
  | scalarForArray (op : Operator) (path : String) (found : JsonKind)
  /-- An operator for a single value is given a list. -/
  | listForScalar (op : Operator) (path : String)
  /-- An operator for a list is given a single value. -/
  | valueForList (op : Operator) (path : String) (found : JsonKind)
  /-- An operator for a list is applied to a single value. -/
  | listNeeded (op : Operator) (path : String)
  /-- An operator is applied to an operand of the wrong shape. -/
  | operandRefused (op : Operator) (path : String) (operand : Operand)
  /-- The connective of a group is unknown. -/
  | unknownConnectiveAt (text : String) (position size : Nat)
  /-- The connective of a group is no text. -/
  | connectiveNotText (position size : Nat) (found : JsonKind)
  /-- A group has two connectives. -/
  | mixedConnectives (first next : Connective) (size : Nat)
  /-- A text spells no operator. -/
  | unknownOperator (text : String)
  /-- A text spells no connective. -/
  | unknownConnective (text : String)
deriving Repr

namespace GrammarFault

/-- The words for a size or a position. -/
def bracketed (n : Nat) : String :=
  "[" ++ decimalText n ++ "]"

/-- The words for an operator and the path that it is used on. -/
def operatorOn (op : Operator) (path : String) : String :=
  "Operator [" ++ op.symbol ++ "] on '" ++ path ++ "'"

/-- The words for a fault. -/
def message : GrammarFault → String
  | .notArray found => "Filter must be a JSON array, found " ++ found.name
  | .arraySize size => "Filter array of size " ++ bracketed size ++ " not supported"
  | .noElement position => "Filter array has no element at position " ++ bracketed position
  | .firstElement found =>
    "The type [" ++ found.name
      ++ "] of the first element of a filter array of size [3] is not supported"
  | .notNegation first =>
    "Filter array of size [2] has to be a unary NOT operation, found [" ++ first.compact
      ++ "] as first element"
  | .childNotArray position found =>
    "Filter element at position " ++ bracketed position ++ " must be an array, found " ++ found.name
  | .pathNotText => "The path of a comparison must be a string"
  | .unknownOperatorOn text path size =>
    "Comparison operator [" ++ text ++ "] on '" ++ path
      ++ "' not supported in filter array of size " ++ bracketed size
  | .operatorNotText path found =>
    "Comparison operator on '" ++ path ++ "' must be a string, found " ++ found.name
  | .arrayForScalar op path => operatorOn op path ++ " expects a scalar operand, found array"
  | .scalarForArray op path found =>
    operatorOn op path ++ " expects an array operand, found " ++ found.name
  | .listForScalar op path => operatorOn op path ++ " expects a scalar operand, found an array"
  | .valueForList op path found =>
    operatorOn op path ++ " expects an array operand, found " ++ found.name
  | .listNeeded op path => operatorOn op path ++ " expects an array operand"
  | .operandRefused op path operand =>
    operatorOn op path ++ " does not accept operand " ++ operand.toJson.compact
  | .unknownConnectiveAt text position size =>
    "Group operator [" ++ text ++ "] at position " ++ bracketed position
      ++ " of a filter array of size " ++ bracketed size
      ++ " not supported, expected [and] or [or]"
  | .connectiveNotText position size found =>
    "Group operator at position " ++ bracketed position ++ " of a filter array of size "
      ++ bracketed size ++ " must be a string, found " ++ found.name
  | .mixedConnectives first next size =>
    "Can not combine different group operators ([" ++ first.symbol ++ "] and [" ++ next.symbol
      ++ "]) on the same level of a filter array of size " ++ bracketed size
  | .unknownOperator text => "Comparison operator [" ++ text ++ "] not supported"
  | .unknownConnective text =>
    "Group operator [" ++ text ++ "] not supported, expected [and] or [or]"

end GrammarFault

/-- Why an operand has no use. -/
inductive OperandFault where
  /-- No operand is of this kind. -/
  | kind (found : JsonKind)
  /-- The operator has no meaning for null. -/
  | null (op : Operator) (path : String)
deriving Repr

/-- The words for an operand without use. -/
def OperandFault.message : OperandFault → String
  | .kind found => "operand can not be of type [" ++ found.name ++ "]"
  | .null op path =>
    "null operand can not be used with operator [" ++ op.symbol ++ "] on '" ++ path ++ "'"

/-- Why a value cannot be cast or computed. -/
inductive CastFault where
  /-- No value of the type stands for it. -/
  | cast
  /-- A name in the type cannot be read. -/
  | parse
  /-- The value has more digits than the type. -/
  | precision
  /-- The values do not fit together. -/
  | compute
  /-- A number on the way does not fit its word. -/
  | overflow
  /-- The values of the type have no text. -/
  | unsupported
deriving DecidableEq, Repr, Inhabited

/-- The name of a fault. -/
def CastFault.name : CastFault → String
  | .cast => "<CastError>"
  | .parse => "<ParseError>"
  | .precision => "<InvalidArgumentError>"
  | .compute => "<ComputeError>"
  | .overflow => "<ArithmeticOverflow>"
  | .unsupported => "<NotYetImplemented>"

/-- Why an operand cannot become a literal of the type of a field. -/
inductive ConversionCause where
  /-- The converter refused the text. -/
  | refused (message : String)
  /-- The literal cannot be cast. -/
  | cast (fault : CastFault)
deriving Repr

/-- The words for a failed conversion. -/
def ConversionCause.message : ConversionCause → String
  | .refused text => text
  | .cast fault => fault.name

/-- What goes wrong in the data store. -/
inductive BackendFault where
  /-- A mask does not have one entry for each row. -/
  | maskLength (mask rows : Nat)
  /-- A primitive was made to fail. -/
  | injected (primitive : String)
  /-- The values of a column cannot be compared. -/
  | comparison (path : String)
  /-- A value cannot be cast or computed. -/
  | cast (fault : CastFault)
deriving Repr

/-- The words for a fault of the data store. -/
def BackendFault.message : BackendFault → String
  | .maskLength mask rows =>
    "Invalid argument error: Mask length (" ++ decimalText mask
      ++ ") doesn't match batch row count (" ++ decimalText rows ++ ")"
  | .injected primitive => "Compute error: injected " ++ primitive
  | .comparison path => "Compute error: Comparison on column '" ++ path ++ "' failed: <arrow>"
  | .cast fault => fault.name

/-- Why a filter cannot be read or applied. -/
inductive FilterError where
  | grammar (fault : GrammarFault)
  | invalidJson (fault : JsonFault)
  | unknownField (path segment : String)
  | conversion (value : String) (target : DataType) (cause : ConversionCause)
  | unsupportedOperand (fault : OperandFault)
  | notComparable (path : String) (type : DataType)
  | backend (fault : BackendFault)
deriving Repr

/-- The name of a fault in a JSON text. -/
def JsonFault.name : JsonFault → String
  | .malformed => "<Syntax>"
  | .unfinished => "<Eof>"
  | .misfit => "<Data>"

namespace FilterError

/-- The words for an error. -/
def message : FilterError → String
  | .grammar fault => "Filter grammar error: " ++ fault.message
  | .invalidJson fault => "Invalid JSON: " ++ fault.name
  | .unknownField path segment => "Unknown field '" ++ segment ++ "' in path '" ++ path ++ "'"
  | .conversion value target cause =>
    "Cannot convert '" ++ value ++ "' to " ++ target.name ++ ": " ++ cause.message
  | .unsupportedOperand fault => "Unsupported operand type: " ++ fault.message
  | .notComparable path type =>
    "Field '" ++ path ++ "' of type " ++ type.name ++ " does not support ordering comparisons"
  | .backend fault => "Arrow error: " ++ fault.message

/-- Whether the one who wrote the filter is to blame. -/
def isClientError : FilterError → Bool
  | .backend _ => false
  | _ => true

end FilterError

end RowFilter
