import RowFilter.Error

/-!
# The grammar of filters

A filter is written as a JSON array: `[path, operator, operand]` is a comparison, `["!",
filter]` a negation, and filters with one connective between every two are a group.  A level
with both connectives is refused; arrays nest instead.  `FilterExpr.ofJson` reads a JSON value,
and `FilterExpr.read` a text, in which nothing at all stands for the empty expression.
-/

namespace RowFilter

namespace FilterExpr

/-- A comparison; refused when the shape of the operand does not fit the operator. -/
def ofParts (path : String) (op : Operator) (operand : Operand) : Except FilterError FilterExpr :=
  match operand, op.takesList with
  | .list _, false => .error (.grammar (.listForScalar op path))
  | .scalar value, true => .error (.grammar (.valueForList op path value.toJson.kind))
  | _, _ => .ok (.comparison path op operand)

/-- Reads an operand that is a single value. -/
def readScalar : Json → Except FilterError Scalar
  | .null => .ok .null
  | .bool b => .ok (.bool b)
  | .number n => .ok (.number n)
  | .string s => .ok (.text s)
  | other => .error (.unsupportedOperand (.kind other.kind))

/-- Reads a list of single values. -/
def readScalars : List Json → Except FilterError (List Scalar)
  | [] => .ok []
  | item :: rest =>
    match readScalar item with
    | .error error => .error error
    | .ok value =>
      match readScalars rest with
      | .error error => .error error
      | .ok values => .ok (value :: values)

/-- Reads the operand of an operator. -/
def readOperand (path : String) (op : Operator) (value : Json) : Except FilterError Operand :=
  if op.takesList then
    match value with
    | .array items => (readScalars items).map .list
    | other => .error (.grammar (.scalarForArray op path other.kind))
  else
    match value with
    | .array _ => .error (.grammar (.arrayForScalar op path))
    | other => (readScalar other).map .scalar

/-- Reads the operator of a comparison in an array of a size. -/
def readOperator (path : String) (size : Nat) : Json → Except FilterError Operator
  | .string text =>
    match Operator.ofText? text with
    | some op => .ok op
    | none => .error (.grammar (.unknownOperatorOn text path size))
  | other => .error (.grammar (.operatorNotText path other.kind))

/-- Reads a comparison of three elements. -/
def readComparison : List Json → Except FilterError FilterExpr
  | .string path :: operator :: operand :: _ => do
    let op ← readOperator path 3 operator
    let operand ← readOperand path op operand
    ofParts path op operand
  | _ :: _ :: _ :: _ => .error (.grammar .pathNotText)
  | items => .error (.grammar (.noElement items.length))

/-- Reads the connective at a position of an array of a size. -/
def readConnective (position size : Nat) : Json → Except FilterError Connective
  | .string text =>
    match Connective.ofText? text with
    | some op => .ok op
    | none => .error (.grammar (.unknownConnectiveAt text position size))
  | other => .error (.grammar (.connectiveNotText position size other.kind))

/-- An element of an array, and how it is read as a filter of its own at a position. -/
abbrev Element := Json × (Nat → Except FilterError FilterExpr)

/-- Reads a negation of two elements. -/
def readNegation : List Element → Except FilterError FilterExpr
  | (.string "!", _) :: (_, readChild) :: _ => (readChild 1).map .negation
  | [(.string "!", _)] => .error (.grammar (.noElement 1))
  | (first, _) :: _ => .error (.grammar (.notNegation first))
  | [] => .error (.grammar (.noElement 0))

/-- Reads the rest of a group, from the connective at an odd position on. -/
def readRest (op : Connective) (size : Nat) :
    Nat → List Element → Except FilterError (List FilterExpr)
  | _, [] => .ok []
  | position, (connective, _) :: rest => do
    let next ← readConnective position size connective
    if next ≠ op then .error (.grammar (.mixedConnectives op next size))
    else
      match rest with
      | [] => .error (.grammar (.noElement (position + 1)))
      | (_, readChild) :: rest =>
        let child ← readChild (position + 1)
        let children ← readRest op size (position + 2) rest
        return child :: children

/-- Reads a group: its connective, its first condition, and then the others. -/
def readGroup : List Element → Except FilterError FilterExpr
  | (_, readChild) :: (connective, tail) :: rest => do
    let size := rest.length + 2
    let op ← readConnective 1 size connective
    let child ← readChild 0
    let children ← readRest op size 1 ((connective, tail) :: rest)
    return .group op (child :: children)
  | elements => .error (.grammar (.noElement elements.length))

/-- Reads the elements of an array as a filter. -/
def readElements (elements : List Element) : Except FilterError FilterExpr :=
  match elements.length, elements with
  | 2, _ => readNegation elements
  | 3, (.string _, _) :: _ => readComparison (elements.map Prod.fst)
  | 3, (.array _, _) :: _ => readGroup elements
  | 3, (first, _) :: _ => .error (.grammar (.firstElement first.kind))
  | size, _ =>
    if 5 ≤ size ∧ size % 2 = 1 then readGroup elements
    else .error (.grammar (.arraySize size))

mutual

/-- Reads the element at a position of an array, which has to be a filter of its own. -/
def readChild : Json → Nat → Except FilterError FilterExpr
  | .array items, _ => readElements (elementsOf items)
  | other, position => .error (.grammar (.childNotArray position other.kind))

/-- The elements of an array, each with its reader. -/
def elementsOf : List Json → List Element
  | [] => []
  | item :: rest => (item, readChild item) :: elementsOf rest

end

/-- Reads a JSON value as a filter. -/
def ofJson : Json → Except FilterError FilterExpr
  | .array items => readElements (elementsOf items)
  | other => .error (.grammar (.notArray other.kind))

/-- Reads a text as a filter; without a text, or with an empty one, there is no condition. -/
def read : Option String → Except FilterError FilterExpr
  | none => .ok .empty
  | some text =>
    if text = "" then .ok .empty
    else
      match Json.read text with
      | .error fault => .error (.invalidJson fault)
      | .ok value => ofJson value

end FilterExpr

end RowFilter
