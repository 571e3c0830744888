import RowFilter.Filter.Expr
import RowFilter.Json.Printer

/-!
# Written forms of an expression

`FilterExpr.toJson` is the JSON array that stands for an expression, in which a group alternates
its conditions with its connective.  `FilterExpr.toText` is a text for people.
-/

namespace RowFilter

namespace FilterExpr

mutual

/-- The expression as a JSON value; the empty expression is null. -/
def toJson : FilterExpr → Json
  | .empty => .null
  | .comparison path op operand => .array [.string path, .string op.symbol, operand.toJson]
  | .group _ [] => .array []
  | .group op (first :: rest) => .array (first.toJson :: joinedJson op rest)
  | .negation child => .array [.string "!", child.toJson]

/-- Further conditions of a group, each after the connective. -/
def joinedJson (op : Connective) : List FilterExpr → List Json
  | [] => []
  | child :: rest => .string op.symbol :: child.toJson :: joinedJson op rest

end

/-- The text of an operand. -/
def operandText : Operand → String
  | .scalar value => value.toJson.compact
  | .list values =>
    "(" ++ String.intercalate ", " (values.map fun value => value.toJson.compact) ++ ")"

mutual

/-- The text of an expression. -/
def toText : FilterExpr → String
  | .empty => "<empty>"
  | .comparison path op operand => path ++ " " ++ op.symbol ++ " " ++ operandText operand
  | .group op children =>
    "(" ++ String.intercalate (" " ++ op.symbol ++ " ") (allTexts children) ++ ")"
  | .negation child =>
    if child.isGroup then "!" ++ child.toText else "!(" ++ child.toText ++ ")"

/-- The texts of a list of expressions. -/
def allTexts : List FilterExpr → List String
  | [] => []
  | child :: rest => child.toText :: allTexts rest

end

end FilterExpr

end RowFilter
