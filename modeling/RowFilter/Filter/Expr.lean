import RowFilter.Filter.Operator
import RowFilter.Json.Value

/-!
# Filter expressions

A `FilterExpr` is a condition on the fields of a row.  It compares fields with operands as they
were written, `Scalar`s or lists of them, and joins and negates conditions. Expressions are
built up by `and`, `or` and `not`, which keep a group of one connective flat and treat the empty
expression as no condition at all.
-/

namespace RowFilter

/-- An operand as it was written. -/
inductive Scalar where
  | null
  | bool (value : Bool)
  | number (value : JsonNumber)
  | text (value : String)
deriving DecidableEq, Repr, Inhabited

/-- The value as JSON. -/
def Scalar.toJson : Scalar → Json
  | .null => .null
  | .bool b => .bool b
  | .number n => .number n
  | .text s => .string s

/-- Equality of operands, of numbers by their value. -/
def Scalar.sameAs : Scalar → Scalar → Bool
  | .number m, .number n => m.sameAs n
  | x, y => x == y

/-- The right-hand side of a comparison. -/
inductive Operand where
  | scalar (value : Scalar)
  | list (values : List Scalar)
deriving DecidableEq, Repr, Inhabited

namespace Operand

/-- The operand as JSON. -/
def toJson : Operand → Json
  | .scalar value => value.toJson
  | .list values => .array (values.map Scalar.toJson)

/-- Equality of lists of operands, one by one. -/
def allSame : List Scalar → List Scalar → Bool
  | [], [] => true
  | x :: xs, y :: ys => x.sameAs y && allSame xs ys
  | _, _ => false

/-- Equality of operands, of numbers by their value. -/
def sameAs : Operand → Operand → Bool
  | .scalar x, .scalar y => x.sameAs y
  | .list xs, .list ys => allSame xs ys
  | _, _ => false

end Operand

/-- A condition on the fields of a row. -/
inductive FilterExpr where
  /-- No condition. -/
  | empty
  /-- A field, named by its dotted path, compared with an operand. -/
  | comparison (path : String) (op : Operator) (operand : Operand)
  /-- Conditions joined by one connective. -/
  | group (op : Connective) (children : List FilterExpr)
  /-- The opposite of a condition. -/
  | negation (child : FilterExpr)
deriving Repr, Inhabited

namespace FilterExpr

/-- Whether the expression is the empty one. -/
def isEmpty : FilterExpr → Bool
  | .empty => true
  | _ => false

/-- Whether the expression is a group. -/
def isGroup : FilterExpr → Bool
  | .group _ _ => true
  | _ => false

/-! ### Composition -/

/-- Joins two conditions.  Groups of the same connective are merged, a condition is added to
such a group on its left, and the empty expression on either side leaves the other one. -/
def join (op : Connective) : FilterExpr → FilterExpr → FilterExpr
  | .empty, right => right
  | left, .empty => left
  | .group p left, .group q right =>
    if p = op ∧ q = op then .group op (left ++ right)
    else if p = op then .group op (left ++ [.group q right])
    else .group op [.group p left, .group q right]
  | .group p left, right =>
    if p = op then .group op (left ++ [right]) else .group op [.group p left, right]
  | left, right => .group op [left, right]

/-- The condition that both hold. -/
def and (left right : FilterExpr) : FilterExpr :=
  join .and left right

/-- The condition that at least one holds. -/
def or (left right : FilterExpr) : FilterExpr :=
  join .or left right

/-- The opposite condition; the empty expression has none. -/
def not : FilterExpr → FilterExpr
  | .empty => .empty
  | child => .negation child

/-! ### Contents -/

mutual

/-- The number of comparisons. -/
def comparisonCount : FilterExpr → Nat
  | .empty => 0
  | .comparison _ _ _ => 1
  | .group _ children => comparisonCounts children
  | .negation child => child.comparisonCount

/-- The number of comparisons in a list of expressions. -/
def comparisonCounts : List FilterExpr → Nat
  | [] => 0
  | child :: rest => child.comparisonCount + comparisonCounts rest

end

mutual

/-- The paths of the comparisons, in the order written. -/
def paths : FilterExpr → List String
  | .empty => []
  | .comparison path _ _ => [path]
  | .group _ children => allPaths children
  | .negation child => child.paths

/-- The paths of the comparisons in a list of expressions. -/
def allPaths : List FilterExpr → List String
  | [] => []
  | child :: rest => child.paths ++ allPaths rest

end

/-- Puts a name among sorted ones, unless it is there. -/
def insertName (name : String) : List String → List String
  | [] => [name]
  | other :: rest =>
    if name = other then other :: rest
    else if name < other then name :: other :: rest
    else other :: insertName name rest

/-- The paths that the expression needs, sorted, each once. -/
def requiredFields (expr : FilterExpr) : List String :=
  expr.paths.foldr insertName []

mutual

/-- Equality of expressions, of numbers in operands by their value. -/
def sameAs : FilterExpr → FilterExpr → Bool
  | .empty, .empty => true
  | .comparison p o x, .comparison q r y => p == q && o == r && x.sameAs y
  | .group o xs, .group p ys => o == p && allSame xs ys
  | .negation x, .negation y => x.sameAs y
  | _, _ => false

/-- Equality of lists of expressions, one by one. -/
def allSame : List FilterExpr → List FilterExpr → Bool
  | [], [] => true
  | x :: xs, y :: ys => x.sameAs y && allSame xs ys
  | _, _ => false

end

end FilterExpr

end RowFilter
