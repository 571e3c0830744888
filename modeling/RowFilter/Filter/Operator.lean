/-!
# Operators

An `Operator` compares a field with an operand; a `Connective` joins conditions.  `symbol` is
the spelling in which each is written, and `ofText?` reads all accepted ones.
-/

namespace RowFilter

/-- How a value stands to another one of its type. -/
inductive Relation where
  | eq
  | ne
  | gt
  | ge
  | lt
  | le
deriving DecidableEq, Repr

/-- Whether the relation is one of order. -/
def Relation.isOrdering : Relation → Bool
  | .eq | .ne => false
  | .gt | .ge | .lt | .le => true

/-- Where a text holds another one. -/
inductive TextMatch where
  | startsWith
  | endsWith
  | contains
  | notContains
deriving DecidableEq, Repr

/-- Whether a value is among others. -/
inductive Membership where
  | anyOf
  | noneOf
deriving DecidableEq, Repr

/-- An operator between a field and an operand. -/
inductive Operator where
  | relation (relation : Relation)
  | textMatch (kind : TextMatch)
  | membership (kind : Membership)
deriving DecidableEq, Repr

namespace Operator

/-- The spelling of an operator. -/
def symbol : Operator → String
  | .relation .eq => "="
  | .relation .ne => "<>"
  | .relation .gt => ">"
  | .relation .ge => ">="
  | .relation .lt => "<"
  | .relation .le => "<="
  | .textMatch .startsWith => "startswith"
  | .textMatch .endsWith => "endswith"
  | .textMatch .contains => "contains"
  | .textMatch .notContains => "notcontains"
  | .membership .anyOf => "anyof"
  | .membership .noneOf => "noneof"

/-- The operator that a text spells. -/
def ofText? (text : String) : Option Operator :=
  match text with
  | "=" | "eq" => some (.relation .eq)
  | "<>" | "ne" => some (.relation .ne)
  | ">" | "gt" => some (.relation .gt)
  | ">=" | "ge" => some (.relation .ge)
  | "<" | "lt" => some (.relation .lt)
  | "<=" | "le" => some (.relation .le)
  | "startswith" => some (.textMatch .startsWith)
  | "endswith" => some (.textMatch .endsWith)
  | "contains" => some (.textMatch .contains)
  | "notcontains" => some (.textMatch .notContains)
  | "anyof" => some (.membership .anyOf)
  | "noneof" => some (.membership .noneOf)
  | _ => none

/-- Whether the operand is a list. -/
def takesList : Operator → Bool
  | .membership _ => true
  | _ => false

/-- Whether the operator needs values that are in order. -/
def isOrdering : Operator → Bool
  | .relation r => r.isOrdering
  | _ => false

/-- Whether the operator looks for a text inside another one. -/
def isTextMatch : Operator → Bool
  | .textMatch _ => true
  | _ => false

end Operator

/-- What joins the conditions of a group. -/
inductive Connective where
  | and
  | or
deriving DecidableEq, Repr

namespace Connective

/-- The spelling of a connective. -/
def symbol : Connective → String
  | .and => "and"
  | .or => "or"

/-- The connective that a text spells, in letters of any case. -/
def ofText? (text : String) : Option Connective :=
  match String.ofList (text.toList.map Char.toLower) with
  | "and" => some .and
  | "or" => some .or
  | _ => none

end Connective

end RowFilter
