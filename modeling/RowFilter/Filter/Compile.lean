import RowFilter.Filter.Path
import RowFilter.Operand.Coercion

/-!
# Compilation

`Compiler.compile` is the plan that asks a data store for the condition an expression stands
for.  Comparisons are compiled in the order in which they are written; the first thing that
fails ends the plan.  An expression without comparisons stands for no condition.
-/

namespace RowFilter

variable {Field Predicate : Type}

/-- What a compilation is given: the types of fields, and how operands become literals. -/
structure Compiler (Field : Type) where
  typeOf : Field → DataType
  coercion : Coercion

namespace Compiler

/-- Asks for the condition that a field stands in a relation to a literal. -/
def relate (field : Field) (relation : Relation) (literal : Literal) :
    Call Field Predicate .predicate :=
  match relation, literal with
  | .eq, .null => .isNull field
  | .ne, .null => .notNull field
  | _, _ => .compare relation field literal

/-- Asks for the condition that a text is found in a field.  The wildcards in the text keep
their meaning. -/
def find (field : Field) (kind : TextMatch) (literal : Literal) : Call Field Predicate .predicate :=
  match kind with
  | .startsWith => .like field (literal.toText ++ "%")
  | .endsWith => .like field ("%" ++ literal.toText)
  | .contains => .like field ("%" ++ literal.toText ++ "%")
  | .notContains => .notLike field ("%" ++ literal.toText ++ "%")

/-- Applies an operator to a field and a single literal. -/
def applyLiteral (path : String) (type : DataType) (field : Field) (op : Operator)
    (literal : Literal) : Plan Field Predicate Predicate :=
  if op.isOrdering && !type.isOrderable then .fail (.notComparable path type)
  else if literal.isNull && (op.isOrdering || op.isTextMatch) then
    .fail (.unsupportedOperand (.null op path))
  else
    match op with
    | .relation relation => .predicate (relate field relation literal)
    | .textMatch kind => .predicate (find field kind literal)
    | .membership _ => .fail (.grammar (.listNeeded op path))

/-- Applies a membership to a field and literals. -/
def applyLiterals (field : Field) (op : Operator) (literals : List Literal) :
    Plan Field Predicate Predicate :=
  .bind (.predicate (.isIn field literals)) fun found =>
    if op = .membership .noneOf then .predicate (.not found) else .done found

/-- The field to compare: in lower case where letter case does not count. -/
def folded (compiler : Compiler Field) (field : Field) : Plan Field Predicate Field :=
  if compiler.coercion.foldsCase (compiler.typeOf field) then .ask .field (.lower field) .done
  else .done field

/-- Compiles a comparison: resolves its path, makes literals of its operand and applies its
operator. -/
def comparison (compiler : Compiler Field) (path : String) (op : Operator) (operand : Operand) :
    Plan Field Predicate Predicate :=
  (Path.resolve compiler.typeOf path).bind fun resolved =>
    let type := compiler.typeOf resolved
    (compiler.folded resolved).bind fun field =>
      match operand, op.takesList with
      | .scalar value, false =>
        (Plan.ofExcept (compiler.coercion.literal type value)).bind fun literal =>
          applyLiteral path type field op literal
      | .list values, true =>
        (Plan.ofExcept (compiler.coercion.literals type values)).bind fun literals =>
          applyLiterals field op literals
      | _, _ => .fail (.grammar (.operandRefused op path operand))

/-- The opposite of a condition, if there is one. -/
def opposite : Option Predicate → Plan Field Predicate (Option Predicate)
  | none => .done none
  | some condition => .ask .predicate (.not condition) fun opposed => .done (some opposed)

/-- Two conditions joined, if both are there; otherwise the one that is. -/
def joined (op : Connective) :
    Option Predicate → Option Predicate → Plan Field Predicate (Option Predicate)
  | left, none => .done left
  | none, some right => .done (some right)
  | some left, some right =>
    .ask .predicate (.join op left right) fun both => .done (some both)

mutual

/-- Compiles an expression. -/
def compile (compiler : Compiler Field) : FilterExpr → Plan Field Predicate (Option Predicate)
  | .empty => .done none
  | .comparison path op operand =>
    (compiler.comparison path op operand).bind fun condition => .done (some condition)
  | .group op children => compiler.compileAll op none children
  | .negation child => (compiler.compile child).bind opposite

/-- Compiles the conditions of a group one after the other, on top of those before. -/
def compileAll (compiler : Compiler Field) (op : Connective) (before : Option Predicate) :
    List FilterExpr → Plan Field Predicate (Option Predicate)
  | [] => .done before
  | child :: rest =>
    (compiler.compile child).bind fun condition =>
      (joined op before condition).bind fun both => compiler.compileAll op both rest

end

end Compiler

end RowFilter
