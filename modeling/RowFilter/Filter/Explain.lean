import RowFilter.Filter.Plan

/-!
# Explanation

`Schema.explain` is a backend that knows only the names and types of the fields.  A condition is
its own description: the name of the call with its arguments, so that running a plan on it shows
what the plan asks for.  One primitive can be made to fail.
-/

namespace RowFilter

/-- The fields at the root, with their types. -/
abbrev Schema := List (String × DataType)

/-- A field that is described by a text. -/
structure DescribedField where
  description : String
  type : DataType
deriving Repr

namespace Relation

/-- The name of the primitive for a relation. -/
def primitive : Relation → String
  | .eq => "eq"
  | .ne => "ne"
  | .gt => "gt"
  | .ge => "ge"
  | .lt => "lt"
  | .le => "le"

end Relation

namespace Explain

/-- The name of the primitive that a call uses. -/
def primitive {Field Predicate : Type} {kind : CallKind} : Call Field Predicate kind → String
  | .root _ => "root"
  | .nested _ _ => "nested"
  | .lower _ => "lower"
  | .compare relation _ _ => relation.primitive
  | .isNull _ => "isnull"
  | .notNull _ => "notnull"
  | .like _ _ => "like"
  | .notLike _ _ => "notlike"
  | .isIn _ _ => "in"
  | .not _ => "not"
  | .join op _ _ => op.symbol

/-- The arguments of a call, as texts. -/
def arguments {kind : CallKind} : Call DescribedField String kind → List String
  | .root name => [name]
  | .nested parent name => [parent.description, name]
  | .lower field => [field.description]
  | .compare _ field literal => [field.description, literal.toJson.compact]
  | .isNull field => [field.description]
  | .notNull field => [field.description]
  | .like field pattern => [field.description, pattern]
  | .notLike field pattern => [field.description, pattern]
  | .isIn field literals =>
    [field.description,
     "[" ++ String.intercalate ", " (literals.map fun literal => literal.toJson.compact) ++ "]"]
  | .not predicate => [predicate]
  | .join _ left right => [left, right]

/-- A call as a text. -/
def describe {kind : CallKind} (call : Call DescribedField String kind) : String :=
  primitive call ++ "(" ++ String.intercalate ", " (arguments call) ++ ")"

/-- The field of a name inside a field: only structs have any. -/
def nestedField (parent : DescribedField) (name : String) : Option DescribedField :=
  match parent.type with
  | .struct fields =>
    (fields.lookup name).map fun type => ⟨parent.description ++ "." ++ name, type⟩
  | _ => none

/-- The answer to a call that does not fail. -/
def answer (schema : Schema) :
    (kind : CallKind) → Call DescribedField String kind → Answer DescribedField String kind
  | .lookup, .root name => (schema.lookup name).map fun type => ⟨name, type⟩
  | .lookup, .nested parent name => nestedField parent name
  | .field, .lower field => ⟨describe (.lower field), field.type⟩
  | .predicate, call => describe call

end Explain

/-- The backend that describes what it is asked for; the primitive `failing` fails. -/
def Schema.explain (schema : Schema) (failing : Option String) : Backend DescribedField String where
  answer kind call :=
    if failing = some (Explain.primitive call) then
      .error (.backend (.injected (Explain.primitive call)))
    else .ok (Explain.answer schema kind call)

end RowFilter
