import RowFilter.Filter.Note
import RowFilter.Operand.Literal

/-!
# Plans

A `Call` asks a data store for one thing: a field, a condition on a field, or a combination of
conditions.  A `Plan` is a computation that makes calls one after the other, each depending on
the answers before it; nothing else happens between two calls except notes.  A `Backend` answers
calls. `Plan.run` is the outcome of a plan on a backend, and `Plan.calls` and `Plan.notes` are
the calls and the notes made on the way, which end with the first call that fails.
-/

namespace RowFilter

/-- What a call asks for. -/
inductive CallKind where
  | lookup
  | field
  | predicate
deriving DecidableEq, Repr

/-- What a call is answered with. -/
def Answer (Field Predicate : Type) : CallKind → Type
  | .lookup => Option Field
  | .field => Field
  | .predicate => Predicate

/-- A request to a data store. -/
inductive Call (Field Predicate : Type) : CallKind → Type where
  /-- The field of a name at the root, if there is one. -/
  | root (name : String) : Call Field Predicate .lookup
  /-- The field of a name inside a field, if there is one. -/
  | nested (parent : Field) (name : String) : Call Field Predicate .lookup
  /-- The field with its texts in lower case. -/
  | lower (field : Field) : Call Field Predicate .field
  /-- The condition that a field stands in a relation to a literal. -/
  | compare (relation : Relation) (field : Field) (literal : Literal) :
    Call Field Predicate .predicate
  /-- The condition that a field is null. -/
  | isNull (field : Field) : Call Field Predicate .predicate
  /-- The condition that a field is not null. -/
  | notNull (field : Field) : Call Field Predicate .predicate
  /-- The condition that a field has the shape of a pattern. -/
  | like (field : Field) (pattern : String) : Call Field Predicate .predicate
  /-- The condition that a field has not the shape of a pattern. -/
  | notLike (field : Field) (pattern : String) : Call Field Predicate .predicate
  /-- The condition that a field is one of some literals. -/
  | isIn (field : Field) (literals : List Literal) : Call Field Predicate .predicate
  /-- The opposite of a condition. -/
  | not (predicate : Predicate) : Call Field Predicate .predicate
  /-- Two conditions joined. -/
  | join (op : Connective) (left right : Predicate) : Call Field Predicate .predicate

/-- A computation that makes calls. -/
inductive Plan (Field Predicate : Type) (α : Type) where
  | done (result : α)
  | fail (error : FilterError)
  | note (note : Note) (rest : Plan Field Predicate α)
  | ask (kind : CallKind) (call : Call Field Predicate kind)
      (next : Answer Field Predicate kind → Plan Field Predicate α)

/-- A data store that answers calls. -/
structure Backend (Field Predicate : Type) where
  answer : (kind : CallKind) → Call Field Predicate kind →
    Except FilterError (Answer Field Predicate kind)

namespace Plan

variable {Field Predicate α β : Type}

/-- The plan that goes on with the result of another one. -/
def bind (plan : Plan Field Predicate α) (next : α → Plan Field Predicate β) :
    Plan Field Predicate β :=
  match plan with
  | .done result => next result
  | .fail error => .fail error
  | .note event rest => .note event (rest.bind next)
  | .ask kind call rest => .ask kind call fun answer => (rest answer).bind next

/-- The plan without calls that ends as a computation did. -/
def ofExcept : Except FilterError α → Plan Field Predicate α
  | .ok result => .done result
  | .error error => .fail error

/-- The plan that asks for a condition. -/
def predicate (request : Call Field Predicate .predicate) : Plan Field Predicate Predicate :=
  .ask .predicate request fun answer => .done answer

/-- The outcome of a plan on a backend. -/
def run (backend : Backend Field Predicate) : Plan Field Predicate α → Except FilterError α
  | .done result => .ok result
  | .fail error => .error error
  | .note _ rest => rest.run backend
  | .ask kind call next =>
    match backend.answer kind call with
    | .ok answer => (next answer).run backend
    | .error error => .error error

/-- A call together with what it asks for. -/
abbrev Made (Field Predicate : Type) := (kind : CallKind) × Call Field Predicate kind

/-- The calls that a plan makes on a backend, in order, the failing one last. -/
def calls (backend : Backend Field Predicate) :
    Plan Field Predicate α → List (Made Field Predicate)
  | .done _ => []
  | .fail _ => []
  | .note _ rest => rest.calls backend
  | .ask kind call next =>
    ⟨kind, call⟩ ::
      match backend.answer kind call with
      | .ok answer => (next answer).calls backend
      | .error _ => []

/-- The notes that a plan takes on a backend, in order. -/
def notes (backend : Backend Field Predicate) : Plan Field Predicate α → List Note
  | .done _ => []
  | .fail _ => []
  | .note event rest => event :: rest.notes backend
  | .ask kind call next =>
    match backend.answer kind call with
    | .ok answer => (next answer).notes backend
    | .error _ => []

end Plan

end RowFilter
