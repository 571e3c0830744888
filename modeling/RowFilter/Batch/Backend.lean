import RowFilter.Batch.Compare
import RowFilter.Filter.Compile
import RowFilter.Text.Like

/-!
# Batches as a data store

`Batch.backend` answers calls from the columns of a batch.  A field is a column with its path,
and a condition is a mask without nulls, so that a row in which a comparison meets a null fails
it and passes its opposite.
-/

namespace RowFilter

/-- A column with the path that leads to it. -/
structure ColumnField where
  path : String
  column : Column
deriving Repr, Inhabited

namespace ColumnField

/-- The type of a field. -/
def type (field : ColumnField) : DataType :=
  field.column.type

/-- An outcome of casting as one of the data store. -/
def orFault {α : Type} : Except CastFault α → Except FilterError α
  | .ok value => .ok value
  | .error fault => .error (.backend (.cast fault))

/-- The field of a name inside a field.  A row that is null in the record is null in its
fields. -/
def nested (parent : ColumnField) (name : String) : Except FilterError (Option ColumnField) :=
  match parent.column with
  | .record valid fields _ =>
    match fields.lookup name with
    | none => .ok none
    | some child =>
      match child.under valid with
      | some column => .ok (some ⟨parent.path ++ "." ++ name, column.unpack⟩)
      | none => .error (.backend (.cast .precision))
  | _ => .ok none

/-- The field with its values as texts in lower case. -/
def lower (field : ColumnField) : Except FilterError ColumnField :=
  (orFault field.column.texts).map fun texts =>
    let lowered := texts.map fun text => text.map fun s => Cell.text (lowerText s)
    ⟨field.path, .leaf (.text .short) lowered⟩

/-- The rows whose text has, or has not, the shape of a pattern. -/
def like (field : ColumnField) (pattern : String) (expected : Bool) : Except FilterError Mask :=
  (orFault field.column.texts).map fun texts =>
    Mask.twoValued (texts.map fun text => text.map fun s => likeText pattern s == expected)

/-- The rows whose value stands in a relation to a literal. -/
def relate (field : ColumnField) (relation : Relation) (literal : Literal) :
    Except FilterError Mask :=
  field.column.relate field.path relation literal

/-- The rows that are true in a mask or equal one of some literals. -/
def isInOr (field : ColumnField) (before : Mask) : List Literal → Except FilterError Mask
  | [] => .ok before
  | literal :: rest => do
    let equal ← field.relate .eq literal
    let found ← orFault (Mask.or before equal)
    field.isInOr found rest

end ColumnField

namespace Batch

/-- The field of a name at the root, the first one if there are several. -/
def field? (batch : Batch) (name : String) : Option ColumnField :=
  (batch.columns.lookup name).map fun column => ⟨name, column.unpack⟩

/-- The answer of a batch to a call. -/
def answer (batch : Batch) :
    (kind : CallKind) → Call ColumnField Mask kind →
      Except FilterError (Answer ColumnField Mask kind)
  | .lookup, .root name => .ok (batch.field? name)
  | .lookup, .nested parent name => parent.nested name
  | .field, .lower field => field.lower
  | .predicate, .compare relation field literal => field.relate relation literal
  | .predicate, .isNull field => .ok (Mask.ofBools field.column.nulls)
  | .predicate, .notNull field => .ok (Mask.ofBools (field.column.nulls.map Bool.not))
  | .predicate, .like field pattern => field.like pattern true
  | .predicate, .notLike field pattern => field.like pattern false
  | .predicate, .isIn field literals =>
    field.isInOr (Mask.ofBools (List.replicate field.column.rows false)) literals
  | .predicate, .not mask => .ok mask.not
  | .predicate, .join .and left right => ColumnField.orFault (left.and right)
  | .predicate, .join .or left right => ColumnField.orFault (left.or right)

/-- The backend that answers from the columns of a batch. -/
def backend (batch : Batch) : Backend ColumnField Mask where
  answer kind call := batch.answer kind call

/-- The rows that are marked. -/
def keep (batch : Batch) (marks : List Bool) : Batch :=
  ⟨marks.count true, batch.columns.map fun (name, column) => (name, column.keep marks)⟩

/-- The rows that are true in a mask, which has to have an entry for each row. -/
def select (batch : Batch) (mask : Mask) : Except FilterError Batch :=
  if mask.length = batch.rows then .ok (batch.keep mask.marks)
  else .error (.backend (.maskLength mask.length batch.rows))

end Batch

end RowFilter
