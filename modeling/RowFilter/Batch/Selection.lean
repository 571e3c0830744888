import RowFilter.Batch.Backend
import RowFilter.Filter.Filter

/-!
# Selecting rows

`Filter.apply` keeps the rows of a batch that pass a filter, in their order; a filter that is no
condition keeps them all.
-/

namespace RowFilter

namespace Filter

/-- The mask of a filter on a batch, given the default configuration. -/
def mask (filter : Filter) (otherwise : FilterConfig) (batch : Batch) :
    Except FilterError (Option Mask) :=
  (filter.compile ColumnField.type otherwise).run batch.backend

/-- The rows of a batch that pass a filter, given the default configuration. -/
def apply (filter : Filter) (otherwise : FilterConfig) (batch : Batch) :
    Except FilterError Batch := do
  match ← filter.mask otherwise batch with
  | some mask => batch.select mask
  | none => return batch

/-- The notes of finding the mask of a filter on a batch. -/
def maskNotes (filter : Filter) (otherwise : FilterConfig) (batch : Batch) : List Note :=
  (filter.compile ColumnField.type otherwise).notes batch.backend

/-- The notes of applying a filter to a batch. -/
def applyNotes (filter : Filter) (otherwise : FilterConfig) (batch : Batch) : List Note :=
  filter.maskNotes otherwise batch ++
    match filter.mask otherwise batch, filter.apply otherwise batch with
    | .ok (some _), .ok kept => [.kept kept.rows batch.rows]
    | _, _ => []

end Filter

end RowFilter
