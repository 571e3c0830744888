import RowFilter.Error

/-!
# Masks

A `Mask` has one entry for each row of a batch: true, false or null.  `Mask.twoValued` takes
null for false; `Mask.and` and `Mask.or` are null where either side is.
-/

namespace RowFilter

/-- A truth value or null for each row. -/
abbrev Mask := List (Option Bool)

namespace Mask

/-- The mask of truth values. -/
def ofBools (marks : List Bool) : Mask :=
  marks.map some

/-- The rows that are true. -/
def marks (mask : Mask) : List Bool :=
  mask.map fun entry => entry == some true

/-- The mask with false in place of null. -/
def twoValued (mask : Mask) : Mask :=
  ofBools mask.marks

/-- The opposite of each entry. -/
def not (mask : Mask) : Mask :=
  mask.map fun entry => entry.map Bool.not

/-- Two entries combined, null if either is. -/
def combine (op : Bool → Bool → Bool) : Option Bool → Option Bool → Option Bool
  | some a, some b => some (op a b)
  | _, _ => none

/-- Two masks of one length combined row by row. -/
def zip (op : Bool → Bool → Bool) (left right : Mask) : Except CastFault Mask :=
  if left.length = right.length then .ok (List.zipWith (combine op) left right)
  else .error .compute

/-- The rows where both masks are true. -/
def and (left right : Mask) : Except CastFault Mask :=
  zip Bool.and left right

/-- The rows where at least one mask is true. -/
def or (left right : Mask) : Except CastFault Mask :=
  zip Bool.or left right

end Mask

end RowFilter
