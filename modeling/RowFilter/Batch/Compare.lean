import RowFilter.Batch.LiteralCell
import RowFilter.Batch.Mask
import RowFilter.Filter.Operator

/-!
# Comparing cells

`Cell.compare` puts the values of a type in order: false before true, numbers by size with the
floating point ones in their total order, and texts by code points.  `Column.relate` is the mask
of the rows whose value stands in a relation to a literal, in which a null is in no relation.
-/

namespace RowFilter

namespace Cell

/-- The place of a kind of values among the kinds. -/
def rank : Cell → Nat
  | .bool _ => 0
  | .int _ => 1
  | .float _ => 2
  | .text _ => 3
  | .bytes _ => 4

/-- How two values stand to each other. -/
def compare : Cell → Cell → Ordering
  | .bool a, .bool b => Ord.compare a.toNat b.toNat
  | .int a, .int b => Ord.compare a b
  | .float a, .float b => Ord.compare a.orderKey b.orderKey
  | .text a, .text b => Ord.compare a b
  | .bytes a, .bytes b => Ord.compare (a.map UInt8.toNat) (b.map UInt8.toNat)
  | a, b => Ord.compare a.rank b.rank

end Cell

/-- Whether a relation holds, given how two values stand to each other. -/
def Relation.holds : Relation → Ordering → Bool
  | .eq, order => order == .eq
  | .ne, order => order != .eq
  | .gt, order => order == .gt
  | .ge, order => order != .lt
  | .lt, order => order == .lt
  | .le, order => order != .gt

namespace Column

/-- Whether two values, either of which may be null, stand in a relation; null if either is. -/
def relateCells (relation : Relation) : Option Cell → Option Cell → Option Bool
  | some a, some b => some (relation.holds (a.compare b))
  | _, _ => none

/-- Integers as doubles, each the nearest one. -/
def toDoubles (cells : List (Option Cell)) : List (Option Cell) :=
  cells.map fun cell => cell.map fun
    | .int n => .float (FloatFormat.double.ofInt n)
    | other => other

/-- The values of a column and a literal, both in the type in which they are compared: that of
the column, except that an integer is compared with a number with a fraction in double
precision. -/
def operands (column : Column) (literal : Literal) :
    Except FilterError (DataType × List (Option Cell) × Option Cell) :=
  let cast (type : DataType) (cells : List (Option Cell)) :
      Except FilterError (DataType × List (Option Cell) × Option Cell) :=
    match literal.toCell type with
    | .ok cell => .ok (type, cells, cell)
    | .error fault => .error (.conversion literal.toText type (.cast fault))
  match column with
  | .leaf type cells =>
    match literal, type.isInteger with
    | .float _, true => cast (.float .w64) (toDoubles cells)
    | _, _ => cast type cells
  | .dictionary _ _ _ =>
    match column.decoded with
    | .leaf _ cells => cast column.type cells
    | _ => cast column.type []
  | .record _ _ _ => cast column.type []

/-- Whether a literal that is put in a dictionary of the type is left without its zone, so that
the two are of different types. -/
def losesZone : DataType → Bool
  | .dictionary _ (.timestamp _ (some _)) => true
  | _ => false

/-- The rows of the column at a path whose value stands in a relation to a literal. -/
def relate (path : String) (relation : Relation) (column : Column) (literal : Literal) :
    Except FilterError Mask :=
  match operands column literal with
  | .error error => .error error
  | .ok (type, cells, cell) =>
    if type.isNested || (!literal.isNull && losesZone type) then
      .error (.backend (.comparison path))
    else .ok (Mask.twoValued (cells.map fun entry => relateCells relation entry cell))

end Column

end RowFilter
