import RowFilter.Schema.DataType

/-!
# Columns

A `Column` holds the values of a field for the rows of a batch, null where it is `none`.  A
dictionary column holds keys into a column of values, and a record column has a column for each
of its fields and says which of its rows are not null.  `Column.take` picks rows by position,
`Column.keep` by a list of truth values, and `Column.under` makes those rows null that are null
in the record around the column.
-/

namespace RowFilter

/-- A value of a column.  Dates, times and durations are counts, decimals their unscaled
integers. -/
inductive Cell where
  | bool (value : Bool)
  | int (value : Int)
  | float (value : Floating)
  | text (value : String)
  | bytes (value : List UInt8)
deriving DecidableEq, Repr, Inhabited

/-- The values of a field for the rows of a batch. -/
inductive Column where
  | leaf (type : DataType) (cells : List (Option Cell))
  | dictionary (key : DataType) (keys : List (Option Nat)) (values : Column)
  | record (valid : Option (List Bool)) (fields : List (String × Column)) (rows : Nat)
deriving Repr, Inhabited

namespace Column

/-- The number of rows. -/
def rows : Column → Nat
  | .leaf _ cells => cells.length
  | .dictionary _ keys _ => keys.length
  | .record _ _ rows => rows

mutual

/-- The type of a column. -/
def type : Column → DataType
  | .leaf type _ => type
  | .dictionary key _ values => .dictionary key values.type
  | .record _ fields _ => .struct (fieldTypes fields)

/-- The types of the fields of a record. -/
def fieldTypes : List (String × Column) → List (String × DataType)
  | [] => []
  | (name, column) :: rest => (name, column.type) :: fieldTypes rest

end

/-! ### Picking rows -/

/-- The entries at some positions; nothing for no position and for one beyond the end. -/
def pick {α : Type} (entries : List (Option α)) (positions : List (Option Nat)) :
    List (Option α) :=
  positions.map fun position => position.bind fun i => (entries[i]?).join

mutual

/-- The rows at some positions; null for no position. -/
def take (positions : List (Option Nat)) : Column → Column
  | .leaf type cells => .leaf type (pick cells positions)
  | .dictionary key keys values => .dictionary key (pick keys positions) values
  | .record valid fields rows =>
    let present (i : Nat) : Bool :=
      match valid with
      | none => i < rows
      | some flags => flags.getD i false
    .record (some (positions.map fun position => position.any present))
      (takeFields positions fields) positions.length

/-- The rows of the fields of a record at some positions. -/
def takeFields (positions : List (Option Nat)) :
    List (String × Column) → List (String × Column)
  | [] => []
  | (name, column) :: rest => (name, column.take positions) :: takeFields positions rest

end

/-- The entries that are marked. -/
def marked {α : Type} : List Bool → List α → List α
  | true :: marks, entry :: entries => entry :: marked marks entries
  | false :: marks, _ :: entries => marked marks entries
  | _, _ => []

mutual

/-- The rows that are marked. -/
def keep (marks : List Bool) : Column → Column
  | .leaf type cells => .leaf type (marked marks cells)
  | .dictionary key keys values => .dictionary key (marked marks keys) values
  | .record valid fields _ =>
    .record (valid.map (marked marks)) (keepFields marks fields) (marks.count true)

/-- The rows of the fields of a record that are marked. -/
def keepFields (marks : List Bool) : List (String × Column) → List (String × Column)
  | [] => []
  | (name, column) :: rest => (name, column.keep marks) :: keepFields marks rest

end

/-! ### Dictionaries -/

/-- A column without its dictionary; the values may have one of their own. -/
def unpack : Column → Column
  | .dictionary _ keys values => values.take keys
  | column => column

/-- A column without any dictionary around its values. -/
def decoded : Column → Column
  | .dictionary _ keys values => values.decoded.take keys
  | column => column

/-! ### Nulls -/

/-- The entries that are marked, nothing in place of the others. -/
def masked {α : Type} (marks : List Bool) (entries : List (Option α)) : List (Option α) :=
  List.zipWith (fun mark entry => if mark then entry else none) marks entries

/-- Whether a column of a type can mark single rows as null. -/
def marksNulls : DataType → Bool
  | .null | .union _ | .runs _ => false
  | _ => true

/-- A column inside a record of which only the marked rows are not null.  Nothing when rows
become null in a column that cannot mark them. -/
def under (valid : Option (List Bool)) (column : Column) : Option Column :=
  match valid with
  | none => some column
  | some marks =>
    if marks.all id then some column
    else
      match column with
      | .leaf type cells =>
        if marksNulls type then some (.leaf type (masked marks cells)) else none
      | .dictionary key keys values => some (.dictionary key (masked marks keys) values)
      | .record valid fields rows =>
        some (.record (some (List.zipWith Bool.and marks (valid.getD (List.replicate rows true))))
          fields rows)

/-- Whether each row is null. -/
def nulls (column : Column) : List Bool :=
  match column.decoded with
  | .leaf _ cells => cells.map Option.isNone
  | .dictionary _ keys _ => keys.map Option.isNone
  | .record valid _ rows =>
    match valid with
    | none => List.replicate rows false
    | some marks => marks.map Bool.not

end Column

/-- Columns with names, all of the same number of rows. -/
structure Batch where
  rows : Nat
  columns : List (String × Column)
deriving Repr, Inhabited

end RowFilter
