import RowFilter.Number.Floating

/-!
# Data types

A `DataType` is the declared type of a field.  Types differ in what their values are and also in
how these are stored: a dictionary stores each value once and refers to it by a key.
`DataType.isTextual` holds of the types whose values are texts, and `DataType.isOrderable` of
those whose values are in order.
-/

namespace RowFilter

/-- The width of an integer type. -/
inductive IntSize where
  | w8
  | w16
  | w32
  | w64
deriving DecidableEq, Repr

/-- The number of bits of an integer type. -/
def IntSize.bits : IntSize → Nat
  | .w8 => 8
  | .w16 => 16
  | .w32 => 32
  | .w64 => 64

/-- The width of a floating point type. -/
inductive FloatSize where
  | w16
  | w32
  | w64
deriving DecidableEq, Repr

/-- The format of the values of a floating point type. -/
def FloatSize.format : FloatSize → FloatFormat
  | .w16 => .half
  | .w32 => .single
  | .w64 => .double

/-- The layout in which texts or bytes of any length are stored. -/
inductive TextLayout where
  | short
  | long
  | view
deriving DecidableEq, Repr

/-- The layout in which lists of any length are stored. -/
inductive ListLayout where
  | short
  | long
  | shortView
  | longView
deriving DecidableEq, Repr

/-- What a count of time counts. -/
inductive TimeUnit where
  | second
  | millisecond
  | microsecond
  | nanosecond
deriving DecidableEq, Repr

/-- The nanoseconds of a unit. -/
def TimeUnit.nanos : TimeUnit → Int
  | .second => 1000000000
  | .millisecond => 1000000
  | .microsecond => 1000
  | .nanosecond => 1

/-- The type of a field. -/
inductive DataType where
  /-- No value but null. -/
  | null
  | boolean
  | int (size : IntSize)
  | uint (size : IntSize)
  | float (size : FloatSize)
  | text (layout : TextLayout)
  | binary (long : Bool)
  | fixedBinary (bytes : Nat)
  /-- Days since the epoch. -/
  | date32
  /-- Milliseconds since the epoch, of which whole days are meant. -/
  | date64
  | interval
  /-- Ticks since the epoch; the zone says in which local time they are shown. -/
  | timestamp (unit : TimeUnit) (zone : Option String)
  | timeOfDay (wide : Bool) (unit : TimeUnit)
  | duration (unit : TimeUnit)
  /-- Decimal numbers of a number of digits, of which `scale` stand after the point. -/
  | decimal (wide : Bool) (precision : Nat) (scale : Int)
  | dictionary (key value : DataType)
  | list (layout : ListLayout) (item : DataType)
  | fixedList (item : DataType) (size : Nat)
  | map (key value : DataType)
  | union (member : DataType)
  | runs (value : DataType)
  | struct (fields : List (String × DataType))
deriving Repr, Inhabited

namespace DataType

/-- Whether the values are texts, stored directly or in a dictionary. -/
def isTextual : DataType → Bool
  | .text _ => true
  | .dictionary _ value => value.isTextual
  | _ => false

/-- Whether the values of the type are in order. -/
def isOrderable : DataType → Bool
  | .null | .struct _ | .list _ _ | .fixedList _ _ | .map _ _ | .union _ | .runs _ => false
  | .dictionary _ value => value.isOrderable
  | _ => true

/-- Whether the values are integers of at most sixty-four bits. -/
def isInteger : DataType → Bool
  | .int _ | .uint _ => true
  | _ => false

/-- Whether the values have parts that are values of other types.  Runs and dictionaries have
the values that they are made of. -/
def isNested : DataType → Bool
  | .struct _ | .list _ _ | .fixedList _ _ | .map _ _ | .union _ => true
  | .runs value | .dictionary _ value => value.isNested
  | _ => false

end DataType

end RowFilter
