import RowFilter.Batch.CellText
import RowFilter.Batch.TextCell

/-!
# Literals as cells

`Literal.toCell` casts a literal to the type of a column, in which it is then compared.  A value
that the type cannot hold is refused, never cut off; only the fraction of a number or of an
instant is dropped or rounded where the type has no room for it.
-/

namespace RowFilter

/-- The value of a floating point type nearest to a number.  The narrowest type is reached by
way of single precision. -/
def FloatSize.nearest (size : FloatSize) (x : Floating) : Floating :=
  match size with
  | .w16 => (x.toFormat .single).toFormat .half
  | .w32 => x.toFormat .single
  | .w64 => x.toFormat .double

/-- The value of a floating point type nearest to an integer. -/
def FloatSize.nearestInt (size : FloatSize) (n : Int) : Floating :=
  match size with
  | .w16 => (FloatFormat.single.ofInt n).toFormat .half
  | .w32 => FloatFormat.single.ofInt n
  | .w64 => FloatFormat.double.ofInt n

/-- Whether the values of a type can be put in a dictionary one by one. -/
def DataType.isPackable : DataType → Bool
  | .int _ | .uint _ | .float _ | .decimal _ _ _ | .date32 | .date64 | .timestamp _ _ => true
  | .timeOfDay wide unit => if wide then unit == .microsecond || unit == .nanosecond
    else unit == .second || unit == .millisecond
  | .text layout => layout != .view
  | .binary _ | .fixedBinary _ => true
  | _ => false

namespace Literal

/-- The decimal number of an integer; a negative scale drops digits. -/
def decimalOfInt (wide : Bool) (precision : Nat) (scale : Int) (n : Int) : Casting :=
  let bits := Casting.decimalBits wide
  let unit : Int := tenPow scale.natAbs
  if !fitsSigned bits unit then .error .cast
  else if scale < 0 then Casting.decimal precision (n.tdiv unit)
  else if fitsSigned bits (n * unit) then Casting.decimal precision (n * unit)
  else .error .overflow

/-- The power of ten of a scale as a double, by repeated squaring. -/
def scaleFactor (scale : Int) : Floating :=
  let one := FloatFormat.double.ofInt 1
  let power := one.mulPower .double 8 (FloatFormat.double.ofInt 10) scale.natAbs
  if scale < 0 then one.div .double power else power

/-- The decimal number of a double: its product with the power of ten, rounded to a double and
then to an integer, a tie going away from zero. -/
def decimalOfFloat (wide : Bool) (precision : Nat) (scale : Int) (x : Floating) : Casting :=
  match (x.mul .double (scaleFactor scale)).nearestInt? with
  | none => .error .cast
  | some n =>
    if fitsSigned (Casting.decimalBits wide) n then Casting.decimal precision n else .error .cast

/-- The last bytes of a number, the least first. -/
def lastBytes : Nat → Nat → List UInt8
  | 0, _ => []
  | count + 1, n => UInt8.ofNat (n % 256) :: lastBytes count (n / 256)

/-- The bytes of a word of sixty-four bits, the least first. -/
def wordBytes (n : Int) : List UInt8 :=
  lastBytes 8 (n % twoPow 64).toNat

/-- An integer in a type of numbers, truth values or texts; nothing where the type is
neither. -/
def ofNumber? (n : Int) : DataType → Option Casting
  | .boolean => some (.ok (some (.bool (n != 0))))
  | .int size => some (Casting.count size.bits n)
  | .uint size => some (if fitsUnsigned size.bits n then .ok (some (.int n)) else .error .cast)
  | .float size => some (.ok (some (.float (size.nearestInt n))))
  | .text _ => some (.ok (some (.text (signedText n))))
  | .binary _ => some (.ok (some (.bytes (wordBytes n))))
  | .decimal wide precision scale => some (decimalOfInt wide precision scale n)
  | .timestamp _ _ | .duration _ => some (Casting.count 64 n)
  | _ => none

/-- A truth value in a type. -/
def castBool (b : Bool) : DataType → Casting
  | .boolean => .ok (some (.bool b))
  | .int _ | .uint _ => .ok (some (.int (if b then 1 else 0)))
  | .float size => .ok (some (.float (size.nearestInt (if b then 1 else 0))))
  | .text _ => .ok (some (.text (boolText b)))
  | _ => .error .cast

/-- A signed integer in a type.  It counts days, milliseconds or ticks in the types of time. -/
def castInt (n : Int) (type : DataType) : Casting :=
  match type with
  | .date32 => Casting.count 32 n
  | .date64 | .timeOfDay true _ => Casting.count 64 n
  | _ => (ofNumber? n type).getD (.error .cast)

/-- An unsigned integer in a type. -/
def castUint (n : Nat) (type : DataType) : Casting :=
  (ofNumber? n type).getD (.error .cast)

/-- A floating point number in a type.  Its fraction is dropped where the type counts. -/
def castFloat (x : Floating) (type : DataType) : Casting :=
  let truncated (fits : Int → Bool) : Casting :=
    Casting.orRefuse ((x.truncate?.filter fits).map .int)
  match type with
  | .boolean => .ok (some (.bool (!x.isZero)))
  | .int size => truncated (fitsSigned size.bits)
  | .uint size => truncated (fitsUnsigned size.bits)
  | .float size => .ok (some (.float (size.nearest x)))
  | .text _ => .ok (some (.text (x.text .double .cell)))
  | .decimal wide precision scale => decimalOfFloat wide precision scale x
  | .timestamp _ _ | .duration _ => truncated (fitsSigned 64)
  | _ => .error .cast

/-- A date in a type: midnight of the day in the types of time, of which the ticks are held in
sixty-four bits. -/
def castDate (days : Int) : DataType → Casting
  | .date32 => .ok (some (.int days))
  | .date64 => .ok (some (.int (days * 86400000)))
  | .timestamp unit zone =>
    Casting.localTicks unit zone (wrapSigned 64 (days * (dayNanos / unit.nanos)))
  | .int .w32 | .int .w64 => .ok (some (.int days))
  | .text _ => (Column.dateText days).map fun s => some (.text s)
  | _ => .error .cast

/-- An instant in a type.  The part of it that is finer than the type is dropped. -/
def castInstant (nanos : Int) (type : DataType) : Casting :=
  match type with
  | .date32 => .ok (some (.int (nanos / dayNanos)))
  | .date64 => .ok (some (.int (nanos.tdiv 1000000)))
  | .timestamp unit zone => Casting.localTicks unit zone (nanos.tdiv unit.nanos)
  | .timeOfDay _ unit => .ok (some (.int (nanos % dayNanos / unit.nanos)))
  | .int _ | .uint _ | .float _ | .decimal _ _ _ => castInt nanos type
  | .text _ => (Column.instantText none nanos).map fun s => some (.text s)
  | _ => .error .cast

/-- A literal in a type that is neither a list nor a dictionary. -/
def castFlat (literal : Literal) (type : DataType) : Casting :=
  match literal with
  | .null => .ok none
  | .bool b => castBool b type
  | .int n => castInt n type
  | .uint n => castUint n type
  | .float x => castFloat x type
  | .text s => castText s type
  | .date days => castDate days type
  | .instant nanos => castInstant nanos type

/-- A literal in a type.  In a list it has to fit the type of the items, and in a dictionary
that of the values. -/
def toCell (literal : Literal) (type : DataType) : Casting :=
  if literal.isNull then .ok none
  else
    match type with
    | .dictionary _ value => if value.isPackable then literal.castFlat value else .error .cast
    | .list .short item | .list .long item | .fixedList item 1 =>
      (literal.toCell item).map fun _ => none
    | type => literal.castFlat type

end Literal

end RowFilter
