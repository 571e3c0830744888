import RowFilter.Batch.Casting
import RowFilter.Calendar.ClockText
import RowFilter.Calendar.Interval
import RowFilter.Calendar.Stamp
import RowFilter.Number.Unscaled

/-!
# Texts as cells

`castText` casts a text to the type of a column: it is read as a number, a truth value, a date,
a time or an interval, as the type asks for.
-/

namespace RowFilter

/-- The truth value of a word or of the first letters of one. -/
def readTruth? (text : List Char) : Option Bool :=
  let word := String.ofList (trim (text.map Char.toLower))
  if ["t", "tr", "tru", "true", "y", "ye", "yes", "on", "1"].contains word then some true
  else if ["f", "fa", "fal", "fals", "false", "n", "no", "of", "off", "0"].contains word then
    some false
  else none

/-- A text as a decimal number, which has to have a number of places. -/
def castDecimalText (wide : Bool) (precision : Nat) (scale : Int) (text : List Char) : Casting :=
  if scale < 0 then .error .precision
  else
    match readUnscaled? scale.toNat text with
    | none => .error .cast
    | some n =>
      if fitsSigned (Casting.decimalBits wide) n then Casting.decimal precision n
      else .error .cast

/-- The milliseconds from the epoch to the moment of a text: midnight of a date that takes no
more than ten bytes, or the moment of a stamp. -/
def readMillis? (text : List Char) : Option Int :=
  if byteLength text ≤ 10 then (readDay? text).map fun date => date.toDays * 86400000
  else
    (Stamp.read? text).map fun stamp =>
      stamp.seconds 0 * 1000 + (stamp.clock.nanosecond / 1000000 : Nat)

/-- A text as the ticks of a stamp, taken in a zone if it names none. -/
def castStamp (unit : TimeUnit) (zone : Option String) (text : List Char) : Casting :=
  let offset? := match zone with
    | none => some 0
    | some name => Zone.offset? name
  match offset?, Stamp.read? text with
  | some offset, some stamp => Casting.ticks unit (stamp.seconds offset) stamp.clock.nanosecond
  | _, _ => .error .parse

/-- A text as a time of day: one that is written as such, or else the number of ticks. -/
def castClock (wide : Bool) (unit : TimeUnit) (text : List Char) : Casting :=
  match Clock.read? text with
  | some clock => .ok (some (.int (clock.nanos / unit.nanos)))
  | none =>
    Casting.orRefuse
      (((readInteger? text).filter (fitsSigned (if wide then 64 else 32))).map .int)

/-- A text as an interval, held as one number in the order of the days and then of the
milliseconds. -/
def castInterval (text : List Char) : Casting :=
  match Interval.read text with
  | .error .unreadable => .error .parse
  | .error .overflow => .error .overflow
  | .ok interval =>
    Casting.orRefuse
      (interval.dayTime?.map fun (days, millis) => .int (days * twoPow 32 + millis))

/-- A text in a type. -/
def castText (s : String) (type : DataType) : Casting :=
  let text := s.toList
  let integer (fits : Int → Bool) : Casting :=
    Casting.orRefuse (((readInteger? text).filter fits).map .int)
  match type with
  | .text _ => .ok (some (.text s))
  | .binary _ => .ok (some (.bytes s.toUTF8.toList))
  | .boolean => Casting.orRefuse ((readTruth? text).map .bool)
  | .int size => integer (fitsSigned size.bits)
  | .uint size => integer (fitsUnsigned size.bits)
  | .float .w32 => Casting.orRefuse ((readFloating? .single text).map .float)
  | .float .w64 => Casting.orRefuse ((readFloating? .double text).map .float)
  | .decimal wide precision scale => castDecimalText wide precision scale text
  | .date32 => Casting.orRefuse ((readDay? text).map fun date => .int date.toDays)
  | .date64 => Casting.orRefuse ((readMillis? text).map .int)
  | .timestamp unit zone => castStamp unit zone text
  | .timeOfDay false .second => castClock false .second text
  | .timeOfDay false .millisecond => castClock false .millisecond text
  | .timeOfDay true .microsecond => castClock true .microsecond text
  | .timeOfDay true .nanosecond => castClock true .nanosecond text
  | .interval => castInterval text
  | _ => .error .cast

end RowFilter
