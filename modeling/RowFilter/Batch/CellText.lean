import RowFilter.Batch.Column
import RowFilter.Calendar.Instant
import RowFilter.Calendar.Zone
import RowFilter.Error
import RowFilter.Operand.Literal

/-!
# The texts of a column

`Column.texts` gives every value of a column as a text, which patterns are matched against and
which letter case is taken off.  The types of which no value has a text are refused, and so are
values that the calendar does not reach.
-/

namespace RowFilter

namespace Column

/-- The text of a floating point cell.  The narrowest ones are written as messages show their
values in single precision. -/
def floatText (size : FloatSize) (x : Floating) : String :=
  match size with
  | .w16 => (x.toFormat .single).text .single .plain
  | .w32 => x.text .single .singleCell
  | .w64 => x.text .double .cell

/-- The text of the digits of a decimal number with `scale` of them after the point.  No more
digits than the precision are shown, and a negative scale fills up with zeros. -/
def decimalCellText (precision : Nat) (scale : Int) (n : Int) : String :=
  let sign := if n < 0 then ['-'] else []
  let digits := decimalDigits n.natAbs
  let shown := digits.take precision
  String.ofList <|
    if scale = 0 then sign ++ shown
    else if scale < 0 then sign ++ shown ++ List.replicate (-scale).toNat '0'
    else
      let places := scale.toNat
      if places < digits.length then
        let whole := shown.length - places
        sign ++ shown.take whole ++ '.' :: shown.drop whole
      else sign ++ '0' :: '.' :: (List.replicate (places - digits.length) '0' ++ digits)

/-- The format of a date with a time of day in a cell. -/
def momentFormat : List FormatItem :=
  dateFormat ++ .literal 'T' :: clockFormat

/-- The text of an instant at an offset from universal time, which is shown if there is one. -/
def instantText (offset : Option Int) (nanos : Int) : Except CastFault String :=
  match momentOf? nanos, momentOf? (nanos + offset.getD 0 * secondNanos) with
  | some _, some (date, clock) =>
    let moment := Format.write momentFormat date clock
    .ok (match offset with
      | none => moment
      | some seconds => moment ++ Zone.offsetText seconds)
  | _, _ => .error .cast

/-- The text of a date. -/
def dateText (days : Int) : Except CastFault String :=
  match Date.ofDays? days with
  | some date => .ok date.text
  | none => .error .cast

/-- The text of a time of day, given in ticks.  Its seconds are held in an unsigned word of
thirty-two bits. -/
def clockText (unit : TimeUnit) (ticks : Int) : Except CastFault String :=
  let perSecond := secondNanos / unit.nanos
  let second := ticks.tdiv perSecond % twoPow 32
  let fraction := ticks.tmod perSecond * unit.nanos
  if second < 86400 ∧ 0 ≤ fraction then
    match momentOf? (second * secondNanos + fraction) with
    | some (date, clock) => .ok (Format.write clockFormat date clock)
    | none => .error .cast
  else .error .cast

/-- The greatest span of time that has a text, in nanoseconds. -/
def longestSpan : Nat :=
  (twoPow 63 - 1) * 1000000

/-- The text of a span of time, given in nanoseconds: seconds with a fraction. -/
def durationText (nanos : Int) : String :=
  let sign := if nanos < 0 then "-" else ""
  let magnitude := nanos.natAbs
  if magnitude = 0 then "P0D"
  else if longestSpan < magnitude then "<invalid>"
  else
    let fraction := magnitude % 1000000000
    let digits := ((paddedText 9 fraction).toList.reverse.dropWhile (· == '0')).reverse
    sign ++ "PT" ++ decimalText (magnitude / 1000000000)
      ++ (if digits.isEmpty then "" else "." ++ String.ofList digits) ++ "S"

mutual

/-- Why the values of a type have no text inside a list, if they have none. -/
def itemFault? : DataType → Option CastFault
  | .list .short item | .list .long item | .fixedList item _ => itemFault? item
  | .list _ _ => some .unsupported
  | .timestamp _ (some zone) => if (Zone.offset? zone).isNone then some .parse else none
  | .dictionary _ value | .runs value | .union value => itemFault? value
  | .map key value => (itemFault? key).or (itemFault? value)
  | .struct fields => fieldFault? fields
  | _ => none

/-- The fault of the first field whose values have no text inside a list. -/
def fieldFault? : List (String × DataType) → Option CastFault
  | [] => none
  | (_, type) :: rest => (itemFault? type).or (fieldFault? rest)

end

/-- How the cells of a column of a type are written; a fault for a type without texts.  A list
of one item in each row is written as its items are. -/
def cellWriter : DataType → Except CastFault (Cell → Except CastFault (Option String))
  | .text _ => .ok fun
    | .text s => .ok (some s)
    | _ => .ok none
  | .binary _ => .ok fun
    | .bytes bytes => .ok (String.fromUTF8? ⟨bytes.toArray⟩)
    | _ => .ok none
  | .boolean => .ok fun
    | .bool b => .ok (some (Literal.boolText b))
    | _ => .ok none
  | .float size => .ok fun
    | .float x => .ok (some (floatText size x))
    | _ => .ok none
  | .int _ | .uint _ => writeInt fun n => .ok (signedText n)
  | .decimal _ precision scale => writeInt fun n => .ok (decimalCellText precision scale n)
  | .date32 => writeInt dateText
  | .date64 => writeInt fun n => instantText none (n * 1000000)
  | .timestamp unit none => writeInt fun n => instantText none (n * unit.nanos)
  | .timestamp unit (some zone) =>
    match Zone.offset? zone with
    | some offset => writeInt fun n => instantText (some offset) (n * unit.nanos)
    | none => .error .parse
  | .timeOfDay _ unit => writeInt (clockText unit)
  | .duration unit => writeInt fun n => .ok (durationText (n * unit.nanos))
  | .null | .interval => .ok fun _ => .ok none
  | .list .short item | .list .long item =>
    match itemFault? item with
    | none => .ok fun _ => .ok none
    | some fault => .error fault
  | .fixedList item 1 | .dictionary _ item => cellWriter item
  | _ => .error .cast
where
  /-- Writes cells that are counts. -/
  writeInt (write : Int → Except CastFault String) :
      Except CastFault (Cell → Except CastFault (Option String)) :=
    .ok fun
      | .int n => (write n).map some
      | _ => .ok none

/-- Writes the cells that are not null. -/
def writeCells (write : Cell → Except CastFault (Option String)) :
    List (Option Cell) → Except CastFault (List (Option String))
  | [] => .ok []
  | none :: rest => (writeCells write rest).map (none :: ·)
  | some cell :: rest => do
    let first ← write cell
    let others ← writeCells write rest
    return first :: others

/-- The values of a column as texts.  Those of a dictionary are written whether or not a row
refers to them. -/
def texts : Column → Except CastFault (List (Option String))
  | .leaf type cells => do
    let write ← cellWriter type
    writeCells write cells
  | .dictionary _ keys values => values.texts.map fun written => pick written keys
  | .record _ _ _ => .error .cast

end Column

end RowFilter
