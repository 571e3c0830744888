import RowFilter.Calendar.Instant
import RowFilter.Calendar.Zone
import RowFilter.Batch.Column
import RowFilter.Error

/-!
# Outcomes of casts

A `Casting` is what becomes of a value that is cast to the type of a column: a cell, or a fault
when the type cannot hold it.  `Casting.count`, `Casting.decimal`, `Casting.ticks` and
`Casting.localTicks` are the last steps of casts to integers, decimals and times.
-/

namespace RowFilter

/-- The outcome of a cast: a cell, or nothing for null. -/
abbrev Casting := Except CastFault (Option Cell)

namespace Casting

/-- The outcome of a cast that refuses a value without a cell. -/
def orRefuse : Option Cell → Casting
  | some cell => .ok (some cell)
  | none => .error .cast

/-- A count, if it fits a signed word. -/
def count (bits : Nat) (n : Int) : Casting :=
  if fitsSigned bits n then .ok (some (.int n)) else .error .cast

/-- An unscaled decimal number, if it has no more digits than the precision. -/
def decimal (precision : Nat) (n : Int) : Casting :=
  if n.natAbs < tenPow precision then .ok (some (.int n)) else .error .precision

/-- The bits of the word that holds a decimal number. -/
def decimalBits (wide : Bool) : Nat :=
  if wide then 256 else 128

/-- The ticks of a moment, given in seconds since the epoch and nanoseconds; whole seconds leave
the nanoseconds out, and finer ticks are refused where they do not fit sixty-four bits. -/
def ticks (unit : TimeUnit) (seconds nanos : Int) : Casting :=
  match unit with
  | .second => .ok (some (.int seconds))
  | _ =>
    let whole := seconds * (secondNanos / unit.nanos)
    if fitsSigned 64 whole then count 64 (whole + nanos / unit.nanos) else .error .cast

/-- The ticks of the moment that a zone shows by the same date and time of day as universal time
shows some ticks. -/
def localTicks (unit : TimeUnit) (zone : Option String) (n : Int) : Casting :=
  match zone with
  | none => .ok (some (.int n))
  | some name =>
    let nanos := n * unit.nanos
    match Zone.offset? name, momentOf? nanos with
    | none, _ => .error .parse
    | some _, none => .error .cast
    | some offset, some _ => ticks unit (nanos / secondNanos - offset) (nanos % secondNanos)

end Casting

end RowFilter
