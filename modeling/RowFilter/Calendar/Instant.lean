import RowFilter.Calendar.Dates

/-!
# Instants

An instant is a number of nanoseconds since the epoch.  `DateFormats.readInstant?` reads one:
from an internet timestamp with its offset from universal time, from a date with a time of day,
or from a date alone, which stands for midnight.  The first of the three that fits decides, and
an instant that does not fit sixty-four bits is refused.
-/

namespace RowFilter

/-- The nanoseconds of a second. -/
def secondNanos : Int := 1000000000

/-- The nanoseconds of a day. -/
def dayNanos : Int := 86400 * secondNanos

/-- The nanoseconds from the epoch to a moment. -/
def instantOf (date : Date) (clock : Clock) : Int :=
  (date.toDays * 86400 + clock.seconds) * secondNanos + clock.nanosecond

/-- The date and the time of day of an instant, when the calendar reaches as far. -/
def momentOf? (nanos : Int) : Option (Date × Clock) :=
  let seconds := nanos / secondNanos
  let ofDay := (seconds % 86400).toNat
  (Date.ofDays? (seconds / 86400)).map fun date =>
    (date, ⟨ofDay / 3600, ofDay / 60 % 60, ofDay % 60, (nanos % secondNanos).toNat⟩)

/-- The instant, if it fits sixty-four bits. -/
def fitInstant? (nanos : Int) : Option Int :=
  if fitsSigned 64 nanos then some nanos else none

namespace Instant

/-- Reads a number of exactly so many digits. -/
def readExactly (count : Nat) (text : List Char) : Option (Nat × List Char) :=
  (Format.readDigits count text).filter fun (_, rest) => rest.length + count = text.length

/-- Reads one character of a set. -/
def readOne (accepted : List Char) : List Char → Option (List Char)
  | c :: rest => if accepted.contains c then some rest else none
  | [] => none

/-- Reads an offset from universal time, in seconds: `Z`, or hours and minutes with a sign. -/
def readOffset (text : List Char) : Option (Int × List Char) :=
  match text with
  | [] => none
  | sign :: rest =>
    if sign = 'Z' || sign = 'z' then some (0, rest)
    else if sign = '+' || sign = '-' || sign = '−' then do
      let (hours, rest) ← readExactly 2 rest
      let rest ← readOne [':'] rest
      let (minutes, rest) ← readExactly 2 rest
      if 23 < hours ∨ 59 < minutes then none
      else
        let seconds : Int := hours * 3600 + minutes * 60
        some (if sign = '+' then seconds else -seconds, rest)
    else none

/-- Reads a fraction of a second, zero when there is none. -/
def readFraction : List Char → Option (Nat × List Char)
  | '.' :: rest => Format.readNanoseconds rest
  | text => some (0, text)

/-- Reads a date: the year in four digits, the month and the day in two, with dashes. -/
def readDate (text : List Char) : Option (Date × List Char) := do
  let (year, rest) ← readExactly 4 text
  let rest ← readOne ['-'] rest
  let (month, rest) ← readExactly 2 rest
  let rest ← readOne ['-'] rest
  let (day, rest) ← readExactly 2 rest
  let date ← Date.of? year month day
  return (date, rest)

/-- Reads a time of day: the hour, the minute and the second in two digits, with colons, and a
fraction if there is one. -/
def readClock (text : List Char) : Option (Clock × List Char) := do
  let (hour, rest) ← readExactly 2 text
  let rest ← readOne [':'] rest
  let (minute, rest) ← readExactly 2 rest
  let rest ← readOne [':'] rest
  let (second, rest) ← readExactly 2 rest
  let (nanosecond, rest) ← readFraction rest
  let clock ← Clock.of? hour minute second nanosecond
  return (clock, rest)

/-- The marks that may stand between a date and a time of day. -/
def separators : List Char := ['T', 't', ' ']

/-- The instant of a whole text such as `2024-01-15T10:30:00Z`. -/
def readInternet? (text : List Char) : Option Int := do
  let (date, rest) ← readDate text
  let rest ← readOne separators rest
  let (clock, rest) ← readClock rest
  let (offset, rest) ← readOffset rest
  if rest.isEmpty then some (instantOf date clock - offset * secondNanos) else none

/-- The formats of a date with a time of day. -/
def momentFormats : List String :=
  ["%Y-%m-%d %H:%M:%S%.f", "%Y-%m-%dT%H:%M:%S%.f"]

/-- The instant of a whole text in a format of a date with a time of day. -/
def readMoment? (format : String) (text : List Char) : Option Int := do
  let items ← Format.ofText? format
  let values ← Format.read? items text
  let date ← values.date?
  let clock ← values.clock?
  return instantOf date clock

end Instant

/-- The instant that a text shows. -/
def DateFormats.readInstant? (formats : DateFormats) (text : List Char) : Option Int :=
  match Instant.readInternet? text with
  | some nanos => fitInstant? nanos
  | none =>
    match Instant.momentFormats.findSome? fun format => Instant.readMoment? format text with
    | some nanos => fitInstant? nanos
    | none =>
      (formats.readDate? text).bind fun date => fitInstant? (instantOf date Clock.midnight)

end RowFilter
