import RowFilter.Number.Numeral
import RowFilter.Text.Blank
import RowFilter.Text.LowerCase

/-!
# Intervals

An `Interval` is a span of months, days and nanoseconds, each counted by itself.
`Interval.read` reads one from amounts and their units, such as `1 year 2.5 days`, and
`Interval.dayTime?` gives it in days and milliseconds.
-/

namespace RowFilter

/-- What is wrong with the text of an interval. -/
inductive IntervalFault where
  /-- The text is no list of amounts and units, or an amount is too great. -/
  | unreadable
  /-- A part of the interval does not fit its word. -/
  | overflow
deriving DecidableEq, Repr

/-- The units of the amounts of an interval. -/
inductive IntervalUnit where
  | century
  | decade
  | year
  | month
  | week
  | day
  | hour
  | minute
  | second
  | millisecond
  | microsecond
  | nanosecond
deriving DecidableEq, Repr

/-- A span of time in three parts. -/
@[ext]
structure Interval where
  months : Int
  days : Int
  nanos : Int
deriving DecidableEq, Repr

/-- A decimal number: its whole part, and its fraction in units of `10 ^ (-15)`. -/
structure IntervalAmount where
  whole : Int
  fraction : Int
deriving DecidableEq, Repr

namespace IntervalUnit

/-- The units with the words for each. -/
def table : List (IntervalUnit × List String) :=
  [(.century, ["c", "cent", "cents", "century", "centuries"]),
   (.decade, ["dec", "decs", "decade", "decades"]),
   (.year, ["y", "yr", "yrs", "year", "years"]),
   (.month, ["mon", "mons", "month", "months"]),
   (.week, ["w", "week", "weeks"]),
   (.day, ["d", "day", "days"]),
   (.hour, ["h", "hr", "hrs", "hour", "hours"]),
   (.minute, ["m", "min", "mins", "minute", "minutes"]),
   (.second, ["s", "sec", "secs", "second", "seconds"]),
   (.millisecond,
    ["ms", "msec", "msecs", "msecond", "mseconds", "millisecond", "milliseconds"]),
   (.microsecond,
    ["us", "usec", "usecs", "usecond", "useconds", "microsecond", "microseconds"]),
   (.nanosecond, ["nanosecond", "nanoseconds"])]

/-- The unit of a word, in letters of any case. -/
def ofWord? (word : List Char) : Option IntervalUnit :=
  let name := String.ofList (lowerCase word)
  (table.find? fun entry => entry.2.contains name).map fun entry => entry.1

/-- One unit as an interval. -/
def length : IntervalUnit → Interval
  | .century => ⟨1200, 0, 0⟩
  | .decade => ⟨120, 0, 0⟩
  | .year => ⟨12, 0, 0⟩
  | .month => ⟨1, 0, 0⟩
  | .week => ⟨0, 7, 0⟩
  | .day => ⟨0, 1, 0⟩
  | .hour => ⟨0, 0, 3600000000000⟩
  | .minute => ⟨0, 0, 60000000000⟩
  | .second => ⟨0, 0, 1000000000⟩
  | .millisecond => ⟨0, 0, 1000000⟩
  | .microsecond => ⟨0, 0, 1000⟩
  | .nanosecond => ⟨0, 0, 1⟩

/-- One unit as the interval of which a fraction is taken: a month has thirty days, and a day
has twenty-four hours. -/
def divisible : IntervalUnit → Interval
  | .month => ⟨0, 30, 0⟩
  | .week => ⟨0, 0, 604800000000000⟩
  | .day => ⟨0, 0, 86400000000000⟩
  | unit => unit.length

end IntervalUnit

namespace IntervalAmount

/-- How many digits the fraction of an amount may have. -/
def places : Nat := 15

/-- Reads an amount: a minus sign or none, digits, and digits after a point. -/
def read? (text : List Char) : Option IntervalAmount :=
  let whole := text.takeWhile (· != '.')
  match text.dropWhile (· != '.') with
  | [] => (readSigned? whole).map fun n => ⟨n, 0⟩
  | _ :: digits =>
    if places < digits.length then none
    else do
      let n ← if whole.isEmpty || whole = ['-'] then some 0 else readSigned? whole
      let fraction ← readDigits? digits
      let scaled : Int := (fraction * tenPow (places - digits.length) : Nat)
      return ⟨n, if whole.head? = some '-' then -scaled else scaled⟩

end IntervalAmount

namespace Interval

/-- The interval without any length. -/
def zero : Interval := ⟨0, 0, 0⟩

/-- The sum of two intervals, part by part. -/
def plus (a b : Interval) : Interval :=
  ⟨a.months + b.months, a.days + b.days, a.nanos + b.nanos⟩

/-- The interval with each part changed in the same way. -/
def map (change : Int → Int) (interval : Interval) : Interval :=
  ⟨change interval.months, change interval.days, change interval.nanos⟩

/-- Whether each part fits a word of sixty-four bits. -/
def fitsWide (interval : Interval) : Bool :=
  fitsSigned 64 interval.months && fitsSigned 64 interval.days && fitsSigned 64 interval.nanos

/-- Whether the months and the days fit words of thirty-two bits, and the nanoseconds one of
sixty-four. -/
def fits (interval : Interval) : Bool :=
  fitsSigned 32 interval.months && fitsSigned 32 interval.days && fitsSigned 64 interval.nanos

/-- The interval of an amount of a unit. -/
def ofAmount (amount : IntervalAmount) (unit : IntervalUnit) : Except IntervalFault Interval :=
  let whole := unit.length.map fun n => amount.whole * n
  let part := unit.divisible.map fun n =>
    (amount.fraction * n).tdiv (tenPow IntervalAmount.places)
  let interval := whole.plus part
  if whole.fitsWide && interval.fitsWide then
    if interval.fits then .ok interval else .error .unreadable
  else .error .overflow

/-- An interval with amounts added to it. -/
def addAmounts (interval : Interval) :
    List (IntervalAmount × IntervalUnit) → Except IntervalFault Interval
  | [] => .ok interval
  | (amount, unit) :: rest => do
    let more ← ofAmount amount unit
    let sum := interval.plus more
    if sum.fits then sum.addAmounts rest else .error .overflow

/-- Whether a character belongs to an amount. -/
def isAmountChar (c : Char) : Bool :=
  c.isDigit || c = '.' || c = '-'

/-- The amounts among some words, each with its unit: what follows it in the word, or else the
next word.  Only the last amount may have none. -/
def pairWords : List (List Char) → List (List Char × Option (List Char))
  | [] => []
  | [word] =>
    match word.dropWhile isAmountChar with
    | [] => [(word, none)]
    | unit => [(word.takeWhile isAmountChar, some unit)]
  | word :: next :: rest =>
    match word.dropWhile isAmountChar with
    | [] => (word, some next) :: pairWords rest
    | unit => (word.takeWhile isAmountChar, some unit) :: pairWords (next :: rest)

/-- Reads an amount and its unit, which is the day when there is none. -/
def readPair? (pair : List Char × Option (List Char)) :
    Option (IntervalAmount × IntervalUnit) := do
  let amount ← IntervalAmount.read? pair.1
  let unit ← match pair.2 with
    | none => some .day
    | some word => IntervalUnit.ofWord? word
  return (amount, unit)

/-- Reads an interval.  No unit may stand in it twice. -/
def read (text : List Char) : Except IntervalFault Interval :=
  match (pairWords (text.splitOnP isWhiteSpace)).mapM readPair? with
  | none => .error .unreadable
  | some amounts =>
    if (amounts.map fun entry => entry.2).Nodup then zero.addAmounts amounts
    else .error .unreadable

/-- The interval in days and milliseconds, a month counted as thirty days; nothing when it takes
finer units or does not fit words of thirty-two bits. -/
def dayTime? (interval : Interval) : Option (Int × Int) :=
  let ofMonths := interval.months * 30
  let days := ofMonths + interval.days
  let millis := interval.nanos.tdiv 1000000
  if interval.nanos % 1000000 = 0 && fitsSigned 32 ofMonths && fitsSigned 32 days
      && fitsSigned 32 millis then
    some (days, millis)
  else none

end Interval

end RowFilter
