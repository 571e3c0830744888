import RowFilter.Calendar.Week
import RowFilter.Number.Numeral

/-!
# Fields of a moment

A `Clock` is a time of day.  A text shows a moment by some of its fields, `CalendarField`s;
`FieldValues.set?` collects them, each with one value only, and `FieldValues.date?` and
`FieldValues.clock?` find the date and the time of day that they show.
-/

namespace RowFilter

/-- A time of day.  In a leap second the nanoseconds run on past the end of the second
before. -/
@[ext]
structure Clock where
  hour : Nat
  minute : Nat
  second : Nat
  nanosecond : Nat
deriving DecidableEq, Repr

/-- The first moment of a day. -/
def Clock.midnight : Clock := ⟨0, 0, 0, 0⟩

/-- The time of day of an hour, a minute, a second and a fraction in nanoseconds, when there is
one.  The second sixty is the last one, one second longer. -/
def Clock.of? (hour minute second nanosecond : Nat) : Option Clock :=
  if 23 < hour ∨ 59 < minute ∨ 60 < second then none
  else if second = 60 then some ⟨hour, minute, 59, 1000000000 + nanosecond⟩
  else some ⟨hour, minute, second, nanosecond⟩

/-- The seconds of a time of day, a leap second left out. -/
def Clock.seconds (clock : Clock) : Int :=
  clock.hour * 3600 + clock.minute * 60 + clock.second

/-- A part of a moment.  The parts that are called after ISO belong to weeks that begin on
Monday and are not split between years; the weekday is counted from Monday on, from zero. -/
inductive CalendarField where
  | year
  | century
  | yearOfCentury
  | isoYear
  | isoYearOfCentury
  | quarter
  | month
  | day
  | ordinal
  | sundayWeek
  | mondayWeek
  | isoWeek
  | weekday
  | half
  | hourOfHalf
  | minute
  | second
  | nanosecond
  | timestamp
  | offset
deriving DecidableEq, Repr

/-- The weekday Monday. -/
def monday : Int := 0

/-- The weekday Sunday. -/
def sunday : Int := 6

/-- The century of a year, if it is positive, and the year in it. -/
def splitYear (year : Int) : Option Int × Option Int :=
  if 0 ≤ year then (some (year / 100), some (year % 100)) else (none, none)

/-- The value of a field of a date, nothing for the fields that a date does not have. -/
def Date.field? (date : Date) : CalendarField → Option Int
  | .year => some date.year
  | .century => (splitYear date.year).1
  | .yearOfCentury => (splitYear date.year).2
  | .isoYear => some date.isoYear
  | .isoYearOfCentury => (splitYear date.isoYear).2
  | .quarter => some date.quarter
  | .month => some date.month
  | .day => some date.day
  | .ordinal => some date.ordinal
  | .sundayWeek => some (date.weekFrom sunday)
  | .mondayWeek => some (date.weekFrom monday)
  | .isoWeek => some date.isoWeek
  | .weekday => some date.weekday
  | _ => none

/-- The fields that a text shows, each with its value. -/
abbrev FieldValues := CalendarField → Option Int

namespace FieldValues

/-- No field at all. -/
def none : FieldValues := fun _ => Option.none

/-- Sets a field; refused when it has another value. -/
def set? (values : FieldValues) (field : CalendarField) (n : Int) : Option FieldValues :=
  match values field with
  | Option.none => some fun other => if other = field then some n else values other
  | some m => if m = n then some values else Option.none

/-- The year that is shown by itself, by its century and the year in it, or by the latter alone,
which stands for a year from 1970 to 2069; nothing inside where no year is shown, and nothing at
all where what is shown does not fit together or does not suffice. -/
def resolveYear? (year century rest : Option Int) : Option (Option Int) :=
  match year, century, rest with
  | year, Option.none, Option.none => some year
  | some year, century, rest =>
    if 0 ≤ year ∧ century.all (· = year / 100) ∧ rest.all (· = year % 100) then some (some year)
    else Option.none
  | Option.none, some century, some rest => some (some (century * 100 + rest))
  | Option.none, Option.none, some rest =>
    some (some (if rest < 70 then 2000 + rest else 1900 + rest))
  | Option.none, some _, Option.none => Option.none

/-- The date of a year and what is shown beside it: month and day, or else the day of the year,
or else a week and a weekday. -/
def dateInYear? (values : FieldValues) (year : Int) : Option (Option Date) :=
  match values .month, values .day with
  | some month, some day => some (Date.of? year month.toNat day.toNat)
  | _, _ =>
    match values .ordinal, values .sundayWeek, values .mondayWeek, values .weekday with
    | some ordinal, _, _, _ => some (Date.ofOrdinal? year ordinal.toNat)
    | _, some week, _, some weekday => some (Date.ofWeek? year sunday week weekday)
    | _, _, some week, some weekday => some (Date.ofWeek? year monday week weekday)
    | _, _, _, _ => Option.none

/-- The date of a week that is shown with its year and a weekday. -/
def dateInIsoYear? (values : FieldValues) (year : Int) : Option Date :=
  match values .isoWeek, values .weekday with
  | some week, some weekday => Date.ofIsoWeek? year week weekday
  | _, _ => Option.none

/-- The fields that a date has. -/
def dateFields : List CalendarField :=
  [.year, .century, .yearOfCentury, .isoYear, .isoYearOfCentury, .quarter, .month, .day, .ordinal,
   .sundayWeek, .mondayWeek, .isoWeek, .weekday]

/-- Whether each field that is shown is the one of a date. -/
def suits (values : FieldValues) (date : Date) : Bool :=
  dateFields.all fun field => values field = Option.none || values field = date.field? field

/-- The date that the fields show. -/
def date? (values : FieldValues) : Option Date := do
  let year? ← resolveYear? (values .year) (values .century) (values .yearOfCentury)
  let isoYear? ← resolveYear? (values .isoYear) Option.none (values .isoYearOfCentury)
  let found := match year?.bind values.dateInYear? with
    | some date? => date?
    | Option.none => isoYear?.bind values.dateInIsoYear?
  found.filter values.suits

/-- The time of day that the fields show.  A fraction needs a second. -/
def clock? (values : FieldValues) : Option Clock :=
  match values .half, values .hourOfHalf, values .minute with
  | some half, some hour, some minute =>
    let hour := half * 12 + hour
    match values .second, values .nanosecond with
    | Option.none, some _ => Option.none
    | second, nanosecond =>
      Clock.of? hour.toNat minute.toNat (second.getD 0).toNat (nanosecond.getD 0).toNat
  | _, _, _ => Option.none

end FieldValues

end RowFilter
