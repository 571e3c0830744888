import RowFilter.Number.Natural

/-!
# Calendar dates

A `Date` is a day of the proleptic Gregorian calendar between the years `minYear` and `maxYear`.
Days are counted from the epoch, the first of January 1970, in both directions: `Date.toDays`
counts them and `Date.ofDays?` finds the date of a count.
-/

namespace RowFilter

/-- Whether a year has 366 days. -/
def isLeapYear (year : Int) : Bool :=
  year % 4 == 0 && (year % 100 != 0 || year % 400 == 0)

/-- The lengths of the twelve months of a year, from January on. -/
def monthLengths (leap : Bool) : List Nat :=
  [31, if leap then 29 else 28, 31, 30, 31, 30, 31, 31, 30, 31, 30, 31]

/-- The number of days in a month; zero when the year has no such month. -/
def monthLength (leap : Bool) (month : Nat) : Nat :=
  match month with
  | 0 => 0
  | index + 1 => (monthLengths leap).getD index 0

/-- The number of days of a year before a month. -/
def daysBeforeMonth (leap : Bool) (month : Nat) : Nat :=
  total ((monthLengths leap).take (month - 1))

/-- The number of days before the first of January of a year, from that of the year one on. -/
def daysBeforeYear (year : Int) : Int :=
  365 * (year - 1) + (year - 1) / 4 - (year - 1) / 100 + (year - 1) / 400

/-- The first year of a date. -/
def minYear : Int := -262143

/-- The last year of a date. -/
def maxYear : Int := 262142

/-- The number of days before the epoch, from the first of January of the year one on. -/
def epochDays : Int := 719162

/-- A day of the calendar. -/
@[ext]
structure Date where
  year : Int
  month : Nat
  day : Nat
  minYear_le : minYear ≤ year
  le_maxYear : year ≤ maxYear
  day_pos : 1 ≤ day
  day_le : day ≤ monthLength (isLeapYear year) month
deriving DecidableEq

namespace Date

/-- The date of a year, a month and a day of the month, when there is one. -/
def of? (year : Int) (month day : Nat) : Option Date :=
  if years : minYear ≤ year ∧ year ≤ maxYear then
    if days : 1 ≤ day ∧ day ≤ monthLength (isLeapYear year) month then
      some ⟨year, month, day, years.1, years.2, days.1, days.2⟩
    else none
  else none

/-- The day of the year, from one on. -/
def ordinal (date : Date) : Nat :=
  daysBeforeMonth (isLeapYear date.year) date.month + date.day

/-- The number of days from the epoch to the date. -/
def toDays (date : Date) : Int :=
  daysBeforeYear date.year + date.ordinal - 1 - epochDays

/-- The month and the day of the month of a day of the year, given the lengths of the months
from some month on. -/
def monthAndDay (month : Nat) (ordinal : Nat) : List Nat → Option (Nat × Nat)
  | [] => none
  | length :: rest =>
    if ordinal ≤ length then some (month, ordinal)
    else monthAndDay (month + 1) (ordinal - length) rest

/-- The date of a year and a day of the year, when there is one. -/
def ofOrdinal? (year : Int) (ordinal : Nat) : Option Date :=
  match monthAndDay 1 ordinal (monthLengths (isLeapYear year)) with
  | some (month, day) => of? year month day
  | none => none

/-- The year that holds a day, counted from the first of January of the year one on.  The mean
length of a year gives a guess that is at most one off. -/
def yearOf (day : Int) : Int :=
  let guess := day * 400 / 146097 + 1
  if day < daysBeforeYear guess then guess - 1
  else if daysBeforeYear (guess + 1) ≤ day then guess + 1
  else guess

/-- The date so many days from the epoch, when there is one. -/
def ofDays? (days : Int) : Option Date :=
  let day := days + epochDays
  let year := yearOf day
  ofOrdinal? year (day - daysBeforeYear year + 1).toNat

end Date

end RowFilter
