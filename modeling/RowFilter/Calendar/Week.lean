import RowFilter.Calendar.Date

/-!
# Weeks

The days of the week are counted from Monday on, from zero to six.  `Date.weekFrom` numbers the
weeks of a year that begin on a given day of the week, and `Date.isoWeek` those of the year
`Date.isoYear`, to which the days of a week belong with its Thursday.  `Date.ofWeek?` and
`Date.ofIsoWeek?` find a date by its week.
-/

namespace RowFilter

namespace Date

/-- The number of days from the first of January of the year one to a date. -/
def dayNumber (date : Date) : Int :=
  date.toDays + epochDays

/-- The day of the week.  The year one begins on a Monday. -/
def weekday (date : Date) : Int :=
  date.dayNumber % 7

/-- The quarter of the year. -/
def quarter (date : Date) : Nat :=
  (date.month - 1) / 3 + 1

/-- The number of the week in the year, given the day on which weeks begin; the days before the
first such day are in week zero. -/
def weekFrom (date : Date) (first : Int) : Int :=
  (date.ordinal - (date.weekday - first) % 7 + 6) / 7

/-- The Thursday of the week, which begins on Monday, as a number of days from the first of
January of the year one. -/
def thursday (date : Date) : Int :=
  date.dayNumber - date.weekday + 3

/-- The year to which the week belongs. -/
def isoYear (date : Date) : Int :=
  yearOf date.thursday

/-- The number of the week in the year to which it belongs. -/
def isoWeek (date : Date) : Int :=
  (date.thursday - daysBeforeYear date.isoYear) / 7 + 1

/-- The date of a year, a week of those that begin on a given day, and a day of the week. -/
def ofWeek? (year first week weekday : Int) : Option Date :=
  let opening := daysBeforeYear year % 7
  let ordinal := 1 + (first - opening) % 7 + (week - 1) * 7 + (weekday - first) % 7
  if 0 < ordinal then ofOrdinal? year ordinal.toNat else none

/-- The date of a week, given the year to which it belongs, and a day of the week.  The fourth
of January is always in the first week. -/
def ofIsoWeek? (year week weekday : Int) : Option Date :=
  let fourth := daysBeforeYear year + 3
  let monday := fourth - fourth % 7
  (ofDays? (monday + (week - 1) * 7 + weekday - epochDays)).filter fun date =>
    date.isoYear = year

end Date

end RowFilter
