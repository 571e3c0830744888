import RowFilter.Calendar.Fields
import RowFilter.Text.Blank

/-!
# Calendar formats

A format is a list of `FormatItem`s, written with percent signs as in `%Y-%m-%d`;
`Format.ofText?` reads one, and `Format.write` prints a moment with it.
-/

namespace RowFilter

/-- A number in a format. -/
inductive CalendarNumber where
  | year
  | century
  | yearOfCentury
  | isoYear
  | isoYearOfCentury
  | quarter
  | month
  | day
  | ordinal
  | sundayWeek
  | mondayWeek
  | isoWeek
  /-- The day of the week, Sunday being zero. -/
  | weekdayFromZero
  /-- The day of the week, Monday being one. -/
  | weekdayFromOne
  | hour
  /-- The hour of a half of the day, from one to twelve. -/
  | hourOfHalf
  | minute
  | second
  | nanosecond
  /-- The seconds since the epoch. -/
  | timestamp
deriving DecidableEq, Repr

/-- What a number is filled up with. -/
inductive Padding where
  | zeros
  | spaces
  | nothing
deriving DecidableEq, Repr

/-- How an offset from universal time may be shown besides a sign, hours and minutes. -/
inductive OffsetForm where
  | signed
  /-- Also by a `Z`, and without minutes. -/
  | lenient
  /-- Also by a `Z` or by `UTC`. -/
  | universal
deriving DecidableEq, Repr

/-- An item of a calendar format. -/
inductive FormatItem where
  /-- A character that stands for itself. -/
  | literal (c : Char)
  /-- White space: any run of it, also none, when a text is read. -/
  | blank (c : Char)
  | number (number : CalendarNumber) (padding : Padding)
  /-- The English name of the month, whole or its first three letters. -/
  | monthName (whole : Bool)
  /-- The English name of the weekday, whole or its first three letters. -/
  | weekdayName (whole : Bool)
  /-- The half of the day, `AM` or `PM`. -/
  | half (capital : Bool)
  /-- The fraction of the second, with its point; nothing when it is zero. -/
  | fraction
  /-- So many digits of the fraction of the second, with or without a point. -/
  | places (point : Bool) (count : Nat)
  /-- The mark between a date and a time of day. -/
  | separator
  /-- The name of the zone: any characters that are not white space. -/
  | zoneName
  /-- The offset from universal time. -/
  | offset (form : OffsetForm)
deriving DecidableEq, Repr

/-- The names of the months in English. -/
def monthNames : List String :=
  ["January", "February", "March", "April", "May", "June", "July", "August", "September",
   "October", "November", "December"]

/-- The names of the days of the week in English. -/
def weekdayNames : List String :=
  ["Monday", "Tuesday", "Wednesday", "Thursday", "Friday", "Saturday", "Sunday"]

namespace Format

/-- A number that is filled up with zeros. -/
def zeros (number : CalendarNumber) : FormatItem :=
  .number number .zeros

/-- The year, the month and the day of the month. -/
def dashedDate : List FormatItem :=
  [zeros .year, .literal '-', zeros .month, .literal '-', zeros .day]

/-- The month, the day of the month and the year of the century. -/
def slashedDate : List FormatItem :=
  [zeros .month, .literal '/', zeros .day, .literal '/', zeros .yearOfCentury]

/-- The hour, the minute and the second. -/
def plainClock : List FormatItem :=
  [zeros .hour, .literal ':', zeros .minute, .literal ':', zeros .second]

/-- The hour of a half of the day, the minute, the second and the half. -/
def halfClock : List FormatItem :=
  [zeros .hourOfHalf, .literal ':', zeros .minute, .literal ':', zeros .second, .blank ' ',
   .half true]

/-- The weekday, the month, the day of the month, the time of day and the year. -/
def longMoment : List FormatItem :=
  [.weekdayName false, .blank ' ', .monthName false, .blank ' ', .number .day .spaces, .blank ' ']
    ++ plainClock ++ [.blank ' ', zeros .year]

/-- A date, a time of day with its fraction, and an offset, with blanks between some of them. -/
def internetMoment : List FormatItem :=
  [zeros .year, .blank ' ', .literal '-', zeros .month, .blank ' ', .literal '-', zeros .day,
   .separator, zeros .hour, .blank ' ', .literal ':', zeros .minute, .blank ' ', .literal ':',
   zeros .second, .fraction, .blank ' ', .offset .universal]

/-- The items that a letter after a percent sign stands for. -/
def itemsOf? (letter : Char) : Option (List FormatItem) :=
  match letter with
  | 'Y' => some [zeros .year]
  | 'C' => some [zeros .century]
  | 'y' => some [zeros .yearOfCentury]
  | 'G' => some [zeros .isoYear]
  | 'g' => some [zeros .isoYearOfCentury]
  | 'q' => some [.number .quarter .nothing]
  | 'm' => some [zeros .month]
  | 'd' => some [zeros .day]
  | 'e' => some [.number .day .spaces]
  | 'j' => some [zeros .ordinal]
  | 'U' => some [zeros .sundayWeek]
  | 'W' => some [zeros .mondayWeek]
  | 'V' => some [zeros .isoWeek]
  | 'w' => some [.number .weekdayFromZero .nothing]
  | 'u' => some [.number .weekdayFromOne .nothing]
  | 'H' => some [zeros .hour]
  | 'k' => some [.number .hour .spaces]
  | 'I' => some [zeros .hourOfHalf]
  | 'l' => some [.number .hourOfHalf .spaces]
  | 'M' => some [zeros .minute]
  | 'S' => some [zeros .second]
  | 'f' => some [zeros .nanosecond]
  | 's' => some [.number .timestamp .nothing]
  | 'b' | 'h' => some [.monthName false]
  | 'B' => some [.monthName true]
  | 'a' => some [.weekdayName false]
  | 'A' => some [.weekdayName true]
  | 'P' => some [.half false]
  | 'p' => some [.half true]
  | 'F' => some dashedDate
  | 'D' | 'x' => some slashedDate
  | 'v' =>
    some
      [.number .day .spaces, .literal '-', .monthName false, .literal '-', zeros .year]
  | 'R' => some [zeros .hour, .literal ':', zeros .minute]
  | 'T' | 'X' => some plainClock
  | 'r' => some halfClock
  | 'c' => some longMoment
  | '+' => some internetMoment
  | 'Z' => some [.zoneName]
  | 'z' => some [.offset .signed]
  | 'n' => some [.blank '\n']
  | 't' => some [.blank '\t']
  | '%' => some [.literal '%']
  | _ => none

/-- The number that a letter stands for, filled up in another way; nothing for a letter that
does not stand for a single number. -/
def padded? (padding : Padding) (letter : Char) : Option (List FormatItem) :=
  match itemsOf? letter with
  | some [.number number _] => some [.number number padding]
  | _ => none

/-- How many digits of a fraction a mark asks for. -/
def placesOf? (mark : Char) : Option Nat :=
  match mark with
  | '3' => some 3
  | '6' => some 6
  | '9' => some 9
  | _ => none

/-- The items that the text after a percent sign begins with, and the rest of the text. -/
def readSpecifier? (text : List Char) : Option (List FormatItem × List Char) :=
  let after (rest : List Char) (items : List FormatItem) := (items, rest)
  match text with
  | '-' :: letter :: rest => (padded? .nothing letter).map (after rest)
  | '0' :: letter :: rest => (padded? .zeros letter).map (after rest)
  | '_' :: letter :: rest => (padded? .spaces letter).map (after rest)
  | '#' :: 'z' :: rest => some ([.offset .lenient], rest)
  | ':' :: ':' :: ':' :: 'z' :: rest => some ([.offset .signed], rest)
  | ':' :: ':' :: 'z' :: rest => some ([.offset .signed], rest)
  | ':' :: 'z' :: rest => some ([.offset .signed], rest)
  | '.' :: 'f' :: rest => some ([.fraction], rest)
  | '.' :: mark :: 'f' :: rest => (placesOf? mark).map fun n => ([.places true n], rest)
  | letter :: rest =>
    match placesOf? letter, rest with
    | some n, 'f' :: rest => some ([.places false n], rest)
    | some _, _ => none
    | none, _ => (itemsOf? letter).map (after rest)
  | [] => none

/-- Reads a format of at most `fuel` characters; nothing when a percent sign is followed by
something unknown. -/
def ofCharsWithin? (fuel : Nat) (text : List Char) : Option (List FormatItem) :=
  match fuel, text with
  | _, [] => some []
  | 0, _ => none
  | fuel + 1, '%' :: rest => do
    let (items, rest) ← readSpecifier? rest
    let more ← ofCharsWithin? fuel rest
    return items ++ more
  | fuel + 1, c :: rest =>
    (ofCharsWithin? fuel rest).map ((if isWhiteSpace c then .blank c else .literal c) :: ·)

/-- Reads a format; nothing when a percent sign is followed by something unknown. -/
def ofText? (text : String) : Option (List FormatItem) :=
  ofCharsWithin? text.toList.length text.toList

/-! ### Writing -/

/-- A number of so many digits at least, filled up with zeros or with spaces. -/
def fieldText (width : Nat) (padding : Padding) (n : Nat) : List Char :=
  let digits := decimalDigits n
  match padding with
  | .zeros => List.replicate (width - digits.length) '0' ++ digits
  | .spaces => List.replicate (width - digits.length) ' ' ++ digits
  | .nothing => digits

/-- A year: four digits at least, and a sign before the year zero and after the year 9999. -/
def yearText (padding : Padding) (year : Int) : List Char :=
  let digits := fieldText 4 padding year.natAbs
  if year < 0 then '-' :: digits else if 9999 < year then '+' :: digits else digits

/-- The fraction of a second in three, six or nine digits, whichever suffices; nothing for
zero. -/
def fractionText (nanosecond : Nat) : List Char :=
  let fraction := nanosecond % 1000000000
  if fraction = 0 then []
  else if fraction % 1000000 = 0 then '.' :: fieldText 3 .zeros (fraction / 1000000)
  else if fraction % 1000 = 0 then '.' :: fieldText 6 .zeros (fraction / 1000)
  else '.' :: fieldText 9 .zeros fraction

/-- The text of a number of a moment. -/
def numberText (date : Date) (clock : Clock) (padding : Padding) : CalendarNumber → List Char
  | .year => yearText padding date.year
  | .century => fieldText 2 padding (date.year / 100).natAbs
  | .yearOfCentury => fieldText 2 padding (date.year % 100).toNat
  | .isoYear => yearText padding date.isoYear
  | .isoYearOfCentury => fieldText 2 padding (date.isoYear % 100).toNat
  | .quarter => fieldText 1 padding date.quarter
  | .month => fieldText 2 padding date.month
  | .day => fieldText 2 padding date.day
  | .ordinal => fieldText 3 padding date.ordinal
  | .sundayWeek => fieldText 2 padding (date.weekFrom sunday).toNat
  | .mondayWeek => fieldText 2 padding (date.weekFrom monday).toNat
  | .isoWeek => fieldText 2 padding date.isoWeek.toNat
  | .weekdayFromZero => fieldText 1 padding ((date.weekday + 1) % 7).toNat
  | .weekdayFromOne => fieldText 1 padding (date.weekday + 1).toNat
  | .hour => fieldText 2 padding clock.hour
  | .hourOfHalf => fieldText 2 padding ((clock.hour + 11) % 12 + 1)
  | .minute => fieldText 2 padding clock.minute
  | .second => fieldText 2 padding (clock.second + clock.nanosecond / 1000000000)
  | .nanosecond => fieldText 9 padding (clock.nanosecond % 1000000000)
  | .timestamp => (signedText (date.toDays * 86400 + clock.seconds)).toList

/-- The name of a given number in a list of names, whole or its first three letters. -/
def nameText (whole : Bool) (names : List String) (n : Nat) : List Char :=
  let name := (names.getD n "").toList
  if whole then name else name.take 3

/-- The text of an item for a moment in universal time. -/
def itemText (date : Date) (clock : Clock) : FormatItem → List Char
  | .literal c => [c]
  | .blank c => [c]
  | .number number padding => numberText date clock padding number
  | .monthName whole => nameText whole monthNames (date.month - 1)
  | .weekdayName whole => nameText whole weekdayNames date.weekday.toNat
  | .half capital =>
    if capital then (if clock.hour < 12 then ['A', 'M'] else ['P', 'M'])
    else (if clock.hour < 12 then ['a', 'm'] else ['p', 'm'])
  | .fraction => fractionText clock.nanosecond
  | .places point count =>
    let digits := (fieldText 9 .zeros (clock.nanosecond % 1000000000)).take count
    if point then '.' :: digits else digits
  | .separator => ['T']
  | .zoneName => ['U', 'T', 'C']
  | .offset _ => ['+', '0', '0', ':', '0', '0']

/-- The text of a moment in a format. -/
def write (format : List FormatItem) (date : Date) (clock : Clock) : String :=
  String.ofList (format.flatMap (itemText date clock))

end Format

end RowFilter
