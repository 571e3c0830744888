import RowFilter.Calendar.Format

/-!
# Reading in a calendar format

`Format.read?` reads the fields that a whole text shows in a format, from which
`FieldValues.date?` and `FieldValues.clock?` find the moment.
-/

namespace RowFilter

namespace CalendarNumber

/-- The most digits of a number that is read without a sign; any number of them when absent. -/
def width? : CalendarNumber → Option Nat
  | .year | .isoYear => some 4
  | .ordinal => some 3
  | .quarter | .weekdayFromZero | .weekdayFromOne => some 1
  | .nanosecond => some 9
  | .timestamp => none
  | _ => some 2

/-- Whether the number may have a sign, and with one any number of digits. -/
def isSigned : CalendarNumber → Bool
  | .year | .isoYear => true
  | _ => false

/-- The least and the greatest value. -/
def range : CalendarNumber → Int × Int
  | .year | .isoYear => (-(twoPow 31 : Int), twoPow 31 - 1)
  | .century | .yearOfCentury | .isoYearOfCentury => (0, 99)
  | .quarter => (1, 4)
  | .month | .hourOfHalf => (1, 12)
  | .day => (1, 31)
  | .ordinal => (1, 366)
  | .sundayWeek | .mondayWeek => (0, 53)
  | .isoWeek => (1, 53)
  | .weekdayFromZero => (0, 6)
  | .weekdayFromOne => (1, 7)
  | .hour => (0, 23)
  | .minute => (0, 59)
  | .second => (0, 60)
  | .nanosecond => (0, 999999999)
  | .timestamp => (0, twoPow 63 - 1)

/-- The fields that a value of the number shows. -/
def fields (n : Int) : CalendarNumber → List (CalendarField × Int)
  | .year => [(.year, n)]
  | .century => [(.century, n)]
  | .yearOfCentury => [(.yearOfCentury, n)]
  | .isoYear => [(.isoYear, n)]
  | .isoYearOfCentury => [(.isoYearOfCentury, n)]
  | .quarter => [(.quarter, n)]
  | .month => [(.month, n)]
  | .day => [(.day, n)]
  | .ordinal => [(.ordinal, n)]
  | .sundayWeek => [(.sundayWeek, n)]
  | .mondayWeek => [(.mondayWeek, n)]
  | .isoWeek => [(.isoWeek, n)]
  | .weekdayFromZero => [(.weekday, (n + 6) % 7)]
  | .weekdayFromOne => [(.weekday, n - 1)]
  | .hour => [(.half, n / 12), (.hourOfHalf, n % 12)]
  | .hourOfHalf => [(.hourOfHalf, n % 12)]
  | .minute => [(.minute, n)]
  | .second => [(.second, n)]
  | .nanosecond => [(.nanosecond, n)]
  | .timestamp => [(.timestamp, n)]

end CalendarNumber

namespace Format

/-- Reads a number of at least one digit and at most so many. -/
def readDigits (limit : Nat) (text : List Char) : Option (Nat × List Char) :=
  let digits := (text.take limit).takeWhile Char.isDigit
  if digits.isEmpty then none else some (digitsValue 0 digits, text.drop digits.length)

/-- Reads all digits in front of a text, at least one. -/
def readAllDigits (text : List Char) : Option (Nat × List Char) :=
  readDigits text.length text

/-- Reads a number, white space before it passed over. -/
def readNumber (number : CalendarNumber) (text : List Char) : Option (Int × List Char) :=
  let text := trimStart text
  let unsigned :=
    (readDigits (number.width?.getD text.length) text).map fun (n, rest) => ((n : Int), rest)
  if number.isSigned then
    match text with
    | '-' :: rest => (readAllDigits rest).map fun (n, rest) => (-(n : Int), rest)
    | '+' :: rest => (readAllDigits rest).map fun (n, rest) => ((n : Int), rest)
    | _ => unsigned
  else unsigned

/-- Sets fields one after the other. -/
def setFields (values : FieldValues) : List (CalendarField × Int) → Option FieldValues
  | [] => some values
  | (field, n) :: rest => (values.set? field n).bind fun values => setFields values rest

/-- Reads a word in letters of any case and gives the text after it. -/
def readWord : List Char → List Char → Option (List Char)
  | [], text => some text
  | _ :: _, [] => none
  | c :: word, d :: rest => if c.toLower = d.toLower then readWord word rest else none

/-- Reads the first three letters of one of some names, and the rest of the name if asked to and
if it is there; gives the number of the name, `before` being the number of the first one. -/
def readName (whole : Bool) (before : Nat) : List String → List Char → Option (Nat × List Char)
  | [], _ => none
  | name :: names, text =>
    match readWord (name.toList.take 3) text with
    | none => readName whole (before + 1) names text
    | some rest =>
      if whole then some (before, (readWord (name.toList.drop 3) rest).getD rest)
      else some (before, rest)

/-- Reads the digits of a fraction of a second as nanoseconds; digits past the ninth are passed
over. -/
def readNanoseconds (text : List Char) : Option (Nat × List Char) :=
  let digits := text.takeWhile Char.isDigit
  if digits.isEmpty then none
  else
    let kept := digits.take 9
    some (digitsValue 0 kept * tenPow (9 - kept.length), text.drop digits.length)

/-- Reads so many digits of a fraction of a second as nanoseconds. -/
def readPlaces (count : Nat) (text : List Char) : Option (Nat × List Char) :=
  match readDigits count text with
  | some (n, rest) =>
    if rest.length + count = text.length then some (n * tenPow (9 - count), rest) else none
  | none => none

/-- Reads two digits of a number below a limit. -/
def readTwoDigits (limit : Nat) : List Char → Option (Nat × List Char)
  | a :: b :: rest =>
    (readDigits? [a, b]).bind fun n => if n < limit then some (n, rest) else none
  | _ => none

/-- Reads the sign, the hours and the minutes of an offset in seconds.  Colons and white space
may stand between hours and minutes. -/
def readSignedOffset (form : OffsetForm) (text : List Char) : Option (Int × List Char) :=
  match text with
  | [] => none
  | sign :: rest =>
    if sign = '+' || sign = '-' || sign = '−' then do
      let (hours, rest) ← readTwoDigits 100 rest
      let rest := rest.dropWhile fun c => c = ':' || isWhiteSpace c
      let (minutes, rest) ←
        if rest.isEmpty && form = .lenient then some (0, rest) else readTwoDigits 60 rest
      let seconds : Int := hours * 3600 + minutes * 60
      return (if sign = '+' then seconds else -seconds, rest)
    else none

/-- Reads an offset in seconds, white space before it passed over. -/
def readOffset (form : OffsetForm) (text : List Char) : Option (Int × List Char) :=
  let text := trimStart text
  let zulu := if form = .signed then none else readWord ['z'] text
  let word := if form = .universal then readWord ['u', 't', 'c'] text else none
  match zulu.or word with
  | some rest => some (0, rest)
  | none => readSignedOffset form text

/-- Reads an item and gives the fields that it shows. -/
def readItem (item : FormatItem) (text : List Char) :
    Option (List (CalendarField × Int) × List Char) :=
  match item with
  | .literal c =>
    match text with
    | d :: rest => if d = c then some ([], rest) else none
    | [] => none
  | .blank _ => some ([], trimStart text)
  | .number number _ => do
    let (n, rest) ← readNumber number text
    let (least, greatest) := number.range
    if least ≤ n ∧ n ≤ greatest then some (number.fields n, rest) else none
  | .monthName whole =>
    (readName whole 1 monthNames text).map fun (n, rest) => ([(.month, (n : Int))], rest)
  | .weekdayName whole =>
    (readName whole 0 weekdayNames text).map fun (n, rest) => ([(.weekday, (n : Int))], rest)
  | .half _ =>
    match readWord ['a', 'm'] text, readWord ['p', 'm'] text with
    | some rest, _ => some ([(.half, 0)], rest)
    | none, some rest => some ([(.half, 1)], rest)
    | none, none => none
  | .fraction =>
    match text with
    | '.' :: rest => (readNanoseconds rest).map fun (n, rest) => ([(.nanosecond, (n : Int))], rest)
    | _ => some ([], text)
  | .places true count =>
    match text with
    | '.' :: rest => (readPlaces count rest).map fun (n, rest) => ([(.nanosecond, (n : Int))], rest)
    | _ => some ([], text)
  | .places false count =>
    (readPlaces count text).map fun (n, rest) => ([(.nanosecond, (n : Int))], rest)
  | .separator =>
    match text with
    | c :: rest => if c = 'T' || c = 't' || c = ' ' then some ([], rest) else none
    | [] => none
  | .zoneName => some ([], text.dropWhile fun c => !isWhiteSpace c)
  | .offset form => (readOffset form text).map fun (n, rest) => ([(.offset, n)], rest)

/-- Reads items one after the other. -/
def readItems : List FormatItem → FieldValues → List Char → Option (FieldValues × List Char)
  | [], values, text => some (values, text)
  | item :: rest, values, text => do
    let (shown, text) ← readItem item text
    let values ← setFields values shown
    readItems rest values text

/-- The fields that a whole text shows in a format. -/
def read? (format : List FormatItem) (text : List Char) : Option FieldValues :=
  match readItems format FieldValues.none text with
  | some (values, []) => some values
  | _ => none

/-- The date that a whole text shows in a format. -/
def readDate? (format : List FormatItem) (text : List Char) : Option Date :=
  (read? format text).bind FieldValues.date?

end Format

end RowFilter
