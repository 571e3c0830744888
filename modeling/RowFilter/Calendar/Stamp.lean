import RowFilter.Calendar.Instant
import RowFilter.Calendar.Zone

/-!
# Stamps

A `Stamp` is a moment as data files show it: a date with dashes, a time of day or none, and an
offset from universal time or none.  `Stamp.read?` reads one, and `readDay?` reads a date, which
may be shown in fewer digits, without dashes, with a sign in front of the year, or by a stamp.
-/

namespace RowFilter

/-- A moment as it is shown. -/
structure Stamp where
  date : Date
  clock : Clock
  /-- The seconds that local time is ahead of universal time, if they are shown. -/
  offset : Option Int

namespace Stamp

/-- Reads a time of day of six digits.  Neither of the two characters after it is a digit. -/
def readBareClock (text : List Char) : Option (Clock × List Char) := do
  let (hour, rest) ← Instant.readExactly 2 text
  let (minute, rest) ← Instant.readExactly 2 rest
  let (second, rest) ← Instant.readExactly 2 rest
  let clock ← Clock.of? hour minute second 0
  if (rest.take 2).any Char.isDigit then none else some (clock, rest)

/-- Reads the offset that is left of a text, nothing when nothing is left. -/
def readOffset? (text : List Char) : Option (Option Int) :=
  match text with
  | [] => some none
  | ['Z'] | ['z'] => some (some 0)
  | _ => (Zone.offset? (String.ofList (trimStart text))).map some

/-- Reads a whole text as a stamp; a date alone stands for midnight. -/
def read? (text : List Char) : Option Stamp := do
  let (date, rest) ← Instant.readDate text
  match rest with
  | [] => some ⟨date, Clock.midnight, none⟩
  | _ =>
    let rest ← Instant.readOne Instant.separators rest
    let (clock, rest) ← (Instant.readClock rest).or (readBareClock rest)
    let offset ← readOffset? rest
    return ⟨date, clock, offset⟩

/-- The seconds from the epoch to a stamp, given the offset of one that shows none. -/
def seconds (stamp : Stamp) (otherwise : Int) : Int :=
  stamp.date.toDays * 86400 + stamp.clock.seconds - stamp.offset.getD otherwise

end Stamp

/-- Reads a date with a sign and any number of digits, four at least, for the year. -/
def readSignedDate? (sign : Char) (text : List Char) : Option Date :=
  let year := text.takeWhile (· != '-')
  if byteLength year < 4 then none
  else
    match text.dropWhile (· != '-') with
    | _ :: rest =>
      match rest.dropWhile (· != '-') with
      | _ :: day => do
        let year ← readInteger? (sign :: year)
        let month ← readUnsigned? (rest.takeWhile (· != '-'))
        let day ← readUnsigned? day
        Date.of? year month day
      | [] => none
    | [] => none

/-- Reads a date with dashes, the month and the day in one digit or two.  What follows it is
passed over unless it has digits. -/
def readDashedDate? (text : List Char) : Option Date := do
  let (year, rest) ← Instant.readExactly 4 text
  let rest ← Instant.readOne ['-'] rest
  let (month, rest) ← Format.readDigits 2 rest
  let rest ← Instant.readOne ['-'] rest
  let (day, rest) ← Format.readDigits 2 rest
  if rest.any Char.isDigit then none else Date.of? year month day

/-- Reads a date of eight digits. -/
def readBareDate? (text : List Char) : Option Date := do
  let (year, rest) ← Instant.readExactly 4 text
  let (month, rest) ← Instant.readExactly 2 rest
  let (day, rest) ← Instant.readExactly 2 rest
  if rest.isEmpty then Date.of? year month day else none

/-- Reads a date.  A text of more than ten bytes has to be a stamp, of which the date in
universal time is taken, unless a sign starts it. -/
def readDay? (text : List Char) : Option Date :=
  match text with
  | [] => none
  | first :: rest =>
    if first = '+' || first = '-' then readSignedDate? first rest
    else if 10 < byteLength text then
      (Stamp.read? text).bind fun stamp => Date.ofDays? (stamp.seconds 0 / 86400)
    else (readDashedDate? text).or (readBareDate? text)

end RowFilter
