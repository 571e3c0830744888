import RowFilter.Calendar.Instant

/-!
# Times of day as people write them

`Clock.read?` reads a time of day such as `9:26`, `09:26:56.123` or `9:26 pm`.
-/

namespace RowFilter

namespace Clock

/-- The half of the day that ends a text, if one does, and the text before it: whether it is the
second half. -/
def splitHalf (text : List Char) : Option Bool × List Char :=
  match text.reverse with
  | m :: half :: ' ' :: before =>
    if m.toLower = 'm' && half.toLower = 'a' then (some false, before.reverse)
    else if m.toLower = 'm' && half.toLower = 'p' then (some true, before.reverse)
    else (none, text)
  | _ => (none, text)

/-- The hour of the day of an hour of one of its halves, which begin with their twelfth hour. -/
def hourOfHalf? (half : Option Bool) (hour : Nat) : Option Nat :=
  match half with
  | none => some hour
  | some second =>
    if 1 ≤ hour ∧ hour ≤ 12 then some (hour % 12 + if second then 12 else 0) else none

/-- Splits the hour, of one digit or two, from what follows its colon. -/
def splitHour? : List Char → Option (List Char × List Char)
  | a :: ':' :: rest => some ([a], rest)
  | a :: b :: ':' :: rest => some ([a, b], rest)
  | _ => none

/-- Reads the fraction of a second that is left of a text, zero when nothing is left. -/
def readRestNanos? : List Char → Option Nat
  | [] => some 0
  | '.' :: digits =>
    match Format.readNanoseconds digits with
    | some (n, []) => some n
    | _ => none
  | _ => none

/-- Reads the minute and what may follow it: the second and its fraction. -/
def readMinute? : List Char → Option (Nat × Nat × Nat)
  | [a, b] => (readDigits? [a, b]).map fun minute => (minute, 0, 0)
  | a :: b :: ':' :: c :: d :: rest => do
    let minute ← readDigits? [a, b]
    let second ← readDigits? [c, d]
    let nanosecond ← readRestNanos? rest
    return (minute, second, nanosecond)
  | _ => none

/-- Reads a whole text as a time of day. -/
def read? (text : List Char) : Option Clock := do
  let (half, text) := splitHalf text
  let (digits, rest) ← splitHour? text
  let hour ← readDigits? digits
  let hour ← hourOfHalf? half hour
  let (minute, second, nanosecond) ← readMinute? rest
  Clock.of? hour minute second nanosecond

/-- The nanoseconds from midnight to a time of day. -/
def nanos (clock : Clock) : Int :=
  clock.seconds * secondNanos + clock.nanosecond

end Clock

end RowFilter
