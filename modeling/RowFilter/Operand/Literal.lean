import RowFilter.Calendar.Instant
import RowFilter.Json.Printer

/-!
# Literals

A `Literal` is an operand once its type is known: what a field is compared with.
`Literal.toText` is its text, which messages show and patterns are built from, and
`Literal.toJson` names its kind beside its value.
-/

namespace RowFilter

/-- A typed operand. -/
inductive Literal where
  | null
  | bool (value : Bool)
  /-- A signed integer of sixty-four bits. -/
  | int (value : Int)
  /-- An unsigned integer of sixty-four bits. -/
  | uint (value : Nat)
  | float (value : Floating)
  | text (value : String)
  /-- Days since the epoch. -/
  | date (days : Int)
  /-- Nanoseconds since the epoch. -/
  | instant (nanos : Int)
deriving DecidableEq, Repr, Inhabited

/-- A date in the year, the month and the day of the month. -/
def dateFormat : List FormatItem :=
  Format.dashedDate

/-- A time of day in the hour, the minute, the second and its fraction. -/
def clockFormat : List FormatItem :=
  Format.plainClock ++ [.fraction]

/-- The text of a date. -/
def Date.text (date : Date) : String :=
  Format.write dateFormat date Clock.midnight

namespace Literal

/-- Whether the literal is null. -/
def isNull : Literal → Bool
  | .null => true
  | _ => false

/-- The text of a truth value. -/
def boolText (b : Bool) : String :=
  if b then "true" else "false"

/-- The text of a literal.  A day that no date reaches is written as its number. -/
def toText : Literal → String
  | .null => "null"
  | .bool b => boolText b
  | .int n => signedText n
  | .uint n => decimalText n
  | .float x => x.text .double .plain
  | .text s => s
  | .date days =>
    match Date.ofDays? days with
    | some found => found.text
    | none => signedText days
  | .instant nanos =>
    match momentOf? nanos with
    | some (day, clock) => Format.write (dateFormat ++ .blank ' ' :: clockFormat) day clock
    | none => signedText nanos

/-- The sixteen hexadecimal digits of the encoding of a double; `nan` for every NaN. -/
def floatCode : Floating → String
  | .nan _ => "nan"
  | x =>
    let digits := Nat.toDigits 16 x.bits
    String.ofList (List.replicate (16 - digits.length) '0' ++ digits)

/-- The literal as a JSON array of its kind and its value. -/
def toJson : Literal → Json
  | .null => .array [.string "null"]
  | .bool b => .array [.string "bool", .bool b]
  | .int n => .array [.string "int", .string (signedText n)]
  | .uint n => .array [.string "uint", .string (decimalText n)]
  | .float x => .array [.string "float", .string (floatCode x)]
  | .text s => .array [.string "str", .string s]
  | .date days => .array [.string "date", .string (signedText days)]
  | .instant nanos => .array [.string "ts", .string (signedText nanos)]

end Literal

end RowFilter
