import RowFilter.Number.Floating

/-!
# Reading numbers

`readSigned?` and `readUnsigned?` read a whole text as an integer of sixty-four bits, and
`readFloating?` reads it as the nearest value of a floating point format.  Nothing is trimmed: a
text that holds anything besides the number is refused.
-/

namespace RowFilter

/-- The value of a decimal digit. -/
def digitValue (c : Char) : Nat :=
  c.toNat - '0'.toNat

/-- The value of decimal digits, most significant first, on top of the digits before them. -/
def digitsValue (before : Nat) : List Char → Nat
  | [] => before
  | c :: rest => digitsValue (before * 10 + digitValue c) rest

/-- The value of a text of at least one decimal digit. -/
def readDigits? (text : List Char) : Option Nat :=
  if text.isEmpty || !text.all Char.isDigit then none else some (digitsValue 0 text)

/-- The sign in front of a text and the text after it. -/
def splitSign : List Char → Bool × List Char
  | '-' :: rest => (true, rest)
  | '+' :: rest => (false, rest)
  | text => (false, text)

/-- Reads an integer: a sign or none, then digits. -/
def readInteger? (text : List Char) : Option Int :=
  let (negative, digits) := splitSign text
  (readDigits? digits).map fun n => if negative then -(n : Int) else n

/-- Whether an integer fits a signed word of so many bits. -/
def fitsSigned (bits : Nat) (n : Int) : Bool :=
  -(twoPow (bits - 1) : Int) ≤ n && n < twoPow (bits - 1)

/-- Whether an integer fits an unsigned word of so many bits. -/
def fitsUnsigned (bits : Nat) (n : Int) : Bool :=
  0 ≤ n && n < twoPow bits

/-- The integer that a signed word of so many bits holds for an integer: the two differ by a
multiple of the number of words. -/
def wrapSigned (bits : Nat) (n : Int) : Int :=
  (n + twoPow (bits - 1)) % twoPow bits - twoPow (bits - 1)

/-- Reads a signed integer of sixty-four bits. -/
def readSigned? (text : List Char) : Option Int :=
  (readInteger? text).filter (fitsSigned 64)

/-- Reads an unsigned integer of sixty-four bits; a minus sign is refused, even before zero. -/
def readUnsigned? (text : List Char) : Option Nat :=
  let digits := match text with
    | '+' :: rest => rest
    | _ => text
  (readDigits? digits).filter fun n => fitsUnsigned 64 n

/-- Reads the exponent of a number, absent when the text is empty. -/
def readExponent? : List Char → Option Int
  | [] => some 0
  | c :: rest => if c = 'e' || c = 'E' then readInteger? rest else none

/-- Reads a decimal number without a sign as the nearest value of a format: digits with a point
among or beside them, then an exponent or none. -/
def readMagnitude? (format : FloatFormat) (negative : Bool) (text : List Char) :
    Option Floating :=
  let whole := text.takeWhile Char.isDigit
  let afterWhole := text.dropWhile Char.isDigit
  let (fraction, rest) := match afterWhole with
    | '.' :: after => (after.takeWhile Char.isDigit, after.dropWhile Char.isDigit)
    | _ => ([], afterWhole)
  if whole.isEmpty && fraction.isEmpty then none
  else
    (readExponent? rest).map fun exponent =>
      format.ofDecimal negative (digitsValue 0 (whole ++ fraction)) (exponent - fraction.length)

/-- Reads a value of a format: a sign or none, then a decimal number, `inf`, `infinity` or
`nan`, the words in letters of any case. -/
def readFloating? (format : FloatFormat) (text : List Char) : Option Floating :=
  let (negative, rest) := splitSign text
  let word := rest.map Char.toLower
  if word = ['n', 'a', 'n'] then some (.nan negative)
  else if word = "inf".toList || word = "infinity".toList then some (.infinite negative)
  else readMagnitude? format negative rest

end RowFilter
