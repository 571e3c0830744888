import RowFilter.Number.Numeral
import RowFilter.Text.Blank

/-!
# Decimals with a fixed number of places

`readUnscaled?` reads a decimal number as the integer that it becomes when the point is moved so
many places to the right.  Digits beyond these places are rounded, a half going away from zero.
The integers are words of two hundred and fifty-six bits.
-/

namespace RowFilter

/-- Reads a number that fits a word of two hundred and fifty-six bits. -/
def readWide? (digits : List Char) : Option Nat :=
  (readDigits? digits).filter fun n => fitsSigned 256 n

/-- The digits after the point as a number of so many places, rounded. -/
def roundFraction? (places : Nat) (fraction : List Char) : Option Nat :=
  let unit := tenPow (fraction.length - places)
  if fitsSigned 256 unit then
    (readWide? fraction).map fun n =>
      if unit / 2 ≤ n % unit then n / unit + 1 else n / unit
  else none

/-- The magnitude of the digits before and after the point, the point moved so many places to
the right; without any digit it needs a place to be zero. -/
def unscaledMagnitude? (places : Nat) (whole fraction : List Char) : Option Int :=
  if places < fraction.length then do
    let n ← if whole.isEmpty then some 0 else readWide? whole
    let rounded ← roundFraction? places fraction
    return wrapSigned 256 (n * tenPow places + rounded)
  else
    let zeros := List.replicate (places - fraction.length) '0'
    (readWide? (whole ++ fraction ++ zeros)).map Int.ofNat

/-- Reads a decimal number, blanks around it passed over: a sign or none, digits, and digits
after a point. -/
def readUnscaled? (places : Nat) (text : List Char) : Option Int :=
  let read (number fraction : List Char) : Option Int :=
    let (negative, whole) := splitSign number
    (unscaledMagnitude? places whole fraction).bind fun n =>
      if negative then (if n < 0 then none else some (-n)) else some n
  match (trim text).splitOn '.' with
  | [number] => read number []
  | [number, fraction] => read number fraction
  | _ => none

end RowFilter
