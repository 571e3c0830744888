import RowFilter.Number.Numeral
import RowFilter.Number.Shortest

/-!
# Decimals in one machine word

A decimal number that is held in a machine word keeps its leading digits, as many as fit
sixty-four bits, and a power of ten, `leadingDecimal`.  `Decimal.toDouble?` takes it to a double
by rounding twice, the digits first and then their product or quotient with the power.
-/

namespace RowFilter

/-- Takes digits onto a number as long as it fits sixty-four bits, and gives the digits that are
left. -/
def takeDigits (before : Nat) : List Char → Nat × List Char
  | [] => (before, [])
  | c :: rest =>
    let next := before * 10 + digitValue c
    if fitsUnsigned 64 next then takeDigits next rest else (before, c :: rest)

/-- The decimal of digits before and after the point, given the exponent beside them.  A digit
before the point that is left out counts as a zero, and one after it not at all. -/
def leadingDecimal (whole fraction : List Char) (exponent : Int) : Decimal :=
  let (before, dropped) := takeDigits 0 whole
  let (digits, unread) := takeDigits before fraction
  ⟨digits, exponent + dropped.length - (fraction.length - unread.length : Nat)⟩

namespace Decimal

/-- A power of ten as a double. -/
def powerOfTen (n : Nat) : Floating :=
  FloatFormat.double.ofDecimal false 1 n

/-- The greatest power of ten that is a double. -/
def greatestPower : Nat := 308

/-- The double of a decimal; nothing for one that is too great.  A decimal that is too small to
be divided by a single power of ten is divided by two, and one that is smaller still is zero. -/
def toDouble? (number : Decimal) : Option Floating :=
  let value := FloatFormat.double.ofInt number.digits
  let divided (value : Floating) (n : Nat) : Floating := value.div .double (powerOfTen n)
  if number.digits = 0 then some value
  else if 0 ≤ number.exponent then
    if number.exponent ≤ greatestPower then
      match value.mul .double (powerOfTen number.exponent.toNat) with
      | .finite negative significand exponent => some (.finite negative significand exponent)
      | _ => none
    else none
  else
    let places := (-number.exponent).toNat
    if places ≤ greatestPower then some (divided value places)
    else if places ≤ 2 * greatestPower then
      some (divided (divided value greatestPower) (places - greatestPower))
    else some (FloatFormat.double.ofInt 0)

end Decimal

/-- A value with a minus sign in front. -/
def Floating.signed (negative : Bool) : Floating → Floating
  | .nan _ => .nan negative
  | .infinite _ => .infinite negative
  | .finite _ significand exponent => .finite negative significand exponent

end RowFilter
