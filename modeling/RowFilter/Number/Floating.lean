import RowFilter.Number.Natural
import RowFilter.Number.Rounding

/-!
# Binary floating point numbers

A `FloatFormat` fixes how many significant bits a number keeps and between which exponents;
`half`, `single` and `double` are the three interchange formats.  A `Floating` is a value of any
of them: an exact multiple of a power of two, an infinity or a NaN, each with a sign.
`FloatFormat.round` takes an exact quotient to the nearest value of a format.  Values are
ordered by `Floating.orderKey`, which separates the two zeros and puts the NaNs at the ends.
-/

namespace RowFilter

/-- A binary format: the number of significant bits, and the least and the greatest exponent of
the last one. -/
structure FloatFormat where
  precision : Nat
  minExponent : Int
  maxExponent : Int
deriving DecidableEq, Repr, Inhabited

namespace FloatFormat

/-- The format of sixteen bits. -/
def half : FloatFormat := ⟨11, -24, 5⟩

/-- The format of thirty-two bits. -/
def single : FloatFormat := ⟨24, -149, 104⟩

/-- The format of sixty-four bits. -/
def double : FloatFormat := ⟨53, -1074, 971⟩

end FloatFormat

/-- A floating point value; a finite one is `significand * 2 ^ exponent` with a sign. -/
inductive Floating where
  | nan (negative : Bool)
  | infinite (negative : Bool)
  | finite (negative : Bool) (significand : Nat) (exponent : Int)
deriving DecidableEq, Repr, Inhabited

/-- The quotient `num / den` divided by `2 ^ exponent`, as numerator and denominator. -/
def shiftQuotient (num den : Nat) (exponent : Int) : Nat × Nat :=
  if 0 ≤ exponent then (num, den * twoPow exponent.toNat)
  else (num * twoPow (-exponent).toNat, den)

namespace FloatFormat

/-- The exponent at which the quotient has as many bits before the point as the format keeps,
unless that lies below the least one. -/
def exponentFor (format : FloatFormat) (num den : Nat) : Int :=
  let guess : Int := (num.log2 : Int) - den.log2 - (format.precision - 1 : Nat)
  let shifted := shiftQuotient num den guess
  let exponent :=
    if shifted.1 / shifted.2 < twoPow (format.precision - 1) then guess - 1 else guess
  max format.minExponent exponent

/-- The value of the format nearest to the quotient `num / den`; a tie goes to the even
significand, and what lies beyond the greatest value is infinite. -/
def round (format : FloatFormat) (negative : Bool) (num den : Nat) : Floating :=
  if num = 0 then .finite negative 0 format.minExponent
  else
    let exponent := format.exponentFor num den
    let shifted := shiftQuotient num den exponent
    let significand := divNearestEven shifted.1 shifted.2
    if significand = twoPow format.precision then
      if format.maxExponent < exponent + 1 then .infinite negative
      else .finite negative (twoPow (format.precision - 1)) (exponent + 1)
    else
      if format.maxExponent < exponent then .infinite negative
      else .finite negative significand exponent

/-- The value of the format nearest to an integer. -/
def ofInt (format : FloatFormat) (n : Int) : Floating :=
  format.round (n < 0) n.natAbs 1

/-- The value of the format nearest to `digits * 10 ^ exponent`.

Four hundred decimal places to either side of the point lie beyond every format, and there are
fewer decimal digits than binary ones, so such numbers are settled without computing the power. -/
def ofDecimal (format : FloatFormat) (negative : Bool) (digits : Nat) (exponent : Int) : Floating :=
  if digits = 0 then format.round negative 0 1
  else if 400 < exponent then .infinite negative
  else if exponent + digits.log2 + 1 < -400 then format.round negative 0 1
  else if 0 ≤ exponent then format.round negative (digits * tenPow exponent.toNat) 1
  else format.round negative digits (tenPow (-exponent).toNat)

end FloatFormat

namespace Floating

/-- Whether the value carries a minus sign. -/
def isNegative : Floating → Bool
  | .nan negative | .infinite negative | .finite negative _ _ => negative

/-- Whether the value is zero, of either sign. -/
def isZero : Floating → Bool
  | .finite _ significand _ => significand == 0
  | _ => false

/-- The value of a format nearest to a value. -/
def toFormat (format : FloatFormat) : Floating → Floating
  | .finite negative significand exponent =>
    let quotient := shiftQuotient significand 1 (-exponent)
    format.round negative quotient.1 quotient.2
  | value => value

/-- The product of two values, rounded to a format. -/
def mul (format : FloatFormat) : Floating → Floating → Floating
  | .nan negative, _ => .nan negative
  | _, .nan negative => .nan negative
  | .infinite s, .finite t m _ => if m = 0 then .nan false else .infinite (s != t)
  | .finite s m _, .infinite t => if m = 0 then .nan false else .infinite (s != t)
  | .infinite s, .infinite t => .infinite (s != t)
  | .finite s m e, .finite t n f =>
    let quotient := shiftQuotient (m * n) 1 (-(e + f))
    format.round (s != t) quotient.1 quotient.2

/-- The quotient of two values, rounded to a format. -/
def div (format : FloatFormat) : Floating → Floating → Floating
  | .nan negative, _ => .nan negative
  | _, .nan negative => .nan negative
  | .infinite s, .finite t _ _ => .infinite (s != t)
  | .finite s _ _, .infinite t => format.round (s != t) 0 1
  | .infinite _, .infinite _ => .nan false
  | .finite s m e, .finite t n f =>
    if n = 0 then (if m = 0 then .nan false else .infinite (s != t))
    else
      let quotient := shiftQuotient m n (f - e)
      format.round (s != t) quotient.1 quotient.2

/-- The product of a value and the `n`-th power of a base, `n` below `2 ^ fuel`.  The base is
squared again and again, and each product is rounded to the format. -/
def mulPower (format : FloatFormat) (fuel : Nat) (value base : Floating) (n : Nat) : Floating :=
  match fuel with
  | 0 => value
  | fuel + 1 =>
    let value := if n % 2 = 1 then value.mul format base else value
    mulPower format fuel value (base.mul format base) (n / 2)

/-- The integer that is left when the fraction is dropped; nothing for an infinity or a NaN. -/
def truncate? : Floating → Option Int
  | .finite negative significand exponent =>
    let quotient := shiftQuotient significand 1 (-exponent)
    let magnitude : Int := (quotient.1 / quotient.2 : Nat)
    some (if negative then -magnitude else magnitude)
  | _ => none

/-- The nearest integer, a tie going away from zero; nothing for an infinity or a NaN. -/
def nearestInt? : Floating → Option Int
  | .finite negative significand exponent =>
    let quotient := shiftQuotient significand 1 (-exponent)
    let magnitude : Int := (divHalfAway quotient.1 quotient.2 : Nat)
    some (if negative then -magnitude else magnitude)
  | _ => none

/-- The magnitude on the scale of the least positive value; infinities and NaNs lie above every
finite one. -/
def magnitudeKey : Floating → Nat
  | .finite _ significand exponent => significand * twoPow (exponent + 1074).toNat
  | .infinite _ => twoPow 2100
  | .nan _ => twoPow 2100 + 1

/-- The place of the value in the total order: `-NaN < -inf < … < -0 < 0 < … < inf < NaN`. -/
def orderKey (value : Floating) : Int :=
  if value.isNegative then -(value.magnitudeKey : Int) - 1 else value.magnitudeKey

/-- Numeric equality: the two zeros are equal and a NaN equals nothing. -/
def numericEq : Floating → Floating → Bool
  | .nan _, _ => false
  | _, .nan _ => false
  | x, y => x.magnitudeKey == y.magnitudeKey && (x.isNegative == y.isNegative || x.isZero)

/-- The interchange encoding in sixty-four bits of a value of that format. -/
def bits (value : Floating) : Nat :=
  let sign := if value.isNegative then twoPow 63 else 0
  match value with
  | .nan _ => sign + 0x7ff8000000000000
  | .infinite _ => sign + 0x7ff0000000000000
  | .finite _ significand exponent => sign + significand + (exponent + 1074).toNat * twoPow 52

end Floating

end RowFilter
