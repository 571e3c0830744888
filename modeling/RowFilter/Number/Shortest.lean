import RowFilter.Number.Floating

/-!
# Shortest decimal digits

`FloatFormat.shortest` finds the decimal `digits * 10 ^ exponent` with the fewest digits that
reads back as a given value of a format, and of those the nearest to the value.  The decimals
that read back are those between the midpoints to the two neighbouring values, the midpoints
included when the significand is even.  On the grid of `n` digits only the two neighbours of the
value need testing, and the first grid with a hit has the fewest digits.
-/

namespace RowFilter

/-- A decimal number `digits * 10 ^ exponent`. -/
structure Decimal where
  digits : Nat
  exponent : Int
deriving DecidableEq, Repr, Inhabited

/-- Where a value half way between two decimals of equal length goes. -/
inductive TieRule where
  | toEven
  | up
deriving DecidableEq, Repr

/-- The quotients that read back as one value: `low / den` to `high / den` around `value /
den`. -/
structure ReadBack where
  low : Nat
  value : Nat
  high : Nat
  den : Nat
  closed : Bool

namespace ReadBack

/-- The quotients that read back as `significand * 2 ^ exponent` in a format.  The gap below is
half as wide when the significand is the least of its exponent. -/
def of (format : FloatFormat) (significand : Nat) (exponent : Int) : ReadBack :=
  let below :=
    if significand = twoPow (format.precision - 1) ∧ format.minExponent < exponent then 1 else 2
  let scale (n : Nat) := (shiftQuotient n 1 (2 - exponent)).1
  { low := scale (4 * significand - below)
    value := scale (4 * significand)
    high := scale (4 * significand + 2)
    den := (shiftQuotient 1 1 (2 - exponent)).2
    closed := significand % 2 = 0 }

/-- The same quotients divided by a power of ten. -/
def onGrid (range : ReadBack) (exponent : Int) : ReadBack :=
  if 0 ≤ exponent then { range with den := range.den * tenPow exponent.toNat }
  else
    let factor := tenPow (-exponent).toNat
    { range with
      low := range.low * factor
      value := range.value * factor
      high := range.high * factor }

/-- Whether a number lies among the quotients. -/
def contains (range : ReadBack) (n : Nat) : Bool :=
  if range.closed then range.low ≤ n * range.den && n * range.den ≤ range.high
  else range.low < n * range.den && n * range.den < range.high

/-- The number nearest to the value among its two neighbours that lie in the range. -/
def nearest? (range : ReadBack) (tie : TieRule) : Option Nat :=
  let lower := range.value / range.den
  let upper := lower + 1
  match range.contains lower, range.contains upper with
  | true, true =>
    let rest := range.value % range.den
    if 2 * rest < range.den then some lower
    else if range.den < 2 * rest then some upper
    else match tie with
      | .up => some upper
      | .toEven => some (if lower % 2 = 0 then lower else upper)
  | true, false => some lower
  | false, true => some upper
  | false, false => none

/-- The position of the point: the least `k` with the value below `10 ^ k`.  Every positive
value of the three formats is at least `10 ^ (-350)`, which bounds the search from below. -/
def pointPosition (range : ReadBack) : Int :=
  (decimalDigits (range.value * tenPow 350 / range.den)).length - 350

/-- The first grid of at most `17` digits with a hit, tried from `17 - fuel` digits on. -/
def search (range : ReadBack) (tie : TieRule) (position : Int) : Nat → Decimal
  | 0 => ⟨range.value / range.den, 0⟩
  | fuel + 1 =>
    let exponent := position - (17 - fuel : Nat)
    match (range.onGrid exponent).nearest? tie with
    | some digits => ⟨digits, exponent⟩
    | none => range.search tie position fuel

end ReadBack

/-- Drops the zeros at the end of the digits, at most `fuel` of them. -/
def Decimal.dropZeros (fuel : Nat) (number : Decimal) : Decimal :=
  match fuel with
  | 0 => number
  | fuel + 1 =>
    if number.digits % 10 = 0 ∧ number.digits ≠ 0 then
      Decimal.dropZeros fuel ⟨number.digits / 10, number.exponent + 1⟩
    else number

/-- The shortest decimal that reads back as `significand * 2 ^ exponent`, the nearest of
those. -/
def FloatFormat.shortest (format : FloatFormat) (tie : TieRule) (significand : Nat)
    (exponent : Int) : Decimal :=
  let range := ReadBack.of format significand exponent
  (range.search tie range.pointPosition 17).dropZeros 20

end RowFilter
