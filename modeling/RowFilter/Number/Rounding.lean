/-!
# Rounding quotients

`divNearestEven` and `divHalfAway` round the quotient of two natural numbers to the nearest
natural number; they differ in where they send a quotient that lies half way between two.
-/

namespace RowFilter

/-- The quotient `num / den` rounded to the nearest number, a tie going to the even one. -/
def divNearestEven (num den : Nat) : Nat :=
  let quotient := num / den
  let rest := num % den
  if 2 * rest < den then quotient
  else if den < 2 * rest then quotient + 1
  else if quotient % 2 = 0 then quotient
  else quotient + 1

/-- The quotient `num / den` rounded to the nearest number, a tie going up. -/
def divHalfAway (num den : Nat) : Nat :=
  (2 * num + den) / (2 * den)

end RowFilter
