/-!
# Natural numbers

`twoPow` and `tenPow` are the powers that the binary and the decimal notation are made of, and
`decimalText`, `signedText` and `paddedText` write numbers in decimal digits.
-/

namespace RowFilter

/-- A power of two. -/
def twoPow (n : Nat) : Nat :=
  Nat.pow 2 n

/-- A power of ten. -/
def tenPow (n : Nat) : Nat :=
  Nat.pow 10 n

/-- The sum of a list of numbers. -/
def total : List Nat → Nat
  | [] => 0
  | n :: rest => n + total rest

/-- The decimal digits of a number, most significant first; zero has one digit. -/
def decimalDigits (n : Nat) : List Char :=
  Nat.toDigits 10 n

/-- The decimal text of a natural number. -/
def decimalText (n : Nat) : String :=
  String.ofList (decimalDigits n)

/-- The decimal text of an integer, a minus sign before a negative one. -/
def signedText (n : Int) : String :=
  if n < 0 then "-" ++ decimalText n.natAbs else decimalText n.natAbs

/-- The decimal text of a number, with zeros in front to reach the width. -/
def paddedText (width n : Nat) : String :=
  let digits := decimalDigits n
  String.ofList (List.replicate (width - digits.length) '0' ++ digits)

end RowFilter
