import RowFilter.Number.Shortest

/-!
# The text of a floating point number

`Floating.text` writes a value with the fewest digits that read back.  A `FloatLayout` says
where the point notation ends, how an exponent is marked and whether a whole number keeps a
digit after the point.  The layouts are `FloatLayout.json` for JSON numbers,
`FloatLayout.plain` for messages and patterns, and `FloatLayout.cell` and
`FloatLayout.singleCell` for the cells of a column.
-/

namespace RowFilter

/-- How the digits of a floating point number are set out. -/
structure FloatLayout where
  /-- The positions of the point that are written without an exponent; all of them when
  absent. -/
  positional : Option (Int × Int)
  /-- Whether a whole number in point notation ends in `.0`. -/
  wholeFraction : Bool
  /-- Whether a positive exponent carries a plus sign. -/
  exponentPlus : Bool
  /-- Where a value half way between two decimals goes. -/
  tie : TieRule
deriving Repr

namespace FloatLayout

/-- JSON numbers: an exponent from `1e+16` on and below `0.00001`. -/
def json : FloatLayout := ⟨some (-4, 16), true, true, .toEven⟩

/-- Messages: never an exponent, and no fraction on a whole number. -/
def plain : FloatLayout := ⟨none, false, false, .up⟩

/-- Cells: as in JSON, without the plus sign. -/
def cell : FloatLayout := ⟨some (-4, 16), true, false, .toEven⟩

/-- Cells of single precision: an exponent from `1e13` on and below `0.000001`. -/
def singleCell : FloatLayout := ⟨some (-5, 13), true, false, .toEven⟩

/-- The text of digits in point notation, the point after the first `position` of them. -/
def pointNotation (layout : FloatLayout) (digits : List Char) (position : Int) : List Char :=
  if position ≤ 0 then
    '0' :: '.' :: (List.replicate (-position).toNat '0' ++ digits)
  else
    let whole := digits.take position.toNat
    let missing := List.replicate (position.toNat - digits.length) '0'
    match digits.drop position.toNat with
    | [] => whole ++ missing ++ (if layout.wholeFraction then ['.', '0'] else [])
    | fraction => whole ++ '.' :: fraction

/-- The text of digits with an exponent, the point after the first of them. -/
def exponentNotation (layout : FloatLayout) (digits : List Char) (position : Int) : List Char :=
  let exponent := position - 1
  let sign := if exponent < 0 then ['-'] else if layout.exponentPlus then ['+'] else []
  let mantissa := match digits with
    | first :: second :: rest => first :: '.' :: second :: rest
    | short => short
  mantissa ++ 'e' :: (sign ++ decimalDigits exponent.natAbs)

/-- The text of a positive decimal. -/
def decimal (layout : FloatLayout) (number : Decimal) : List Char :=
  let digits := decimalDigits number.digits
  let position := digits.length + number.exponent
  match layout.positional with
  | none => layout.pointNotation digits position
  | some (least, greatest) =>
    if least ≤ position ∧ position ≤ greatest then layout.pointNotation digits position
    else layout.exponentNotation digits position

end FloatLayout

/-- The text of a value of a format in a layout. -/
def Floating.text (format : FloatFormat) (layout : FloatLayout) : Floating → String
  | .nan _ => "NaN"
  | .infinite negative => if negative then "-inf" else "inf"
  | .finite negative significand exponent =>
    let magnitude :=
      if significand = 0 then (if layout.wholeFraction then ['0', '.', '0'] else ['0'])
      else layout.decimal (format.shortest layout.tie significand exponent)
    String.ofList (if negative then '-' :: magnitude else magnitude)

end RowFilter
