import RowFilter.Number.Numeral

/-!
# Zones

A zone is given by its offset from universal time, a sign and two digits for the hours and for
the minutes; `Zone.offset?` reads it.  Zones that are given by a name have no offset here.
-/

namespace RowFilter

namespace Zone

/-- The seconds of hours and minutes, two digits each; nothing from a day on. -/
def secondsOf? (negative : Bool) (digits : List Char) : Option Int :=
  match digits with
  | [a, b, c, d] =>
    if digits.all Char.isDigit then
      let seconds : Int :=
        (digitValue a * 10 + digitValue b) * 3600 + (digitValue c * 10 + digitValue d) * 60
      if seconds < 86400 then some (if negative then -seconds else seconds) else none
    else none
  | _ => none

/-- The offset of a zone from universal time, in seconds. -/
def offset? (zone : String) : Option Int :=
  match zone.toList with
  | sign :: rest =>
    if sign = '+' || sign = '-' then
      let negative := sign == '-'
      match rest with
      | [a, b, ':', c, d] => secondsOf? negative [a, b, c, d]
      | [a, b, c, d] => secondsOf? negative [a, b, c, d]
      | [a, b] => secondsOf? negative [a, b, '0', '0']
      | _ => none
    else none
  | [] => none

/-- The text of an offset: `Z` at universal time, and otherwise hours and minutes with a
sign. -/
def offsetText (seconds : Int) : String :=
  if seconds = 0 then "Z"
  else
    let minutes := seconds.natAbs / 60
    (if seconds < 0 then "-" else "+") ++ paddedText 2 (minutes / 60) ++ ":"
      ++ paddedText 2 (minutes % 60)

end Zone

end RowFilter
