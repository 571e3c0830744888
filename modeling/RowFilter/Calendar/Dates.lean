import RowFilter.Calendar.Reading

/-!
# Dates as people write them

A `DateFormats` lists the formats in which a date is accepted, and says whether a text that
shows the date in none of them may show it in a format that its own look gives away,
`detectFormat?`.  `DateFormats.readDate?` reads a date.
-/

namespace RowFilter

/-- The formats in which dates are accepted. -/
structure DateFormats where
  /-- The formats, tried in order. -/
  formats : List String
  /-- Whether the look of a text may give its format away. -/
  detect : Bool
deriving DecidableEq, Repr

/-- Year first, day first with dashes, month first and day first with slashes, day first with
points, digits only, and day first with the name of the month. -/
def DateFormats.default : DateFormats :=
  ⟨["%Y-%m-%d", "%d-%m-%Y", "%m/%d/%Y", "%d/%m/%Y", "%d.%m.%Y", "%Y%m%d", "%d %b %Y", "%d %B %Y"],
   true⟩

instance : Inhabited DateFormats := ⟨DateFormats.default⟩

/-- The number of bytes of a text. -/
def byteLength (text : List Char) : Nat :=
  total (text.map Char.utf8Size)

/-- The format that the slashes of a text give away.  Of day and month the day comes first. -/
def slashFormat? (text : List Char) : Option String :=
  match text.splitOn '/' with
  | [first, _, last] =>
    if byteLength first = 4 then some "%Y/%m/%d"
    else if byteLength last = 4 then some "%d/%m/%Y"
    else none
  | _ => none

/-- The format that the points of a text give away. -/
def pointFormat? (text : List Char) : Option String :=
  match text.splitOn '.' with
  | [_, _, last] => if byteLength last = 4 then some "%d.%m.%Y" else none
  | _ => none

/-- The format that the look of a text gives away. -/
def detectFormat? (text : List Char) : Option String :=
  if byteLength text = 10 ∧ text[4]? = some '-' ∧ text[7]? = some '-' then some "%Y-%m-%d"
  else (slashFormat? text).or <| (pointFormat? text).or <|
    if byteLength text = 8 ∧ text.all Char.isDigit then some "%Y%m%d" else none

/-- The date that a text shows in a format. -/
def readDateIn? (format : String) (text : List Char) : Option Date :=
  (Format.ofText? format).bind fun items => Format.readDate? items text

/-- The date that a text shows in the first format that fits. -/
def DateFormats.readDate? (formats : DateFormats) (text : List Char) : Option Date :=
  (formats.formats.findSome? fun format => readDateIn? format text).or <|
    if formats.detect then (detectFormat? text).bind fun format => readDateIn? format text
    else none

end RowFilter
