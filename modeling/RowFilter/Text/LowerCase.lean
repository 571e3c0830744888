import RowFilter.Text.CaseTable
import RowFilter.Text.Ranges

/-!
# Lower case

`lowerCase` writes a text in lower case.  Each character has its own lower-case form, except
that a capital sigma at the end of a word becomes a final sigma.
-/

namespace RowFilter

/-- The lower-case form of a character; that of the dotted capital I has two characters. -/
def lowerChar (c : Char) : List Char :=
  if c = 'İ' then ['i', '\u0307']
  else
    match lowerCaseRanges.find? fun range => range.contains c.toNat with
    | some range => [Char.ofNat (c.toNat + range.change).toNat]
    | none => [c]

/-- Whether a text begins with a cased character, those that do not count passed over. -/
def beginsCased (text : List Char) : Bool :=
  match text.dropWhile (inRanges caseIgnorableRanges) with
  | c :: _ => inRanges casedRanges c
  | [] => false

/-- The lower-case form of a text after the characters `before`, the nearest of them first. -/
def lowerAfter (before : List Char) : List Char → List Char
  | [] => []
  | c :: rest =>
    let lowered :=
      if c = 'Σ' then (if beginsCased before && !beginsCased rest then ['ς'] else ['σ'])
      else lowerChar c
    lowered ++ lowerAfter (c :: before) rest

/-- A text in lower case. -/
def lowerCase (text : List Char) : List Char :=
  lowerAfter [] text

/-- A string in lower case. -/
def lowerText (s : String) : String :=
  String.ofList (lowerCase s.toList)

end RowFilter
