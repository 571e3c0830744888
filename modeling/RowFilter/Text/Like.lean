/-!
# Patterns with wildcards

A pattern is a list of `LikeItem`s: a character, one character of any kind, or any run of
characters.  `Like.ofChars` reads a pattern in which `%` stands for any run, `_` for one
character, and a backslash takes the special meaning from the character after it. `Like.fits`
tells whether a whole text has the shape of a pattern.
-/

namespace RowFilter

/-- An item of a pattern. -/
inductive LikeItem where
  | char (c : Char)
  | anyChar
  | anyRun
deriving DecidableEq, Repr

namespace Like

/-- Reads a pattern.  A backslash at the end stands for itself. -/
def ofChars : List Char → List LikeItem
  | [] => []
  | '\\' :: c :: rest => .char c :: ofChars rest
  | c :: rest =>
    (if c = '%' then .anyRun else if c = '_' then .anyChar else .char c) :: ofChars rest

/-- Whether a character belongs to those that an item stands for, and the rest of the pattern
fits what follows it: for each end of a text, given what the rest of the pattern fits. -/
def fitsBefore (accepts : Char → Bool) : List Char → List Bool → List Bool
  | c :: text, _ :: fit :: later => (accepts c && fit) :: fitsBefore accepts text (fit :: later)
  | _, _ => [false]

/-- Whether some later end is marked: for each end of a text. -/
def anyLater : List Bool → List Bool
  | [] => []
  | fit :: later =>
    let marked := anyLater later
    (fit || marked.headD false) :: marked

/-- Whether each end of a text has the shape of a pattern, from the whole text to the empty
one. -/
def fitsEnds : List LikeItem → List Char → List Bool
  | [], text => text.map (fun _ => false) ++ [true]
  | .char c :: pattern, text => fitsBefore (· == c) text (fitsEnds pattern text)
  | .anyChar :: pattern, text => fitsBefore (fun _ => true) text (fitsEnds pattern text)
  | .anyRun :: pattern, text => anyLater (fitsEnds pattern text)

/-- Whether a whole text has the shape of a pattern. -/
def fits (pattern : List LikeItem) (text : List Char) : Bool :=
  (fitsEnds pattern text).headD false

end Like

/-- Whether a whole text has the shape of a written pattern. -/
def likeText (pattern text : String) : Bool :=
  Like.fits (Like.ofChars pattern.toList) text.toList

end RowFilter
