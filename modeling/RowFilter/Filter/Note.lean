import RowFilter.Filter.Grammar

/-!
# Notes

A `Note` is a line of the log: what was read, what is being compiled, what a path led to and how
many rows were kept.
-/

namespace RowFilter

/-- An event that is worth a line in the log. -/
inductive Note where
  | parsed (comparisons fields : Nat)
  | compiling (expr : FilterExpr) (caseSensitive : Bool)
  | resolved (path : String) (segments : Nat) (type : DataType)
  | kept (remaining rows : Nat)
deriving Repr

/-- The line of an event. -/
def Note.message : Note → String
  | .parsed comparisons fields =>
    "Parsed filter with " ++ decimalText comparisons ++ " comparisons over " ++ decimalText fields
      ++ " fields"
  | .compiling expr caseSensitive =>
    "Compiling filter " ++ expr.toText ++ " (case_sensitive="
      ++ (if caseSensitive then "true" else "false") ++ ")"
  | .resolved path segments type =>
    "Resolved '" ++ path ++ "' through " ++ decimalText segments ++ " segments to " ++ type.name
  | .kept remaining rows =>
    "Filter kept " ++ decimalText remaining ++ " of " ++ decimalText rows ++ " rows"

/-- The notes of reading a text as a filter: none when nothing was read. -/
def FilterExpr.readingNotes (text : Option String) : List Note :=
  match text, FilterExpr.read text with
  | some written, .ok expr =>
    if written = "" then [] else [.parsed expr.comparisonCount expr.requiredFields.length]
  | _, _ => []

end RowFilter
