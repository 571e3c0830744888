import RowFilter.Number.Floating

/-!
# JSON values

`Json` is a JSON document.  A `JsonNumber` is an integer when it was written without fraction
and exponent and fits a signed or an unsigned word of sixty-four bits, and a floating point
number otherwise.  The members of an object are kept sorted by name, each name once.
-/

namespace RowFilter

/-- A JSON number: an integer, or the double nearest to what was written. -/
inductive JsonNumber where
  | integer (value : Int)
  | floating (value : Floating)
deriving DecidableEq, Repr, Inhabited

namespace JsonNumber

/-- Numeric equality of two integers or of two floating point numbers; an integer never equals a
floating point number. -/
def sameAs : JsonNumber → JsonNumber → Bool
  | .integer m, .integer n => m == n
  | .floating x, .floating y => x.numericEq y
  | _, _ => false

end JsonNumber

/-- The kinds of JSON values. -/
inductive JsonKind where
  | null
  | boolean
  | number
  | string
  | array
  | object
deriving DecidableEq, Repr

/-- The name of a kind, as messages give it. -/
def JsonKind.name : JsonKind → String
  | .null => "null"
  | .boolean => "boolean"
  | .number => "number"
  | .string => "string"
  | .array => "array"
  | .object => "object"

/-- A JSON document. -/
inductive Json where
  | null
  | bool (value : Bool)
  | number (value : JsonNumber)
  | string (value : String)
  | array (items : List Json)
  | object (members : List (String × Json))
deriving Repr, Inhabited

namespace Json

/-- The kind of a value. -/
def kind : Json → JsonKind
  | .null => .null
  | .bool _ => .boolean
  | .number _ => .number
  | .string _ => .string
  | .array _ => .array
  | .object _ => .object

/-- Puts a member among sorted ones; a member of the same name is replaced. -/
def insertMember (name : String) (value : Json) :
    List (String × Json) → List (String × Json)
  | [] => [(name, value)]
  | (other, old) :: rest =>
    if name = other then (name, value) :: rest
    else if name < other then (name, value) :: (other, old) :: rest
    else (other, old) :: insertMember name value rest

/-- The object of some members, in the order written; the last of two with one name counts. -/
def ofMembers (members : List (String × Json)) : Json :=
  .object (members.foldl (fun sorted member => insertMember member.1 member.2 sorted) [])

/-- The member of an object with a name. -/
def member? (name : String) : Json → Option Json
  | .object members => members.lookup name
  | _ => none

/-- A JSON integer. -/
def int (n : Int) : Json := .number (.integer n)

end Json

end RowFilter
