import RowFilter.Schema.DataType
import RowFilter.Text.Quoted

/-!
# The text of a data type

`DataType.name` is the text of a type in messages.  The fields of a struct are listed by name
and type; in a type that stands inside another one, except directly in a struct, they are
written in full, `DataType.fullName`.
-/

namespace RowFilter

/-- The name of a unit of time. -/
def TimeUnit.name : TimeUnit → String
  | .second => "Second"
  | .millisecond => "Millisecond"
  | .microsecond => "Microsecond"
  | .nanosecond => "Nanosecond"

namespace DataType

/-- A name with arguments in parentheses. -/
def withArguments (name : String) (arguments : List String) : String :=
  name ++ "(" ++ String.intercalate ", " arguments ++ ")"

/-- A field in full, given its name, the text of its type and whether it may be null. -/
def fieldName (name type : String) (nullable : Bool) : String :=
  "Field \x7b name: " ++ quotedName name ++ ", data_type: " ++ type ++ ", nullable: "
    ++ (if nullable then "true" else "false")
    ++ ", dict_id: 0, dict_is_ordered: false, metadata: \x7b\x7d \x7d"

/-- The fields of a struct in full, given the texts of the fields. -/
def structName (fields : List String) : String :=
  "Struct([" ++ String.intercalate ", " fields ++ "])"

/-- The name of a layout of texts: `Utf8` and its like. -/
def layoutName (short : String) : TextLayout → String
  | .short => short
  | .long => "Large" ++ short
  | .view => short ++ "View"

/-- The name of a layout of lists. -/
def listName : ListLayout → String
  | .short => "List"
  | .long => "LargeList"
  | .shortView => "ListView"
  | .longView => "LargeListView"

mutual

/-- The text of a type inside another one. -/
def fullName : DataType → String
  | .null => "Null"
  | .boolean => "Boolean"
  | .int size => "Int" ++ decimalText size.bits
  | .uint size => "UInt" ++ decimalText size.bits
  | .float size =>
    match size with
    | .w16 => "Float16"
    | .w32 => "Float32"
    | .w64 => "Float64"
  | .text layout => layoutName "Utf8" layout
  | .binary long => if long then "LargeBinary" else "Binary"
  | .fixedBinary bytes => withArguments "FixedSizeBinary" [decimalText bytes]
  | .date32 => "Date32"
  | .date64 => "Date64"
  | .interval => "Interval(DayTime)"
  | .timestamp unit zone =>
    withArguments "Timestamp"
      [unit.name,
       match zone with
       | none => "None"
       | some name => withArguments "Some" [quotedName name]]
  | .timeOfDay wide unit => withArguments (if wide then "Time64" else "Time32") [unit.name]
  | .duration unit => withArguments "Duration" [unit.name]
  | .decimal wide precision scale =>
    withArguments (if wide then "Decimal256" else "Decimal128")
      [decimalText precision, signedText scale]
  | .dictionary key value => withArguments "Dictionary" [key.fullName, value.fullName]
  | .list layout item => withArguments (listName layout) [fieldName "item" item.fullName true]
  | .fixedList item size =>
    withArguments "FixedSizeList" [fieldName "item" item.fullName true, decimalText size]
  | .map key value =>
    withArguments "Map"
      [fieldName "entries"
        (structName [fieldName "keys" key.fullName false, fieldName "values" value.fullName true])
        false,
       "false"]
  | .union member =>
    withArguments "Union" ["[(0, " ++ fieldName "item" member.fullName true ++ ")]", "Sparse"]
  | .runs value =>
    withArguments "RunEndEncoded"
      [fieldName "run_ends" "Int32" false, fieldName "values" value.fullName true]
  | .struct fields => structName (fullFields fields)

/-- The fields of a struct in full. -/
def fullFields : List (String × DataType) → List String
  | [] => []
  | (name, type) :: rest => fieldName name type.fullName true :: fullFields rest

end

mutual

/-- The text of a type. -/
def name : DataType → String
  | .struct fields => withArguments "Struct" (fieldNames fields)
  | type => type.fullName

/-- The names and types of the fields of a struct. -/
def fieldNames : List (String × DataType) → List String
  | [] => []
  | (field, type) :: rest => (field ++ " " ++ type.name) :: fieldNames rest

end

end DataType

end RowFilter
