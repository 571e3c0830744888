import RowFilter.Calendar.Dates
import RowFilter.Error
import RowFilter.Json.Settings

/-!
# Configuration

A `FilterConfig` holds what may be set for the compilation of a filter.  It and the formats of
dates are read from settings documents, `FilterConfig.read` and `DateFormats.read`, and written
as JSON.
-/

namespace RowFilter

/-- What may be set for the compilation of a filter. -/
structure FilterConfig where
  /-- Whether letter case counts in comparisons of texts. -/
  caseSensitive : Bool
deriving DecidableEq, Repr

namespace FilterConfig

/-- The settings of a configuration. -/
def shapes : List (String × SettingShape) :=
  [("case_sensitive", .flag)]

/-- Reads a configuration; a setting that is not given is as in `otherwise`. -/
def read (otherwise : FilterConfig) (document : String) : Except FilterError FilterConfig :=
  match Settings.read shapes document with
  | .ok found => .ok ⟨Settings.flag found "case_sensitive" otherwise.caseSensitive⟩
  | .error fault => .error (.invalidJson fault)

/-- The configuration as JSON. -/
def toJson (config : FilterConfig) : Json :=
  .object [("case_sensitive", .bool config.caseSensitive)]

end FilterConfig

namespace DateFormats

/-- The settings of the formats of dates. -/
def shapes : List (String × SettingShape) :=
  [("date_formats", .texts), ("enable_format_detection", .flag)]

/-- Reads the formats of dates; a setting that is not given has its default. -/
def read (document : String) : Except FilterError DateFormats :=
  match Settings.read shapes document with
  | .ok found =>
    .ok ⟨Settings.texts found "date_formats" default.formats,
      Settings.flag found "enable_format_detection" default.detect⟩
  | .error fault => .error (.invalidJson fault)

/-- The formats of dates as JSON. -/
def toJson (dates : DateFormats) : Json :=
  .object
    [("date_formats", .array (dates.formats.map .string)),
     ("enable_format_detection", .bool dates.detect)]

end DateFormats

end RowFilter
