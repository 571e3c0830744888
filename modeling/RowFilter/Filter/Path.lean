import RowFilter.Filter.Plan

/-!
# Paths

A path names a field by segments with points between them: the first is looked up at the root,
each other one inside the field before.  `Path.resolve` is the plan that follows a path.
-/

namespace RowFilter

namespace Path

/-- The segments of a path.  There is one more than there are points, and a segment may be
empty. -/
def segments (path : String) : List String :=
  (path.toList.splitOn '.').map String.ofList

variable {Field Predicate : Type}

/-- Follows segments from a field on. -/
def descend (path : String) : List String → Field → Plan Field Predicate Field
  | [], field => .done field
  | segment :: rest, field =>
    .ask .lookup (.nested field segment) fun
      | none => .fail (.unknownField path segment)
      | some child => descend path rest child

/-- Follows a path from the root. -/
def resolve (typeOf : Field → DataType) (path : String) : Plan Field Predicate Field :=
  match segments path with
  | [] => .fail (.unknownField path path)
  | first :: rest =>
    .ask .lookup (.root first) fun
      | none => .fail (.unknownField path first)
      | some field =>
        (descend path rest field).bind fun found =>
          .note (.resolved path (rest.length + 1) (typeOf found)) (.done found)

end Path

end RowFilter
