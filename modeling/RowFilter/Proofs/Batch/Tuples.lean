import RowFilter.Proofs.Batch.Definite

/-!
# The rows of a batch

`Column.datum` is the value of a column at a row, whichever way it is stored, and
`Batch.tuples` is the list of the rows of a batch.  The rows that a batch keeps are those that
are marked, in their order and with their values (`Batch.tuples_keep`), and a definite mask
selects the rows that it accepts (`Batch.select_eq`).
-/

namespace RowFilter

/-- The value of a column at a row. -/
inductive Datum where
  | null
  | cell (value : Cell)
  | record (fields : List (String × Datum))

namespace Column

mutual

/-- The value of a column at a row. -/
def datum : Column → Nat → Datum
  | .leaf _ cells, row =>
    match cells[row]? with
    | some (some cell) => .cell cell
    | _ => .null
  | .dictionary _ keys values, row =>
    match keys[row]? with
    | some (some key) => values.datum key
    | _ => .null
  | .record valid fields _, row =>
    if valid.all (fun flags => flags[row]? == some true) then .record (fieldData fields row)
    else .null

/-- The values of the fields of a record at a row, with their names. -/
def fieldData : List (String × Column) → Nat → List (String × Datum)
  | [], _ => []
  | (name, column) :: rest, row => (name, column.datum row) :: fieldData rest row

end

/-! ### Marked rows -/

/-- What is marked of the images of some entries are the images of what is marked of them. -/
theorem marked_map {α β : Type} (f : α → β) :
  ∀ (marks : List Bool) (entries : List α),
    marked marks (entries.map f) = (marked marks entries).map f
  | [], _ => rfl
  | true :: _, [] => rfl
  | false :: _, [] => rfl
  | true :: marks, entry :: entries => by
      simp only [List.map_cons, marked, marked_map f marks entries]
  | false :: marks, entry :: entries => by
      simp only [List.map_cons, marked, marked_map f marks entries]

/-- Entries that are marked by a property are those that have it. -/
theorem marked_eq_filter {α : Type} (p : α → Bool) :
  ∀ entries : List α, marked (entries.map p) entries = entries.filter p
  | [] => rfl
  | entry :: entries => by
      rw [List.map_cons, List.filter_cons]
      cases p entry <;> simp [marked, marked_eq_filter p entries]

/-- As many entries are marked as there are marks that are true. -/
theorem length_marked {α : Type} :
  ∀ {marks : List Bool} {entries : List α}, entries.length = marks.length →
    (marked marks entries).length = marks.count true
  | [], _, _ => rfl
  | mark :: marks, entry :: entries, h => by
      have ih := length_marked (Nat.succ.inj h)
      cases mark with
      | true => rw [marked, List.length_cons, ih, List.count_cons_self]
      | false => rw [marked, ih, List.count_cons_of_ne Bool.false_ne_true]

/-- The entry at a place among the marked ones is the entry at the row that has that place among
the marked rows. -/
theorem getElem?_marked {α : Type} {marks : List Bool} {entries : List α} {place row : Nat}
    (hlen : entries.length = marks.length)
    (hrow : (marked marks (List.range marks.length))[place]? = some row) :
  (marked marks entries)[place]? = entries[row]?
  := by
  have hentries : entries.map some = (List.range marks.length).map fun i => entries[i]? := by
    apply List.ext_getElem?
    intro i
    by_cases hi : i < marks.length
    · rw [List.getElem?_map, List.getElem?_map, List.getElem?_range hi, Option.map_some,
        List.getElem?_eq_getElem (hlen ▸ hi), Option.map_some]
    · rw [List.getElem?_eq_none (by rw [List.length_map]; omega),
        List.getElem?_eq_none (by rw [List.length_map, List.length_range]; omega)]
  have hmarked := congrArg (marked marks) hentries
  rw [marked_map, marked_map] at hmarked
  have hplace := congrArg (·[place]?) hmarked
  rw [List.getElem?_map, List.getElem?_map, hrow, Option.map_some] at hplace
  cases hentry : (marked marks entries)[place]? with
  | none =>
      rw [hentry] at hplace
      cases hplace
  | some entry =>
      rw [hentry] at hplace
      apply Option.some.inj hplace

mutual

/-- The value that a column keeps at a place is its value at the row that has that place among
the marked rows. -/
theorem datum_keep {marks : List Bool} {place row : Nat}
    (hrow : (marked marks (List.range marks.length))[place]? = some row) :
  ∀ {column : Column}, column.Fits marks.length →
    (column.keep marks).datum place = column.datum row
  | .leaf _ cells, h => by
      rw [keep, datum, datum, getElem?_marked h hrow]
  | .dictionary _ keys values, h => by
      rw [keep, datum, datum, getElem?_marked h hrow]
  | .record valid fields count, h => by
      obtain ⟨hcount, hvalid, hfields⟩ := h
      rw [keep, datum, datum, fieldData_keep hrow hfields]
      cases valid with
      | none => rfl
      | some flags =>
          rw [Option.map_some, Option.all_some, Option.all_some,
            getElem?_marked (hvalid flags rfl) hrow]

/-- The values that the fields of a record keep at a place are their values at the row that has
that place among the marked rows. -/
theorem fieldData_keep {marks : List Bool} {place row : Nat}
    (hrow : (marked marks (List.range marks.length))[place]? = some row) :
  ∀ {fields : List (String × Column)}, FieldsFit marks.length fields →
    fieldData (keepFields marks fields) place = fieldData fields row
  | [], _ => rfl
  | (name, column) :: rest, h => by
      rw [keepFields, fieldData, fieldData, datum_keep hrow h.1, fieldData_keep hrow h.2]

end

mutual

/-- The rows that a column keeps are of its type. -/
theorem type_keep (marks : List Bool) :
  ∀ column : Column, (column.keep marks).type = column.type
  | .leaf _ _ => rfl
  | .dictionary _ _ _ => rfl
  | .record _ fields _ => by
      rw [keep, type, type, fieldTypes_keep marks fields]

/-- The rows that the fields of a record keep are of their types. -/
theorem fieldTypes_keep (marks : List Bool) :
  ∀ fields : List (String × Column), fieldTypes (keepFields marks fields) = fieldTypes fields
  | [] => rfl
  | (name, column) :: rest => by
      rw [keepFields, fieldTypes, fieldTypes, type_keep marks column, fieldTypes_keep marks rest]

end

end Column

namespace Batch

/-- The values of a batch at a row, with the names of their columns. -/
def tuple (batch : Batch) (row : Nat) : List (String × Datum) :=
  Column.fieldData batch.columns row

/-- The columns of a batch are kept as the fields of a record are. -/
theorem columns_keep (batch : Batch) (marks : List Bool) :
  (batch.keep marks).columns = Column.keepFields marks batch.columns
  := by
  dsimp only [keep]
  induction batch.columns with
  | nil => rfl
  | cons entry rest ih =>
      rw [List.map_cons, ih]
      rfl

/-- The rows of a batch. -/
def tuples (batch : Batch) : List (List (String × Datum)) :=
  (List.range batch.rows).map batch.tuple

/-- The rows that a batch keeps are the marked ones, in their order. -/
theorem tuples_keep {batch : Batch} (h : batch.IsRectangular) {marks : List Bool}
    (hmarks : marks.length = batch.rows) :
  (batch.keep marks).tuples = Column.marked marks batch.tuples
  := by
  have hcount : (Column.marked marks (List.range batch.rows)).length = marks.count true := by
    apply Column.length_marked
    rw [List.length_range, hmarks]
  rw [tuples, tuples, Column.marked_map]
  apply List.ext_getElem?
  intro place
  rw [List.getElem?_map, List.getElem?_map]
  by_cases hplace : place < marks.count true
  · have hkept : (List.range (batch.keep marks).rows)[place]? = some place :=
      List.getElem?_range hplace
    have hrow := List.getElem?_eq_getElem (hcount ▸ hplace)
    rw [hkept, hrow, Option.map_some, Option.map_some, tuple, tuple, columns_keep]
    congr 1
    apply Column.fieldData_keep
    · rw [hmarks]
      apply hrow
    · rw [hmarks]
      apply h
  · have hkept : (List.range (batch.keep marks).rows)[place]? = none := by
      apply List.getElem?_eq_none
      rw [List.length_range]
      apply Nat.le_of_not_lt hplace
    rw [hkept, List.getElem?_eq_none (by omega)]
    rfl

/-- A definite mask selects the rows of a batch that it accepts, in their order. -/
theorem select_eq {batch : Batch} (h : batch.IsRectangular) {mask : Mask}
    (hmask : mask.IsDefinite batch.rows) :
  ∃ kept, batch.select mask = .ok kept ∧
    kept.tuples = ((List.range batch.rows).filter mask.accepts).map batch.tuple ∧
    Column.fieldTypes kept.columns = Column.fieldTypes batch.columns
  := by
  have hmarks : mask.marks = (List.range batch.rows).map mask.accepts := by
    apply Eq.trans (congrArg Mask.marks hmask.eq_ofRows)
    apply Mask.marks_ofRows
  refine ⟨batch.keep mask.marks, ?_, ?_, ?_⟩
  · rw [select, if_pos hmask.length_eq]
  · rw [tuples_keep h (by rw [hmarks, List.length_map, List.length_range]), hmarks, tuples,
      Column.marked_map, Column.marked_eq_filter]
  · rw [columns_keep, Column.fieldTypes_keep]

end Batch

end RowFilter
