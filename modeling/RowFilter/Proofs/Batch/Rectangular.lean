import RowFilter.Batch.Backend
import RowFilter.Proofs.Plan.Run

/-!
# Rectangular batches

A column fits a number of rows when it and the columns inside it have an entry for each of them
(`Column.Fits`); a batch is rectangular when all of its columns fit its rows
(`Batch.IsRectangular`).  The fields that a rectangular batch answers with fit its rows, whether
they are looked up at the root or inside a record, taken out of a dictionary or put in lower
case.
-/

namespace RowFilter

namespace Column

mutual

/-- Whether the column and the columns inside it have an entry for each row.  The values of a
dictionary are not in rows. -/
def Fits (rows : Nat) : Column → Prop
  | .leaf _ cells => cells.length = rows
  | .dictionary _ keys _ => keys.length = rows
  | .record valid fields count =>
    count = rows ∧ (∀ flags ∈ valid, flags.length = rows) ∧ FieldsFit rows fields

/-- Whether the fields of a record have an entry for each row. -/
def FieldsFit (rows : Nat) : List (String × Column) → Prop
  | [] => True
  | (_, column) :: rest => column.Fits rows ∧ FieldsFit rows rest

end

/-- A column that fits has as many rows. -/
theorem Fits.rows_eq {rows : Nat} {column : Column} (h : column.Fits rows) :
  column.rows = rows
  := by
  cases column with
  | leaf type cells => apply h
  | dictionary key keys values => apply h
  | record valid fields count => apply h.1

/-- The field of a name among fields that fit does so as well. -/
theorem FieldsFit.lookup {rows : Nat} {name : String} {column : Column} :
  ∀ {fields : List (String × Column)}, FieldsFit rows fields →
    fields.lookup name = some column → column.Fits rows
  | (other, first) :: rest, h, found => by
      rw [List.lookup_cons] at found
      split at found
      · cases found
        apply h.1
      · apply FieldsFit.lookup h.2 found

/-! ### Picking rows -/

@[simp]
theorem length_pick {α : Type} (entries : List (Option α)) (positions : List (Option Nat)) :
  (pick entries positions).length = positions.length
  := List.length_map _

mutual

/-- The rows of a column at some positions are as many as the positions. -/
theorem fits_take (positions : List (Option Nat)) :
  ∀ column : Column, (column.take positions).Fits positions.length
  | .leaf _ cells => length_pick cells positions
  | .dictionary _ keys _ => length_pick keys positions
  | .record valid fields rows => by
      rw [take, Fits]
      and_intros
      · rfl
      · rintro flags ⟨⟩
        apply List.length_map
      · apply fieldsFit_takeFields positions fields

/-- The rows of the fields of a record at some positions are as many as the positions. -/
theorem fieldsFit_takeFields (positions : List (Option Nat)) :
  ∀ fields : List (String × Column), FieldsFit positions.length (takeFields positions fields)
  | [] => trivial
  | (_, column) :: rest =>
      ⟨fits_take positions column, fieldsFit_takeFields positions rest⟩

end

variable {rows : Nat} {column : Column}

/-- A column without its dictionary has the same rows. -/
theorem Fits.unpack (h : column.Fits rows) :
  column.unpack.Fits rows
  := by
  cases column with
  | dictionary key keys values =>
      rw [← show keys.length = rows from h]
      apply fits_take
  | leaf type cells => apply h
  | record valid fields count => apply h

/-- A column without any dictionary has the same rows. -/
theorem Fits.decoded (h : column.Fits rows) :
  column.decoded.Fits rows
  := by
  cases column with
  | dictionary key keys values =>
      rw [← show keys.length = rows from h, Column.decoded]
      apply fits_take
  | leaf type cells => apply h
  | record valid fields count => apply h

@[simp]
theorem length_masked {α : Type} (marks : List Bool) (entries : List (Option α)) :
  (masked marks entries).length = min marks.length entries.length
  := List.length_zipWith

/-- A column inside a record has the same rows after the nulls of the record. -/
theorem Fits.under {valid : Option (List Bool)} {inside : Column} (h : column.Fits rows)
    (hvalid : ∀ flags ∈ valid, flags.length = rows) (hunder : column.under valid = some inside) :
  inside.Fits rows
  := by
  cases valid with
  | none =>
      cases hunder
      apply h
  | some marks =>
      have hmarks : marks.length = rows := hvalid marks rfl
      simp only [Column.under] at hunder
      split at hunder
      · cases hunder
        apply h
      · cases column with
        | leaf type cells =>
            have hcells : cells.length = rows := h
            dsimp only at hunder
            split at hunder
            · cases hunder
              rw [Fits, length_masked, hmarks, hcells, Nat.min_self]
            · cases hunder
        | dictionary key keys values =>
            have hkeys : keys.length = rows := h
            cases hunder
            rw [Fits, length_masked, hmarks, hkeys, Nat.min_self]
        | record own fields count =>
            obtain ⟨hcount, hown, hfields⟩ := h
            cases hunder
            refine ⟨hcount, ?_, hfields⟩
            rintro flags ⟨⟩
            have hlen : (own.getD (List.replicate count true)).length = rows := by
              cases own with
              | none => rw [Option.getD_none, List.length_replicate, hcount]
              | some flags => apply hown flags rfl
            rw [List.length_zipWith, hmarks, hlen, Nat.min_self]

/-- Every row of a column is null or not. -/
theorem Fits.length_nulls (h : column.Fits rows) :
  column.nulls.length = rows
  := by
  have hdecoded := h.decoded
  rw [nulls]
  split
  · next cells heq =>
      rw [heq] at hdecoded
      rw [List.length_map]
      apply hdecoded
  · next keys _ heq =>
      rw [heq] at hdecoded
      rw [List.length_map]
      apply hdecoded
  · next valid _ count heq =>
      rw [heq] at hdecoded
      obtain ⟨hcount, hvalid, -⟩ := hdecoded
      cases valid with
      | none => rw [List.length_replicate, hcount]
      | some flags => rw [List.length_map, hvalid flags rfl]

/-! ### Texts -/

/-- As many texts are written as there are cells. -/
theorem length_writeCells {write : Cell → Except CastFault (Option String)} :
  ∀ {cells : List (Option Cell)} {written : List (Option String)},
    writeCells write cells = .ok written → written.length = cells.length
  | [], _, h => by
      cases h
      rfl
  | none :: rest, _, h => by
      obtain ⟨others, hothers, rfl⟩ := Except.map_eq_ok_iff.mp h
      rw [List.length_cons, List.length_cons, length_writeCells hothers]
  | some cell :: rest, _, h => by
      obtain ⟨first, -, h'⟩ := Except.bind_eq_ok_iff.mp h
      obtain ⟨others, hothers, h''⟩ := Except.bind_eq_ok_iff.mp h'
      cases h''
      rw [List.length_cons, List.length_cons, length_writeCells hothers]

/-- Every row of a column has a text or null. -/
theorem Fits.length_texts {written : List (Option String)} (h : column.Fits rows)
    (htexts : column.texts = .ok written) :
  written.length = rows
  := by
  cases column with
  | leaf type cells =>
      obtain ⟨write, -, hwritten⟩ := Except.bind_eq_ok_iff.mp htexts
      rw [length_writeCells hwritten, ← h.rows_eq, Column.rows]
  | dictionary key keys values =>
      obtain ⟨-, -, rfl⟩ := Except.map_eq_ok_iff.mp htexts
      rw [length_pick, ← h.rows_eq, Column.rows]
  | record valid fields count => cases htexts

end Column

/-! ### Fields of a batch -/

/-- Whether every column of the batch, and every column inside one, has an entry for each
row. -/
def Batch.IsRectangular (batch : Batch) : Prop :=
  Column.FieldsFit batch.rows batch.columns

/-- A field at the root of a rectangular batch fits its rows. -/
theorem Batch.IsRectangular.field? {batch : Batch} {name : String} {field : ColumnField}
    (h : batch.IsRectangular) (hfield : batch.field? name = some field) :
  field.column.Fits batch.rows
  := by
  obtain ⟨column, hcolumn, rfl⟩ := Option.map_eq_some_iff.mp hfield
  apply Column.Fits.unpack
  apply Column.FieldsFit.lookup h hcolumn

namespace ColumnField

/-- An outcome of casting has a value as one of the data store if and only if it has it. -/
theorem orFault_eq_ok_iff {α : Type} {outcome : Except CastFault α} {value : α} :
  orFault outcome = .ok value ↔ outcome = .ok value
  := by
  cases outcome <;> simp [orFault]

variable {rows : Nat} {field : ColumnField}

/-- A field inside a field that fits some rows fits them as well. -/
theorem fits_nested {name : String} {child : ColumnField} (h : field.column.Fits rows)
    (hchild : field.nested name = .ok (some child)) :
  child.column.Fits rows
  := by
  obtain ⟨path, column⟩ := field
  cases column with
  | leaf type cells => cases hchild
  | dictionary key keys values => cases hchild
  | record valid fields count =>
      obtain ⟨-, hvalid, hfields⟩ := h
      simp only [nested] at hchild
      split at hchild
      · cases hchild
      · next inner hinner =>
          split at hchild
          · next inside hinside =>
              cases hchild
              apply Column.Fits.unpack
              apply Column.Fits.under (hfields.lookup hinner) hvalid hinside
          · cases hchild

/-- A field in lower case fits the rows of the field. -/
theorem fits_lower {lowered : ColumnField} (h : field.column.Fits rows)
    (hlowered : field.lower = .ok lowered) :
  lowered.column.Fits rows
  := by
  obtain ⟨written, hwritten, rfl⟩ := Except.map_eq_ok_iff.mp hlowered
  rw [Column.Fits, List.length_map]
  apply h.length_texts (orFault_eq_ok_iff.mp hwritten)

end ColumnField

end RowFilter
