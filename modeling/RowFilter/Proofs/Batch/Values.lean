import RowFilter.Proofs.Batch.Faults
import RowFilter.Proofs.Batch.Kept

/-!
# The values of a column

Columns of different layouts may have the same values.  A column is well built when the keys of
its dictionaries have values, and its cells are not themselves columns (`Column.WellBuilt`).  Such
a column has the same values without its dictionaries (`Column.WellBuilt.datum_unpack`,
`Column.WellBuilt.datum_decoded`), and inside a record those values that are not under a null of
the record (`Column.datum_under`).  What a column answers is settled by its values: which of its
rows are null (`Column.nulls_eq`), and their texts, if all of them can be written
(`Column.getElem?_texts`).
-/

namespace RowFilter

/-! ### Types without dictionaries -/

namespace DataType

/-- Whether the values are stored in a dictionary. -/
def isDictionary : DataType → Bool
  | .dictionary _ _ => true
  | _ => false

/-- Whether the values are records, stored directly. -/
def isStruct : DataType → Bool
  | .struct _ => true
  | _ => false

/-- The type of a column without its dictionary; the values may have one of their own. -/
def unpacked : DataType → DataType
  | .dictionary _ value => value
  | type => type

/-- The type of a column without any dictionary around its values. -/
def decoded : DataType → DataType
  | .dictionary _ value => value.decoded
  | type => type

theorem unpacked_of_not_isDictionary {type : DataType} (h : type.isDictionary = false) :
  type.unpacked = type
  := by
  cases type with
  | dictionary key value => cases h
  | _ => rfl

theorem decoded_of_not_isDictionary {type : DataType} (h : type.isDictionary = false) :
  type.decoded = type
  := by
  cases type with
  | dictionary key value => cases h
  | _ => rfl

/-- The text of a value of a type, if it has one. -/
def writeDatum (type : DataType) : Datum → Option String
  | .cell value =>
    match Column.cellWriter type with
    | .ok write => ((write value).toOption).join
    | .error _ => none
  | _ => none

/-- The values of a dictionary have the texts that they have on their own. -/
theorem writeDatum_dictionary (key type : DataType) (value : Datum) :
  (dictionary key type).writeDatum value = type.writeDatum value
  := by
  cases value with
  | cell value => rw [writeDatum, writeDatum, Column.cellWriter]
  | _ => rfl

end DataType

/-- Whether a value is null. -/
def Datum.isNull : Datum → Bool
  | .null => true
  | _ => false

namespace Column

/-! ### Well-built columns -/

mutual

/-- Whether the keys of all dictionaries in the column have values, and no cells are those of a
dictionary or a record. -/
def WellBuilt : Column → Prop
  | .leaf type _ => type.isDictionary = false ∧ type.isStruct = false
  | .dictionary _ keys values =>
    (∀ key, some key ∈ keys → key < values.rows) ∧ values.Fits values.rows ∧ values.WellBuilt
  | .record _ fields _ => FieldsWellBuilt fields

/-- Whether the fields of a record are well built. -/
def FieldsWellBuilt : List (String × Column) → Prop
  | [] => True
  | (_, column) :: rest => column.WellBuilt ∧ FieldsWellBuilt rest

end

/-- The field of a name among fields that are well built is well built. -/
theorem FieldsWellBuilt.lookup {name : String} {column : Column} :
  ∀ {fields : List (String × Column)}, FieldsWellBuilt fields →
    fields.lookup name = some column → column.WellBuilt
  | (other, first) :: rest, h, found => by
      rw [List.lookup_cons] at found
      split at found
      · cases found
        apply h.1
      · apply FieldsWellBuilt.lookup h.2 found

theorem mem_of_mem_pick {α : Type} {entries : List (Option α)} {positions : List (Option Nat)}
    {entry : α} (h : some entry ∈ pick entries positions) :
  some entry ∈ entries
  := by
  obtain ⟨position, _, hentry⟩ := List.mem_map.mp h
  obtain ⟨i, _, hjoined⟩ := Option.bind_eq_some_iff.mp hentry
  apply List.mem_of_getElem? (Option.join_eq_some_iff.mp hjoined)

mutual

/-- The rows of a well-built column at some positions are well built. -/
theorem WellBuilt.take (positions : List (Option Nat)) :
  ∀ {column : Column}, column.WellBuilt → (column.take positions).WellBuilt
  | .leaf _ _, h => h
  | .dictionary _ _ _, ⟨hkeys, hvalues⟩ =>
      ⟨fun key hmem => hkeys key (mem_of_mem_pick hmem), hvalues⟩
  | .record _ _ _, h => FieldsWellBuilt.takeFields positions h

/-- The rows of the fields of a record at some positions are well built if the fields are. -/
theorem FieldsWellBuilt.takeFields (positions : List (Option Nat)) :
  ∀ {fields : List (String × Column)}, FieldsWellBuilt fields →
    FieldsWellBuilt (Column.takeFields positions fields)
  | [], _ => trivial
  | _ :: _, ⟨hcolumn, hrest⟩ =>
      ⟨WellBuilt.take positions hcolumn, FieldsWellBuilt.takeFields positions hrest⟩

end

/-- A well-built column is so without its dictionary. -/
theorem WellBuilt.unpack {column : Column} (h : column.WellBuilt) :
  column.unpack.WellBuilt
  := by
  cases column with
  | dictionary key keys values => apply h.2.2.take keys
  | leaf type cells => apply h
  | record valid fields rows => apply h

/-- A well-built column is so without any dictionary. -/
theorem WellBuilt.decoded :
  ∀ {column : Column}, column.WellBuilt → column.decoded.WellBuilt
  | .leaf _ _, h => h
  | .dictionary _ keys _, h => h.2.2.decoded.take keys
  | .record _ _ _, h => h

/-- A column inside a record is left as it is where no row becomes null; otherwise the nulls of the
record are written to its cells, its keys or its own nulls. -/
theorem under_cases {valid : Option (List Bool)} {column inside : Column}
    (h : column.under valid = some inside) :
  (inside = column ∧ ∀ flags ∈ valid, flags.all id = true) ∨
  ∃ flags, valid = some flags ∧
    match column with
    | .leaf type cells => inside = .leaf type (masked flags cells)
    | .dictionary key keys values => inside = .dictionary key (masked flags keys) values
    | .record own fields rows =>
      inside = .record (some (List.zipWith Bool.and flags (presence own rows))) fields rows
  := by
  cases valid with
  | none =>
      cases h
      exact .inl ⟨rfl, by rintro flags ⟨⟩⟩
  | some flags =>
      simp only [under] at h
      split at h
      · next hall =>
          cases h
          refine .inl ⟨rfl, ?_⟩
          rintro _ ⟨⟩
          apply hall
      · refine .inr ⟨flags, rfl, ?_⟩
        cases column with
        | leaf type cells =>
            dsimp only at h ⊢
            split at h
            · exact (Option.some.inj h).symm
            · cases h
        | dictionary key keys values => exact (Option.some.inj h).symm
        | record own fields rows => exact (Option.some.inj h).symm

theorem getElem?_masked {α : Type} (marks : List Bool) (entries : List (Option α)) (row : Nat) :
  (masked marks entries)[row]?
    = match marks[row]?, entries[row]? with
      | some mark, some entry => some (if mark then entry else none)
      | _, _ => none
  := by
  rw [masked, List.getElem?_zipWith]
  cases marks[row]? <;> cases entries[row]? <;> rfl

theorem mem_of_mem_masked {α : Type} {marks : List Bool} {entries : List (Option α)} {entry : α}
    (h : some entry ∈ masked marks entries) :
  some entry ∈ entries
  := by
  obtain ⟨row, hrow⟩ := List.mem_iff_getElem?.mp h
  rw [getElem?_masked] at hrow
  split at hrow
  · next mark found _ hfound =>
      apply List.mem_of_getElem? (i := row)
      cases mark with
      | true => rw [hfound, ← hrow, if_pos rfl]
      | false => cases hrow
  · cases hrow

/-- A well-built column is so inside a record. -/
theorem WellBuilt.under {valid : Option (List Bool)} {column inside : Column}
    (h : column.WellBuilt) (hinside : column.under valid = some inside) :
  inside.WellBuilt
  := by
  obtain ⟨rfl, -⟩ | ⟨flags, -, hcolumn⟩ := under_cases hinside
  · apply h
  · cases column with
    | leaf type cells =>
        cases hcolumn
        apply h
    | dictionary key keys values =>
        cases hcolumn
        exact ⟨fun key hmem => h.1 key (mem_of_mem_masked hmem), h.2⟩
    | record own fields rows =>
        cases hcolumn
        apply h

/-! ### Types -/

mutual

/-- The rows of a column at some positions are of its type. -/
theorem type_take (positions : List (Option Nat)) :
  ∀ column : Column, (column.take positions).type = column.type
  | .leaf _ _ => rfl
  | .dictionary _ _ _ => rfl
  | .record _ fields _ => by
      rw [take, type, type, fieldTypes_takeFields positions fields]

/-- The rows of the fields of a record at some positions are of their types. -/
theorem fieldTypes_takeFields (positions : List (Option Nat)) :
  ∀ fields : List (String × Column), fieldTypes (takeFields positions fields) = fieldTypes fields
  | [] => rfl
  | (name, column) :: rest => by
      rw [takeFields, fieldTypes, fieldTypes, type_take positions column,
        fieldTypes_takeFields positions rest]

end

/-- A well-built column without its dictionary is of its type without the dictionary. -/
theorem WellBuilt.type_unpack {column : Column} (h : column.WellBuilt) :
  column.unpack.type = column.type.unpacked
  := by
  cases column with
  | dictionary key keys values => apply type_take
  | leaf type cells => exact (DataType.unpacked_of_not_isDictionary h.1).symm
  | record valid fields rows => rfl

/-- A well-built column without any dictionary is of its type without any. -/
theorem WellBuilt.type_decoded :
  ∀ {column : Column}, column.WellBuilt → column.decoded.type = column.type.decoded
  | .leaf _ _, h => (DataType.decoded_of_not_isDictionary h.1).symm
  | .dictionary _ keys _, h => (type_take keys _).trans h.2.2.type_decoded
  | .record _ _ _, _ => rfl

/-- A column is of the same type inside a record. -/
theorem type_under {valid : Option (List Bool)} {column inside : Column}
    (h : column.under valid = some inside) :
  inside.type = column.type
  := by
  obtain ⟨rfl, -⟩ | ⟨flags, -, hcolumn⟩ := under_cases h
  · rfl
  · cases column <;> rw [hcolumn] <;> rfl

theorem lookup_fieldTypes (name : String) :
  ∀ fields : List (String × Column),
    (fieldTypes fields).lookup name = (fields.lookup name).map type
  | [] => rfl
  | (other, column) :: rest => by
      rw [fieldTypes, List.lookup_cons, List.lookup_cons, lookup_fieldTypes name rest]
      split <;> rfl

/-! ### Values -/

theorem lookup_fieldData (name : String) (row : Nat) :
  ∀ fields : List (String × Column),
    (fieldData fields row).lookup name = (fields.lookup name).map fun column => column.datum row
  | [] => rfl
  | (other, column) :: rest => by
      rw [fieldData, List.lookup_cons, List.lookup_cons, lookup_fieldData name row rest]
      split <;> rfl

theorem getElem?_pick {α : Type} (entries : List (Option α)) (positions : List (Option Nat))
    (row : Nat) :
  (pick entries positions)[row]?
    = positions[row]?.map fun position => position.bind fun i => (entries[i]?).join
  := List.getElem?_map

/-- An entry among those at some positions is the entry at the position, if there is one. -/
theorem join_pick {α : Type} (entries : List (Option α)) (positions : List (Option Nat))
    (row : Nat) :
  (pick entries positions)[row]?.join = positions[row]?.join.bind fun i => entries[i]?.join
  := by
  rw [getElem?_pick]
  cases positions[row]? <;> rfl

/-- An entry is left where it is marked. -/
theorem join_masked {α : Type} (marks : List Bool) (entries : List (Option α)) (row : Nat) :
  (masked marks entries)[row]?.join = if marks[row]? = some true then entries[row]?.join else none
  := by
  rw [getElem?_masked]
  cases marks[row]? with
  | none => rfl
  | some mark => cases entries[row]? <;> cases mark <;> rfl

theorem datum_leaf (type : DataType) (cells : List (Option Cell)) (row : Nat) :
  (leaf type cells).datum row = cells[row]?.join.elim .null .cell
  := by
  rw [datum]
  cases cells[row]? with
  | none => rfl
  | some cell => cases cell <;> rfl

theorem datum_dictionary (key : DataType) (keys : List (Option Nat)) (values : Column)
    (row : Nat) :
  (dictionary key keys values).datum row = keys[row]?.join.elim .null values.datum
  := by
  rw [datum]
  cases keys[row]? with
  | none => rfl
  | some position => cases position <;> rfl

/-- Whether a row of a record is not null. -/
def present (valid : Option (List Bool)) (row : Nat) : Bool :=
  valid.all fun flags => flags[row]? == some true

theorem datum_record (valid : Option (List Bool)) (fields : List (String × Column))
    (rows row : Nat) :
  (record valid fields rows).datum row
    = if present valid row then .record (fieldData fields row) else .null
  := by
  rw [datum]
  rfl

theorem present_some {flags : List Bool} {row : Nat} (h : row < flags.length) :
  present (some flags) row = flags[row]
  := by
  rw [present, Option.all_some, List.getElem?_eq_getElem h]
  cases flags[row] <;> rfl

/-- A row is present in a record if and only if it is not marked as null. -/
theorem getElem?_presence {valid : Option (List Bool)} {rows row : Nat}
    (hvalid : ∀ flags ∈ valid, flags.length = rows) (hrow : row < rows) :
  (presence valid rows)[row]? = some (present valid row)
  := by
  cases valid with
  | none => exact List.getElem?_replicate_of_lt hrow
  | some flags =>
      have hflags : row < flags.length := hvalid flags rfl ▸ hrow
      rw [present_some hflags]
      apply List.getElem?_eq_getElem

/-- A row at a position is not null if the position has a property. -/
theorem present_positions {row i : Nat} {positions : List (Option Nat)}
    (hrow : positions[row]? = some (some i)) (p : Nat → Bool) :
  present (some (positions.map fun position => position.any p)) row = p i
  := by
  rw [present, Option.all_some, List.getElem?_map, hrow, Option.map_some, Option.any_some]
  cases p i <;> rfl

mutual

/-- The value of a column at a row among those at some positions is its value at the position. -/
theorem datum_take {rows row i : Nat} {positions : List (Option Nat)}
    (hrow : positions[row]? = some (some i)) (hi : i < rows) :
  ∀ {column : Column}, column.Fits rows → (column.take positions).datum row = column.datum i
  | .leaf _ _, _ => by
      rw [take, datum_leaf, datum_leaf, join_pick, hrow]
      rfl
  | .dictionary _ _ _, _ => by
      rw [take, datum_dictionary, datum_dictionary, join_pick, hrow]
      rfl
  | .record valid _ _, ⟨hcount, _, hfields⟩ => by
      rw [take, datum_record, datum_record, fieldData_takeFields hrow hi hfields,
        present_positions hrow]
      congr 2
      cases valid with
      | none =>
          rw [hcount]
          exact decide_eq_true hi
      | some flags =>
          dsimp only
          rw [present, Option.all_some, List.getD_eq_getElem?_getD]
          cases flags[i]? with
          | none => rfl
          | some flag => cases flag <;> rfl

/-- The values of the fields of a record at a row among those at some positions are their values at
the position. -/
theorem fieldData_takeFields {rows row i : Nat} {positions : List (Option Nat)}
    (hrow : positions[row]? = some (some i)) (hi : i < rows) :
  ∀ {fields : List (String × Column)}, FieldsFit rows fields →
    fieldData (takeFields positions fields) row = fieldData fields i
  | [], _ => rfl
  | (name, column) :: rest, ⟨hcolumn, hrest⟩ => by
      rw [takeFields, fieldData, fieldData, datum_take hrow hi hcolumn,
        fieldData_takeFields hrow hi hrest]

end

/-- Where there is no position, the value is null. -/
theorem datum_take_null {positions : List (Option Nat)} {row : Nat}
    (h : positions[row]?.join = none) (column : Column) :
  (column.take positions).datum row = .null
  := by
  cases column with
  | leaf type cells =>
      rw [take, datum_leaf, join_pick, h]
      rfl
  | dictionary key keys values =>
      rw [take, datum_dictionary, join_pick, h]
      rfl
  | record valid fields rows =>
      rw [take, datum_record, present, Option.all_some, List.getElem?_map]
      cases hrow : positions[row]? with
      | none => rfl
      | some position =>
          rw [hrow, Option.join_some] at h
          rw [h]
          rfl

/-- The value of a dictionary is the one that its key refers to, also when the values are put in
the rows of the dictionary. -/
theorem datum_take_keys {keys : List (Option Nat)} {values stored : Column} {rows : Nat}
    (hkeys : ∀ key, some key ∈ keys → key < rows) (hvalues : values.Fits rows)
    (hdatum : ∀ key, values.datum key = stored.datum key) (key : DataType) (row : Nat) :
  (values.take keys).datum row = (dictionary key keys stored).datum row
  := by
  rw [datum_dictionary]
  cases hposition : keys[row]?.join with
  | none => apply datum_take_null hposition
  | some i =>
      have hrow := Option.join_eq_some_iff.mp hposition
      rw [datum_take hrow (hkeys i (List.mem_of_getElem? hrow)) hvalues, hdatum]
      rfl

/-- A well-built column has the same values without its dictionary. -/
theorem WellBuilt.datum_unpack {column : Column} (h : column.WellBuilt) (row : Nat) :
  column.unpack.datum row = column.datum row
  := by
  cases column with
  | dictionary key keys values => apply datum_take_keys h.1 h.2.1 fun _ => rfl
  | leaf type cells => rfl
  | record valid fields rows => rfl

/-- A well-built column has the same values without any dictionary. -/
theorem WellBuilt.datum_decoded :
  ∀ {column : Column}, column.WellBuilt → ∀ row, column.decoded.datum row = column.datum row
  | .leaf _ _, _, _ => rfl
  | .dictionary key _ _, h, row =>
      datum_take_keys h.1 h.2.1.decoded (fun _ => h.2.2.datum_decoded _) key row
  | .record _ _ _, _, _ => rfl

/-- A value inside a record is null where the record is. -/
theorem datum_under {valid : Option (List Bool)} {column inside : Column} {rows row : Nat}
    (h : column.Fits rows) (hvalid : ∀ flags ∈ valid, flags.length = rows)
    (hinside : column.under valid = some inside) (hrow : row < rows) :
  inside.datum row = if present valid row then column.datum row else .null
  := by
  obtain ⟨rfl, hall⟩ | ⟨flags, rfl, hcolumn⟩ := under_cases hinside
  · have hpresent : present valid row = true := by
      cases valid with
      | none => rfl
      | some flags =>
          have hflags : row < flags.length := hvalid flags rfl ▸ hrow
          rw [present_some hflags]
          apply List.all_eq_true.mp (hall flags rfl) _ (List.getElem_mem hflags)
    rw [if_pos hpresent]
  · have hflags : row < flags.length := hvalid flags rfl ▸ hrow
    rw [present_some hflags]
    cases column with
    | leaf type cells =>
        cases hcolumn
        rw [datum_leaf, datum_leaf, join_masked, List.getElem?_eq_getElem hflags]
        cases flags[row] <;> rfl
    | dictionary key keys values =>
        cases hcolumn
        rw [datum_dictionary, datum_dictionary, join_masked, List.getElem?_eq_getElem hflags]
        cases flags[row] <;> rfl
    | record own fields count =>
        obtain ⟨rfl, hown, -⟩ := h
        cases hcolumn
        have hpresent : present (some (List.zipWith Bool.and flags (presence own count))) row
            = (flags[row] && present own row) := by
          rw [present, Option.all_some, List.getElem?_zipWith, getElem?_presence hown hrow,
            List.getElem?_eq_getElem hflags]
          cases flags[row] <;> cases present own row <;> rfl
        rw [datum_record, datum_record, hpresent]
        cases flags[row] <;> rfl

/-! ### Answers -/

/-- The entries of a list are those at its rows. -/
theorem eq_map_range {α : Type} {entries : List α} {rows : Nat} {entry : Nat → α}
    (hlength : entries.length = rows) (h : ∀ row < rows, entries[row]? = some (entry row)) :
  entries = (List.range rows).map entry
  := by
  apply List.ext_getElem?
  intro row
  by_cases hrow : row < rows
  · rw [h row hrow, List.getElem?_map, List.getElem?_range hrow, Option.map_some]
  · rw [List.getElem?_eq_none (by omega), List.getElem?_eq_none (by simp; omega)]

/-- The rows of a well-built column are null where their values are. -/
theorem nulls_eq {column : Column} {rows : Nat} (hbuilt : column.WellBuilt)
    (hfits : column.Fits rows) :
  column.nulls = (List.range rows).map fun row => (column.datum row).isNull
  := by
  apply eq_map_range hfits.length_nulls
  intro row hrow
  have hdecoded := hfits.decoded
  rw [← hbuilt.datum_decoded, nulls]
  cases hcolumn : column.decoded with
  | leaf type cells =>
      rw [hcolumn] at hdecoded
      have hcells : row < cells.length := hdecoded.symm ▸ hrow
      rw [datum, List.getElem?_map, List.getElem?_eq_getElem hcells, Option.map_some]
      cases cells[row] <;> rfl
  | dictionary key keys values => apply absurd hcolumn (decoded_ne_dictionary _ _ _ _)
  | record valid fields count =>
      rw [hcolumn] at hdecoded
      obtain ⟨hcount, hvalid, -⟩ := hdecoded
      rw [datum_record]
      cases valid with
      | none =>
          dsimp only
          rw [List.getElem?_replicate_of_lt (hcount.symm ▸ hrow)]
          rfl
      | some flags =>
          have hflags : row < flags.length := hvalid flags rfl ▸ hrow
          dsimp only
          rw [List.getElem?_map, List.getElem?_eq_getElem hflags, Option.map_some,
            present_some hflags]
          cases flags[row] <;> rfl

/-- Cells are equal if their values are. -/
theorem cells_eq {type other : DataType} {cells stored : List (Option Cell)} {rows : Nat}
    (hcells : cells.length = rows) (hstored : stored.length = rows)
    (h : ∀ row < rows, (leaf type cells).datum row = (leaf other stored).datum row) :
  cells = stored
  := by
  apply List.ext_getElem (hcells.trans hstored.symm)
  intro row hrow hrow'
  have hdatum := h row (hcells ▸ hrow)
  rw [datum, datum, List.getElem?_eq_getElem hrow, List.getElem?_eq_getElem hrow'] at hdatum
  cases hfirst : cells[row] with
  | none =>
      rw [hfirst] at hdatum
      cases hsecond : stored[row] with
      | none => rfl
      | some other =>
          rw [hsecond] at hdatum
          cases hdatum
  | some cell =>
      rw [hfirst] at hdatum
      cases hsecond : stored[row] with
      | none =>
          rw [hsecond] at hdatum
          cases hdatum
      | some other =>
          rw [hsecond] at hdatum
          cases hdatum
          rfl

/-- Every written text is that of the cell in its row. -/
theorem getElem?_writeCells {write : Cell → Except CastFault (Option String)} :
  ∀ {cells : List (Option Cell)} {written : List (Option String)},
    writeCells write cells = .ok written → ∀ row : Nat,
      written[row]?
        = cells[row]?.map fun entry : Option Cell =>
            entry.bind fun cell => (write cell).toOption.join
  | [], _, h, _ => by
      cases h
      rfl
  | none :: _, _, h, row => by
      obtain ⟨others, hothers, rfl⟩ := Except.map_eq_ok_iff.mp h
      cases row with
      | zero => rfl
      | succ row => apply getElem?_writeCells hothers
  | some _ :: _, _, h, row => by
      obtain ⟨first, hfirst, h'⟩ := Except.bind_eq_ok_iff.mp h
      obtain ⟨others, hothers, h''⟩ := Except.bind_eq_ok_iff.mp h'
      cases h''
      cases row with
      | zero =>
          rw [List.getElem?_cons_zero, List.getElem?_cons_zero, Option.map_some, Option.bind_some,
            hfirst]
          rfl
      | succ row => apply getElem?_writeCells hothers

/-- Every text of a well-built column is that of the value in its row, if all values have been
written. -/
theorem getElem?_texts {row : Nat} :
  ∀ {column : Column} {rows : Nat} {written : List (Option String)}, column.WellBuilt →
    column.Fits rows → column.texts = .ok written → row < rows →
      written[row]? = some (column.type.writeDatum (column.datum row))
  | .leaf type cells, _, _, _, hfits, htexts, hrow => by
      obtain ⟨write, hwrite, hwritten⟩ := Except.bind_eq_ok_iff.mp htexts
      have hcells : row < cells.length := hfits.symm ▸ hrow
      rw [getElem?_writeCells hwritten, datum, List.getElem?_eq_getElem hcells, Option.map_some]
      cases cells[row] with
      | none => rfl
      | some cell =>
          rw [Column.type, DataType.writeDatum, hwrite]
          rfl
  | .dictionary key keys values, _, _, ⟨hbelow, hfits, hvalues⟩, hkeys, htexts, hrow => by
      obtain ⟨stored, hstored, rfl⟩ := Except.map_eq_ok_iff.mp htexts
      have hlength : row < keys.length := hkeys.symm ▸ hrow
      rw [getElem?_pick, datum, List.getElem?_eq_getElem hlength, Option.map_some]
      cases hkey : keys[row] with
      | none => rfl
      | some position =>
          have hposition : position < values.rows := by
            apply hbelow
            rw [← hkey]
            apply List.getElem_mem
          rw [Option.bind_some, getElem?_texts hvalues hfits hstored hposition, Option.join_some,
            type, DataType.writeDatum_dictionary]
  | .record _ _ _, _, _, _, _, htexts, _ => by cases htexts

end Column

end RowFilter
