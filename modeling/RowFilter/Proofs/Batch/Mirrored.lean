import RowFilter.Proofs.Batch.Values
import RowFilter.Proofs.Filter.Leafwise

/-!
# Columns of the same values

A well-built column mirrors another one when the two have the same values in their rows
(`Column.Mirrors`); their types may differ in the layout of texts and, for records, in those of the
fields (`DataType.Kin`), as it is told by a relation of types that is kept along paths
(`DataType.IsPathwise`).  Such columns have the same nulls and texts and the same comparisons with
a literal (`Column.Mirrors.relate_alike`), except that an error names the type of the column
(`FilterError.Renamed`).
-/

namespace RowFilter

/-! ### Related types -/

namespace DataType

/-- Whether types are the same, or differ only in the layout of texts or in the fields of
records. -/
inductive Kin : DataType → DataType → Prop where
  | same (type : DataType) : Kin type type
  | text (layout other : TextLayout) : Kin (.text layout) (.text other)
  | struct (fields others : List (String × DataType)) : Kin (.struct fields) (.struct others)

variable {type other : DataType}

theorem Kin.symm (h : type.Kin other) :
  other.Kin type
  := by
  cases h with
  | same => exact .same _
  | text layout other => exact .text other layout
  | struct fields others => exact .struct others fields

theorem Kin.isTextual_eq (h : type.Kin other) :
  type.isTextual = other.isTextual
  := by
  cases h <;> rfl

theorem Kin.isOrderable_eq (h : type.Kin other) :
  type.isOrderable = other.isOrderable
  := by
  cases h <;> rfl

theorem Kin.isDictionary_eq (h : type.Kin other) :
  type.isDictionary = other.isDictionary
  := by
  cases h <;> rfl

theorem Kin.eq_of_isDictionary (h : type.Kin other) (hdictionary : type.isDictionary = true) :
  type = other
  := by
  cases h with
  | same => rfl
  | text layout other => cases hdictionary
  | struct fields others => cases hdictionary

theorem Kin.isStruct_eq (h : type.Kin other) :
  type.isStruct = other.isStruct
  := by
  cases h <;> rfl

theorem Kin.isNested_eq (h : type.Kin other) :
  type.isNested = other.isNested
  := by
  cases h <;> rfl

theorem Kin.losesZone_eq (h : type.Kin other) :
  Column.losesZone type = Column.losesZone other
  := by
  cases h <;> rfl

/-- A literal has the same cell in both types. -/
theorem Kin.toCell_eq (h : type.Kin other) (literal : Literal) :
  literal.toCell type = literal.toCell other
  := by
  cases h with
  | same => rfl
  | text layout other => cases literal <;> rfl
  | struct fields others => cases literal <;> rfl

/-- A value has the same text in both types. -/
theorem Kin.writeDatum_eq (h : type.Kin other) (value : Datum) :
  type.writeDatum value = other.writeDatum value
  := by
  cases h with
  | same => rfl
  | text layout other => cases value <;> rfl
  | struct fields others => cases value <;> rfl

/-- Whether related types are of a kind, and those of the fields of records are related without
their dictionaries. -/
structure IsPathwise (types : DataType → DataType → Prop) : Prop where
  kin {type other : DataType} (h : types type other) : type.Kin other
  lookup {fields others : List (String × DataType)} (h : types (.struct fields) (.struct others))
    (name : String) :
    Option.Rel (fun type other => types type.unpacked other.unpacked) (fields.lookup name)
      (others.lookup name)

end DataType

/-- Whether two errors are the same, except that they may name different types, and that a
converter may refuse a text with different messages for these. -/
inductive FilterError.Renamed (types : DataType → DataType → Prop) :
    FilterError → FilterError → Prop where
  | same (error : FilterError) : Renamed types error error
  | conversion (value : String) (cause : ConversionCause) {type other : DataType}
      (h : types type other) :
    Renamed types (.conversion value type cause) (.conversion value other cause)
  | refused (value : String) {type other : DataType} {message answer : String}
      (h : types type other) (hmessage : type = other → message = answer) :
    Renamed types (.conversion value type (.refused message))
      (.conversion value other (.refused answer))
  | notComparable (path : String) {type other : DataType} (h : types type other) :
    Renamed types (.notComparable path type) (.notComparable path other)

/-- Errors that may name only the same types are the same. -/
theorem FilterError.Renamed.eq {error other : FilterError} (h : Renamed Eq error other) :
  error = other
  := by
  cases h with
  | same => rfl
  | conversion value cause h => rw [h]
  | refused value h hmessage => rw [h, hmessage h]
  | notComparable path h => rw [h]

namespace Column

/-! ### Related columns -/

/-- Whether two well-built columns of related types have the same values in some rows. -/
structure Mirrors (types : DataType → DataType → Prop) (rows : Nat) (column other : Column) :
    Prop where
  types : types column.type other.type
  built : column.WellBuilt
  otherBuilt : other.WellBuilt
  fits : column.Fits rows
  otherFits : other.Fits rows
  datum_eq (row : Nat) (h : row < rows) : column.datum row = other.datum row

variable {types : DataType → DataType → Prop} {rows : Nat} {column other : Column}

/-- Columns that mirror each other do so without their dictionaries. -/
theorem Mirrors.unpack
    (h : Mirrors (fun type other => types type.unpacked other.unpacked) rows column other) :
  Mirrors types rows column.unpack other.unpack
  := by
  constructor
  · rw [h.built.type_unpack, h.otherBuilt.type_unpack]
    apply h.types
  · apply h.built.unpack
  · apply h.otherBuilt.unpack
  · apply h.fits.unpack
  · apply h.otherFits.unpack
  · intro row hrow
    rw [h.built.datum_unpack, h.otherBuilt.datum_unpack, h.datum_eq row hrow]

/-- The value of a field of a record at a row. -/
def fieldDatum (valid : Option (List Bool)) (column : Column) (row : Nat) : Datum :=
  if present valid row then column.datum row else .null

/-- A record of which a row is the same has the same values there in its fields. -/
theorem fieldDatum_eq {valid validity : Option (List Bool)} {fields others : List (String × Column)}
    {count length row : Nat} {name : String} {child inner : Column}
    (h : (record valid fields count).datum row = (record validity others length).datum row)
    (hchild : fields.lookup name = some child) (hinner : others.lookup name = some inner) :
  fieldDatum valid child row = fieldDatum validity inner row
  := by
  rw [datum_record, datum_record] at h
  rw [fieldDatum, fieldDatum]
  cases hvalid : present valid row with
  | true =>
      rw [hvalid, if_pos rfl] at h
      cases hvalidity : present validity row with
      | true =>
          rw [hvalidity, if_pos rfl, Datum.record.injEq] at h
          have hlookup := congrArg (List.lookup name) h
          rw [lookup_fieldData, lookup_fieldData, hchild, hinner] at hlookup
          exact Option.some.inj hlookup
      | false =>
          rw [hvalidity] at h
          cases h
  | false =>
      rw [hvalid] at h
      cases hvalidity : present validity row with
      | true =>
          rw [hvalidity] at h
          cases h
      | false => rfl

/-- Fields of records that mirror each other do so inside the records. -/
theorem Mirrors.under {valid validity : Option (List Bool)} {inside found : Column}
    (htypes : types column.type other.type) (hbuilt : column.WellBuilt)
    (hotherBuilt : other.WellBuilt) (hfits : column.Fits rows) (hotherFits : other.Fits rows)
    (hvalid : ∀ flags ∈ valid, flags.length = rows)
    (hvalidity : ∀ flags ∈ validity, flags.length = rows)
    (hdatum : ∀ row < rows, fieldDatum valid column row = fieldDatum validity other row)
    (hinside : column.under valid = some inside) (hfound : other.under validity = some found) :
  Mirrors types rows inside found
  := by
  constructor
  · rw [type_under hinside, type_under hfound]
    apply htypes
  · apply hbuilt.under hinside
  · apply hotherBuilt.under hfound
  · apply hfits.under hvalid hinside
  · apply hotherFits.under hvalidity hfound
  · intro row hrow
    rw [datum_under hfits hvalid hinside hrow, datum_under hotherFits hvalidity hfound hrow]
    apply hdatum row hrow

/-! ### Answers -/

/-- Columns that mirror each other have the same rows. -/
theorem Mirrors.rows_eq (h : Mirrors types rows column other) :
  column.rows = other.rows
  := by
  rw [h.fits.rows_eq, h.otherFits.rows_eq]

/-- Columns that mirror each other have the same nulls. -/
theorem Mirrors.nulls_eq (h : Mirrors types rows column other) :
  column.nulls = other.nulls
  := by
  rw [Column.nulls_eq h.built h.fits, Column.nulls_eq h.otherBuilt h.otherFits]
  apply List.map_congr_left
  intro row hrow
  rw [h.datum_eq row (List.mem_range.mp hrow)]

/-- Leaves that mirror each other have the same cells. -/
theorem Mirrors.cells_eq {cells stored : List (Option Cell)} {type found : DataType}
    (h : Mirrors types rows (leaf type cells) (leaf found stored)) :
  cells = stored
  := Column.cells_eq h.fits h.otherFits h.datum_eq

/-- Columns that mirror each other and are no dictionaries have the same texts. -/
theorem Mirrors.texts_eq_of_not_isDictionary (h : Mirrors types rows column other)
    (hkin : column.type.Kin other.type) (hdictionary : column.type.isDictionary = false) :
  column.texts = other.texts
  := by
  have hother := hkin.isDictionary_eq.symm.trans hdictionary
  cases column with
  | leaf type cells =>
      cases other with
      | leaf found stored =>
          obtain rfl := h.cells_eq
          have hleaf : type.Kin found := hkin
          cases hleaf with
          | same => rfl
          | text layout other => rfl
          | struct fields others => cases h.built.2
      | dictionary key keys values => cases hother
      | record valid fields count => cases h.built.2.symm.trans hkin.isStruct_eq
  | dictionary key keys values => cases hdictionary
  | record valid fields count =>
      cases other with
      | leaf found stored => cases h.otherBuilt.2.symm.trans hkin.symm.isStruct_eq
      | dictionary key keys values => cases hother
      | record validity others length => rfl

/-- Columns that mirror each other have the same texts.  Dictionaries are written with the entries
that no row refers to, of which none may fail in only one of the columns. -/
theorem Mirrors.texts_eq (h : Mirrors types rows column other) (hkin : column.type.Kin other.type)
    (hfaults : column.type.isDictionary = true →
      ∀ fault, column.texts = .error fault ↔ other.texts = .error fault) :
  column.texts = other.texts
  := by
  cases hdictionary : column.type.isDictionary with
  | false => apply h.texts_eq_of_not_isDictionary hkin hdictionary
  | true =>
      have hfaults := hfaults hdictionary
      cases htexts : column.texts with
      | error fault => exact ((hfaults fault).mp htexts).symm
      | ok written =>
          cases hothers : other.texts with
          | error fault =>
              rw [(hfaults fault).mpr hothers] at htexts
              cases htexts
          | ok others =>
              congr 1
              apply Eq.trans (eq_map_range (h.fits.length_texts htexts) fun row =>
                getElem?_texts h.built h.fits htexts)
              symm
              apply eq_map_range (h.otherFits.length_texts hothers)
              intro row hrow
              rw [getElem?_texts h.otherBuilt h.otherFits hothers hrow, h.datum_eq row hrow,
                hkin.writeDatum_eq]

/-- Columns that mirror each other do so without any dictionary, if these hold the same type. -/
theorem Mirrors.decoded (h : Mirrors types rows column other)
    (htypes : types column.type.decoded other.type.decoded) :
  Mirrors types rows column.decoded other.decoded
  := by
  constructor
  · rw [h.built.type_decoded, h.otherBuilt.type_decoded]
    apply htypes
  · apply h.built.decoded
  · apply h.otherBuilt.decoded
  · apply h.fits.decoded
  · apply h.otherFits.decoded
  · intro row hrow
    rw [h.built.datum_decoded, h.otherBuilt.datum_decoded, h.datum_eq row hrow]

/-- The cells of a leaf. -/
def leafCells : Column → List (Option Cell)
  | .leaf _ cells => cells
  | _ => []

/-- Columns of one type that mirror each other have the same cells, or are no leaves. -/
theorem Mirrors.leafCells_eq (h : Mirrors Eq rows column other) :
  column.leafCells = other.leafCells
  := by
  cases column with
  | leaf type cells =>
      cases other with
      | leaf found stored => apply h.cells_eq
      | dictionary key keys values =>
          obtain rfl : type = .dictionary key values.type := h.types
          cases h.built.1
      | record valid fields count =>
          obtain rfl : type = .struct (fieldTypes fields) := h.types
          cases h.built.2
  | dictionary key keys values =>
      cases other with
      | leaf found stored =>
          obtain rfl : .dictionary key values.type = found := h.types
          cases h.otherBuilt.1
      | _ => rfl
  | record valid fields count =>
      cases other with
      | leaf found stored =>
          obtain rfl : .struct (fieldTypes fields) = found := h.types
          cases h.otherBuilt.2
      | _ => rfl

/-- A literal in a type, next to the cells of that type with which it is compared. -/
def castBeside (literal : Literal) (type : DataType) (cells : List (Option Cell)) :
    Except FilterError (DataType × List (Option Cell) × Option Cell) :=
  match literal.toCell type with
  | .ok cell => .ok (type, cells, cell)
  | .error fault => .error (.conversion literal.toText type (.cast fault))

theorem operands_leaf {type : DataType} (h : type.isInteger = false) (cells : List (Option Cell))
    (literal : Literal) :
  (leaf type cells).operands literal = castBeside literal type cells
  := by
  simp only [operands, h]
  cases literal <;> rfl

/-- A dictionary is compared by the cells that it holds, if there are any. -/
theorem operands_dictionary (key : DataType) (keys : List (Option Nat)) (values : Column)
    (literal : Literal) :
  (dictionary key keys values).operands literal
    = castBeside literal (dictionary key keys values).type
      (dictionary key keys values).decoded.leafCells
  := by
  simp only [operands]
  cases (dictionary key keys values).decoded <;> rfl

theorem operands_record (valid : Option (List Bool)) (fields : List (String × Column))
    (count : Nat) (literal : Literal) :
  (record valid fields count).operands literal
    = castBeside literal (record valid fields count).type []
  := rfl

/-- A literal is put in two types of a kind alike. -/
theorem castBeside_alike {type found : DataType} (hkin : type.Kin found)
    (htypes : types type found) (literal : Literal) (cells : List (Option Cell)) :
  (castBeside literal type cells).Alike (FilterError.Renamed types)
    (fun operands others => operands.1.Kin others.1 ∧ operands.2 = others.2)
    (castBeside literal found cells)
  := by
  rw [castBeside, castBeside, ← hkin.toCell_eq]
  cases literal.toCell type with
  | ok cell => exact .ok ⟨hkin, rfl⟩
  | error fault => exact .error (.conversion _ _ htypes)

/-- Columns that mirror each other are compared with a literal by the same cells. -/
theorem Mirrors.operands_alike (h : Mirrors types rows column other)
    (hkin : column.type.Kin other.type) (literal : Literal) :
  (column.operands literal).Alike (FilterError.Renamed types)
    (fun operands others => operands.1.Kin others.1 ∧ operands.2 = others.2)
    (other.operands literal)
  := by
  have hsame (outcome : Except FilterError (DataType × List (Option Cell) × Option Cell)) :
      outcome.Alike (FilterError.Renamed types)
        (fun operands others => operands.1.Kin others.1 ∧ operands.2 = others.2) outcome := by
    apply Except.Alike.refl
    · apply FilterError.Renamed.same
    · intro operands
      exact ⟨.same _, rfl⟩
  cases column with
  | leaf type cells =>
      cases other with
      | leaf found stored =>
          obtain rfl := h.cells_eq
          have hleaf : type.Kin found := hkin
          cases hleaf with
          | same => apply hsame
          | text layout other =>
              rw [operands_leaf rfl, operands_leaf rfl]
              apply castBeside_alike hkin h.types
          | struct fields others => cases h.built.2
      | dictionary key keys values => cases h.built.1.symm.trans hkin.isDictionary_eq
      | record valid fields count => cases h.built.2.symm.trans hkin.isStruct_eq
  | dictionary key keys values =>
      cases other with
      | leaf found stored => cases h.otherBuilt.1.symm.trans hkin.symm.isDictionary_eq
      | dictionary found others stored =>
          have htype := hkin.eq_of_isDictionary rfl
          have hdecoded : Mirrors Eq rows (dictionary key keys values).decoded
              (dictionary found others stored).decoded := by
            apply Mirrors.decoded { h with types := htype }
            rw [htype]
          rw [operands_dictionary, operands_dictionary, ← htype, hdecoded.leafCells_eq]
          apply hsame
      | record valid fields count => cases hkin
  | record valid fields count =>
      cases other with
      | leaf found stored => cases h.otherBuilt.2.symm.trans hkin.symm.isStruct_eq
      | dictionary found others stored => cases hkin
      | record validity others length =>
          rw [operands_record, operands_record]
          apply castBeside_alike hkin h.types

/-- Columns that mirror each other stand in a relation to a literal in the same rows. -/
theorem Mirrors.relate_alike (h : Mirrors types rows column other)
    (hkin : column.type.Kin other.type) (path : String) (relation : Relation)
    (literal : Literal) :
  (column.relate path relation literal).Alike (FilterError.Renamed types) Eq
    (other.relate path relation literal)
  := by
  have hoperands := h.operands_alike hkin literal
  rw [relate, relate]
  generalize column.operands literal = operands at hoperands ⊢
  generalize other.operands literal = others at hoperands ⊢
  cases hoperands with
  | error herror => exact .error herror
  | @ok operands others hsame =>
      obtain ⟨type, cells, cell⟩ := operands
      obtain ⟨found, stored, reply⟩ := others
      obtain ⟨hkin, hcells⟩ := hsame
      cases hcells
      dsimp only
      rw [show type.isNested = found.isNested from hkin.isNested_eq,
        show losesZone type = losesZone found from hkin.losesZone_eq]
      apply Except.Alike.refl (fun error => .same error) fun _ => rfl

/-! ### Fields of records -/

/-- The columns of a name are both there or both not, and of related types, if their types are. -/
theorem lookup_of_types {related : DataType → DataType → Prop}
    {fields others : List (String × Column)} {name : String}
    (h : Option.Rel related ((fieldTypes fields).lookup name) ((fieldTypes others).lookup name)) :
  Option.Rel (fun column other => related column.type other.type) (fields.lookup name)
    (others.lookup name)
  := by
  rw [lookup_fieldTypes, lookup_fieldTypes] at h
  cases hfield : fields.lookup name with
  | none =>
      rw [hfield] at h
      cases hother : others.lookup name with
      | none => exact .none
      | some other =>
          rw [hother] at h
          cases h
  | some column =>
      rw [hfield] at h
      cases hother : others.lookup name with
      | none =>
          rw [hother] at h
          cases h
      | some other =>
          rw [hother] at h
          cases h with
          | some h => exact .some h

/-- A column of a type of records is a record if it is well built. -/
theorem WellBuilt.eq_record {column : Column} (h : column.WellBuilt)
    (hstruct : column.type.isStruct = true) :
  ∃ valid fields rows, column = .record valid fields rows
  := by
  cases column with
  | leaf type cells => cases h.2.symm.trans hstruct
  | dictionary key keys values => cases hstruct
  | record valid fields rows => exact ⟨valid, fields, rows, rfl⟩

end Column

end RowFilter
