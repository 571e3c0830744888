import RowFilter.Proofs.Batch.Mirrored

/-!
# Texts in other letters

A column is recased when texts of it are replaced by ones that are the same in lower case
(`Column.Recased`): those of columns that hold texts, which may lie in dictionaries and inside
records, and nothing else.  What is taken out of recased columns is recased, and a column that does
not itself hold texts answers as the one that it was (`Column.Recased.relate_eq`,
`Column.Recased.texts_eq`, `Column.Recased.nulls_eq`).
-/

namespace RowFilter

/-- The text that a value is. -/
def Datum.text? : Datum → Option String
  | .cell (.text s) => some s
  | _ => none

/-- The text that a value is, in lower case. -/
def Datum.lowerText? (value : Datum) : Option String :=
  value.text?.map lowerText

namespace Column

/-! ### Columns of texts -/

/-- Whether the column holds texts, in dictionaries or not. -/
def HoldsTexts : Column → Prop
  | .leaf type _ => ∃ layout, type = .text layout
  | .dictionary _ _ values => values.HoldsTexts
  | .record _ _ _ => False

variable {column other : Column}

theorem HoldsTexts.isTextual :
  ∀ {column : Column}, column.HoldsTexts → column.type.isTextual = true
  | .leaf _ _, h => by
      obtain ⟨layout, rfl⟩ := h
      rfl
  | .dictionary _ _ values, h => by
      have hvalues : values.HoldsTexts := h
      exact hvalues.isTextual

theorem HoldsTexts.isStruct_eq (h : column.HoldsTexts) :
  column.type.isStruct = false
  := by
  cases column with
  | leaf type cells =>
      obtain ⟨layout, rfl⟩ := h
      rfl
  | dictionary key keys values => rfl
  | record valid fields rows => cases h

/-- Beyond the rows of a column of texts there is nothing. -/
theorem HoldsTexts.datum_eq_null {row : Nat} (h : column.HoldsTexts) (hrow : column.rows ≤ row) :
  column.datum row = .null
  := by
  cases column with
  | leaf type cells => rw [datum, List.getElem?_eq_none hrow]
  | dictionary key keys values => rw [datum, List.getElem?_eq_none hrow]
  | record valid fields rows => cases h

/-- A column of texts has an entry for each of its rows. -/
theorem HoldsTexts.fits (h : column.HoldsTexts) :
  column.Fits column.rows
  := by
  cases column with
  | leaf type cells => exact rfl
  | dictionary key keys values => exact rfl
  | record valid fields rows => cases h

theorem HoldsTexts.take (h : column.HoldsTexts) (positions : List (Option Nat)) :
  (column.take positions).HoldsTexts
  := by
  cases column with
  | leaf type cells => apply h
  | dictionary key keys values => apply h
  | record valid fields rows => cases h

/-- The value of a column of texts at a row among those at some positions is its value at the
position, if there is one. -/
theorem HoldsTexts.datum_take (h : column.HoldsTexts) (positions : List (Option Nat)) (row : Nat) :
  (column.take positions).datum row = positions[row]?.join.elim .null column.datum
  := by
  cases hposition : positions[row]?.join with
  | none => apply datum_take_null hposition
  | some i =>
      cases column with
      | leaf type cells =>
          rw [Column.take, datum_leaf, join_pick, hposition]
          exact (datum_leaf type cells i).symm
      | dictionary key keys values =>
          rw [Column.take, datum_dictionary, join_pick, hposition]
          exact (datum_dictionary key keys values i).symm
      | record valid fields rows => cases h

theorem HoldsTexts.unpack (h : column.HoldsTexts) :
  column.unpack.HoldsTexts
  := by
  cases column with
  | leaf type cells => apply h
  | dictionary key keys values =>
      have hvalues : values.HoldsTexts := h
      apply hvalues.take keys
  | record valid fields rows => cases h

theorem HoldsTexts.type_unpack (h : column.HoldsTexts) :
  column.unpack.type = column.type.unpacked
  := by
  cases column with
  | leaf type cells =>
      obtain ⟨layout, rfl⟩ := h
      rfl
  | dictionary key keys values => apply type_take
  | record valid fields rows => cases h

theorem HoldsTexts.rows_unpack (h : column.HoldsTexts) :
  column.unpack.rows = column.rows
  := by
  cases column with
  | leaf type cells => rfl
  | dictionary key keys values => exact (fits_take keys values).rows_eq
  | record valid fields rows => cases h

/-- A column of texts has the same values without its dictionary. -/
theorem HoldsTexts.datum_unpack (h : column.HoldsTexts) (row : Nat) :
  column.unpack.datum row = column.datum row
  := by
  cases column with
  | leaf type cells => rfl
  | dictionary key keys values =>
      have hvalues : values.HoldsTexts := h
      apply (hvalues.datum_take keys row).trans
      exact (datum_dictionary key keys values row).symm
  | record valid fields rows => cases h

/-- A column of texts inside a record has the values of the rows that are marked, if some are
not. -/
theorem HoldsTexts.under {flags : List Bool} (h : column.HoldsTexts)
    (hflags : flags.all id = false) :
  ∃ inside, column.under (some flags) = some inside ∧ inside.HoldsTexts ∧
    inside.type = column.type ∧ inside.rows = min flags.length column.rows ∧
    ∀ row, inside.datum row = if flags[row]? = some true then column.datum row else .null
  := by
  cases column with
  | leaf type cells =>
      obtain ⟨layout, rfl⟩ := h
      refine ⟨.leaf (.text layout) (masked flags cells), ?_, ⟨layout, rfl⟩, rfl,
        length_masked flags cells, ?_⟩
      · simp only [Column.under, hflags]
        rfl
      · intro row
        rw [datum_leaf, datum_leaf, join_masked]
        split <;> rfl
  | dictionary key keys values =>
      refine ⟨.dictionary key (masked flags keys) values, ?_, h, rfl, length_masked flags keys, ?_⟩
      · simp only [Column.under, hflags]
        rfl
      · intro row
        rw [datum_dictionary, datum_dictionary, join_masked]
        split <;> rfl
  | record valid fields rows => cases h

/-- Every value of a column of texts has its text. -/
theorem HoldsTexts.getElem?_texts {row : Nat} :
  ∀ {column : Column} {written : List (Option String)}, column.HoldsTexts →
    column.texts = .ok written → row < column.rows →
      written[row]? = some (column.datum row).text?
  | .leaf _ cells, _, h, htexts, hrow => by
      obtain ⟨layout, rfl⟩ := h
      obtain ⟨write, hwrite, hwritten⟩ := Except.bind_eq_ok_iff.mp htexts
      cases hwrite
      rw [getElem?_writeCells hwritten, datum, List.getElem?_eq_getElem hrow, Option.map_some]
      cases cells[row] with
      | none => rfl
      | some cell => cases cell <;> rfl
  | .dictionary key keys values, _, h, htexts, hrow => by
      obtain ⟨stored, hstored, rfl⟩ := Except.map_eq_ok_iff.mp htexts
      have hvalues : values.HoldsTexts := h
      rw [getElem?_pick, datum, List.getElem?_eq_getElem hrow, Option.map_some]
      cases keys[row] with
      | none => rfl
      | some position =>
          rw [Option.bind_some]
          by_cases hposition : position < values.rows
          · rw [getElem?_texts hvalues hstored hposition]
            rfl
          · have hbeyond := Nat.le_of_not_lt hposition
            have hlength := hvalues.fits.length_texts hstored
            rw [List.getElem?_eq_none (hlength ▸ hbeyond)]
            dsimp only
            rw [hvalues.datum_eq_null hbeyond]
            rfl

/-- A column of texts is written as its texts. -/
theorem HoldsTexts.texts_eq (h : column.HoldsTexts) :
  column.texts = .ok ((List.range column.rows).map fun row => (column.datum row).text?)
  := by
  obtain ⟨written, hwritten⟩ := texts_of_isTextual h.isTextual
  rw [hwritten]
  congr 1
  apply eq_map_range (h.fits.length_texts hwritten)
  intro row hrow
  apply h.getElem?_texts hwritten hrow

/-! ### Recased columns -/

mutual

/-- Whether a column is another one with texts replaced by ones that are the same in lower case. -/
inductive Recased : Column → Column → Prop where
  | same (column : Column) : Recased column column
  | texts {column other : Column} (h : column.HoldsTexts) (hother : other.HoldsTexts)
      (htype : column.type = other.type) (hrows : column.rows = other.rows)
      (hdatum : ∀ row, (column.datum row).lowerText? = (other.datum row).lowerText?) :
    Recased column other
  | dictionary (key : DataType) (keys : List (Option Nat)) {values others : Column}
      (h : Recased values others) :
    Recased (.dictionary key keys values) (.dictionary key keys others)
  | record (valid : Option (List Bool)) (rows : Nat) {fields others : List (String × Column)}
      (h : FieldsRecased fields others) :
    Recased (.record valid fields rows) (.record valid others rows)

/-- Whether the fields of a record are others of which texts are replaced. -/
inductive FieldsRecased : List (String × Column) → List (String × Column) → Prop where
  | nil : FieldsRecased [] []
  | cons (name : String) {column other : Column} {rest others : List (String × Column)}
      (hcolumn : Recased column other) (hrest : FieldsRecased rest others) :
    FieldsRecased ((name, column) :: rest) ((name, other) :: others)

end

mutual

/-- Recased columns are of the same type. -/
theorem Recased.type_eq :
  ∀ {column other : Column}, Recased column other → column.type = other.type
  | _, _, .same _ => rfl
  | _, _, .texts _ _ htype _ _ => htype
  | _, _, .dictionary _ _ h => by rw [type, type, h.type_eq]
  | _, _, .record _ _ h => by rw [type, type, h.fieldTypes_eq]

/-- The fields of recased records are of the same types. -/
theorem FieldsRecased.fieldTypes_eq :
  ∀ {fields others : List (String × Column)}, FieldsRecased fields others →
    fieldTypes fields = fieldTypes others
  | _, _, .nil => rfl
  | _, _, .cons _ hcolumn hrest => by
      rw [fieldTypes, fieldTypes, hcolumn.type_eq, hrest.fieldTypes_eq]

end

theorem Recased.rows_eq (h : Recased column other) :
  column.rows = other.rows
  := by
  cases h with
  | same => rfl
  | texts _ _ _ hrows _ => apply hrows
  | dictionary key keys h => rfl
  | record valid rows h => rfl

/-- The fields of a name are both there or both not, and recased. -/
theorem FieldsRecased.lookup (name : String) :
  ∀ {fields others : List (String × Column)}, FieldsRecased fields others →
    Option.Rel Recased (fields.lookup name) (others.lookup name)
  | _, _, .nil => .none
  | _, _, .cons found hcolumn hrest => by
      rw [List.lookup_cons, List.lookup_cons]
      split
      · exact .some hcolumn
      · apply hrest.lookup

mutual

/-- The rows of recased columns at some positions are recased. -/
theorem Recased.take (positions : List (Option Nat)) :
  ∀ {column other : Column}, Recased column other →
    Recased (column.take positions) (other.take positions)
  | _, _, .same _ => .same _
  | column, other, .texts h hother htype hrows hdatum => by
      apply Recased.texts (h.take positions) (hother.take positions)
      · rw [type_take, type_take, htype]
      · rw [(fits_take positions column).rows_eq, (fits_take positions other).rows_eq]
      · intro row
        rw [h.datum_take, hother.datum_take]
        cases positions[row]?.join with
        | none => rfl
        | some i => apply hdatum i
  | _, _, .dictionary key keys h => .dictionary key (pick keys positions) h
  | _, _, .record _ _ h => .record _ _ (h.takeFields positions)

/-- The rows of the fields of recased records at some positions are recased. -/
theorem FieldsRecased.takeFields (positions : List (Option Nat)) :
  ∀ {fields others : List (String × Column)}, FieldsRecased fields others →
    FieldsRecased (Column.takeFields positions fields) (Column.takeFields positions others)
  | _, _, .nil => .nil
  | _, _, .cons name hcolumn hrest =>
      .cons name (hcolumn.take positions) (hrest.takeFields positions)

end

/-- Recased columns are so without their dictionaries. -/
theorem Recased.unpack (h : Recased column other) :
  Recased column.unpack other.unpack
  := by
  cases h with
  | same => exact .same _
  | texts h hother htype hrows hdatum =>
      apply Recased.texts h.unpack hother.unpack
      · rw [h.type_unpack, hother.type_unpack, htype]
      · rw [h.rows_unpack, hother.rows_unpack, hrows]
      · intro row
        rw [h.datum_unpack, hother.datum_unpack, hdatum]
  | dictionary key keys h => apply h.take
  | record valid rows h => exact .record valid rows h

/-- Recased columns are both to be had inside a record or both not, and recased. -/
theorem Recased.under (h : Recased column other) (valid : Option (List Bool)) :
  Option.Rel Recased (column.under valid) (other.under valid)
  := by
  cases valid with
  | none => exact .some h
  | some flags =>
      cases hflags : flags.all id with
      | true =>
          simp only [Column.under, hflags]
          exact .some h
      | false =>
          cases h with
          | same =>
              cases column.under (some flags) with
              | none => exact .none
              | some inside => exact .some (.same _)
          | texts h hother htype hrows hdatum =>
              obtain ⟨inside, hinside, hholds, htypeInside, hrowsInside, hvalue⟩ := h.under hflags
              obtain ⟨found, hfound, hholdsFound, htypeFound, hrowsFound, hvalueFound⟩ :=
                hother.under hflags
              rw [hinside, hfound]
              refine .some (.texts hholds hholdsFound ?_ ?_ ?_)
              · rw [htypeInside, htypeFound, htype]
              · rw [hrowsInside, hrowsFound, hrows]
              · intro row
                rw [hvalue, hvalueFound]
                split
                · apply hdatum
                · rfl
          | dictionary key keys h =>
              simp only [Column.under, hflags]
              exact .some (.dictionary key _ h)
          | record valid rows h =>
              simp only [Column.under, hflags]
              exact .some (.record _ rows h)

/-! ### Texts in lower case -/

/-- The texts of a column in lower case. -/
def lowerTexts (column : Column) : Except CastFault (List (Option String)) :=
  column.texts.map (List.map (Option.map lowerText))

/-- Entries that are mapped can be so before some positions are picked. -/
theorem map_pick {α β : Type} (f : α → β) (entries : List (Option α))
    (positions : List (Option Nat)) :
  (pick entries positions).map (Option.map f) = pick (entries.map (Option.map f)) positions
  := by
  rw [pick, pick, List.map_map]
  apply List.map_congr_left
  intro position _
  cases position with
  | none => rfl
  | some i =>
      rw [Function.comp_apply, Option.bind_some, Option.bind_some, List.getElem?_map]
      cases entries[i]? <;> rfl

/-- The texts of a dictionary in lower case are those of its values. -/
theorem lowerTexts_dictionary (key : DataType) (keys : List (Option Nat)) (values : Column) :
  (dictionary key keys values).lowerTexts
    = values.lowerTexts.map fun lowered => pick lowered keys
  := by
  rw [lowerTexts, lowerTexts, texts]
  cases values.texts with
  | error fault => rfl
  | ok written =>
      apply congrArg Except.ok
      apply map_pick

/-- Recased columns have the same texts in lower case. -/
theorem Recased.lowerTexts_eq :
  ∀ {column other : Column}, Recased column other → column.lowerTexts = other.lowerTexts
  | _, _, .same _ => rfl
  | _, _, .texts h hother _ hrows hdatum => by
      rw [lowerTexts, lowerTexts, h.texts_eq, hother.texts_eq, hrows]
      apply congrArg Except.ok
      rw [List.map_map, List.map_map]
      apply List.map_congr_left
      intro row _
      apply hdatum row
  | _, _, .dictionary key keys h => by
      rw [lowerTexts_dictionary, lowerTexts_dictionary, h.lowerTexts_eq]
  | _, _, .record _ _ _ => rfl

/-! ### Columns that do not hold texts themselves -/

/-- A column is of a type of texts if and only if it is so without any dictionary. -/
theorem isTextual_decoded (column : Column) :
  column.decoded.type.isTextual = column.type.isTextual
  := by
  induction column using decoded.induct with
  | case1 key keys values ih =>
      rw [decoded, type_take, ih]
      rfl
  | case2 column hplain =>
      cases column with
      | leaf type cells => rfl
      | dictionary key keys values => cases hplain key keys values rfl
      | record valid fields rows => rfl

/-- Recased columns are so without any dictionary, unless they hold texts. -/
theorem Recased.decoded :
  ∀ {column other : Column}, Recased column other → column.type.isTextual = false →
    Recased column.decoded other.decoded
  | _, _, .same _, _ => .same _
  | _, _, .texts h _ _ _ _, htextual => by cases h.isTextual.symm.trans htextual
  | _, _, .dictionary _ keys h, htextual => (h.decoded htextual).take keys
  | _, _, .record valid rows h, _ => .record valid rows h

/-- Recased columns that do not hold texts have the same nulls. -/
theorem Recased.nulls_eq (h : Recased column other) (htextual : column.type.isTextual = false) :
  column.nulls = other.nulls
  := by
  have hdecoded := h.decoded htextual
  rw [nulls, nulls]
  rw [← isTextual_decoded] at htextual
  generalize hown : column.decoded = own at hdecoded htextual
  generalize other.decoded = reply at hdecoded
  cases hdecoded with
  | same => rfl
  | texts h _ _ _ _ => cases h.isTextual.symm.trans htextual
  | dictionary key keys h => cases decoded_ne_dictionary _ _ _ _ hown
  | record valid rows h => rfl

/-- Recased columns that do not hold texts have the same texts. -/
theorem Recased.texts_eq (h : Recased column other) (htextual : column.type.isTextual = false) :
  column.texts = other.texts
  := by
  induction column using decoded.induct generalizing other with
  | case1 key keys values ih =>
      cases h with
      | same => rfl
      | texts h _ _ _ _ => cases h.isTextual.symm.trans htextual
      | dictionary key keys h => rw [Column.texts, Column.texts, ih h htextual]
  | case2 column hplain =>
      cases h with
      | same => rfl
      | texts h _ _ _ _ => cases h.isTextual.symm.trans htextual
      | dictionary key keys h => cases hplain key keys _ rfl
      | record valid rows h => rfl

/-- Recased columns that do not hold texts stand in a relation to a literal in the same rows. -/
theorem Recased.relate_eq (h : Recased column other) (htextual : column.type.isTextual = false)
    (path : String) (relation : Relation) (literal : Literal) :
  column.relate path relation literal = other.relate path relation literal
  := by
  have hoperands : column.operands literal = other.operands literal := by
    have htype := h.type_eq
    have hdecoded := h.decoded htextual
    cases h with
    | same => rfl
    | texts h _ _ _ _ => cases h.isTextual.symm.trans htextual
    | dictionary key keys h =>
        rw [operands_dictionary, operands_dictionary, htype]
        rw [← isTextual_decoded] at htextual
        congr 1
        generalize (Column.dictionary key keys _).decoded = own at hdecoded htextual
        generalize (Column.dictionary key keys _).decoded = reply at hdecoded
        cases hdecoded with
        | same => rfl
        | texts h _ _ _ _ => cases h.isTextual.symm.trans htextual
        | dictionary key keys h => rfl
        | record valid rows h => rfl
    | record valid rows h => rw [operands_record, operands_record, htype]
  rw [relate, relate, hoperands]

end Column

end RowFilter
