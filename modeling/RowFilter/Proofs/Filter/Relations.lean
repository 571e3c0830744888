import RowFilter.Proofs.Filter.Fractions
import RowFilter.Proofs.Filter.Outcomes

/-!
# Relations through values

What a field of any type answers is settled by its values.  A relation to a literal holds of them
one by one, beside the literal in double precision where integers meet a number with a fraction
(`Column.relate_eq_values`), and so does a pattern of their texts (`ColumnField.like_of_texts`).
The field that is compared has the values in the letters that count (`ColumnField.ComparedAs`).
-/

namespace RowFilter

variable {rows row : Nat} {column : Column} {literal : Literal}

/-! ### Values beside a literal -/

/-- Whether the values of a type are compared with a literal in double precision. -/
def DataType.widens (type : DataType) : Literal → Bool
  | .float _ => type.isInteger
  | _ => false

/-- The type in which the values of a type are compared with a literal. -/
def DataType.beside (type : DataType) (literal : Literal) : DataType :=
  if type.widens literal then .float .w64 else type

namespace Datum

/-- A value in double precision, if it is an integer. -/
def toDouble : Datum → Datum
  | .cell (.int n) => .cell (.float (FloatFormat.double.ofInt n))
  | value => value

/-- A value of a type as it is compared with a literal. -/
def beside (type : DataType) (literal : Literal) (value : Datum) : Datum :=
  if type.widens literal then value.toDouble else value

end Datum

theorem DataType.isNested_beside {type : DataType} (h : type.isNested = false)
    (literal : Literal) :
  (type.beside literal).isNested = false
  := by
  rw [beside]
  split
  · rfl
  · exact h

theorem DataType.losesZone_beside (type : DataType) (literal : Literal) :
  Column.losesZone (type.beside literal) = Column.losesZone type
  := by
  rw [beside]
  split
  · next hwidens =>
      cases literal with
      | float x =>
          have hinteger : type.isInteger = true := hwidens
          exact (DataType.isPlain_of_isInteger hinteger).losesZone.symm
      | _ => cases hwidens
  · rfl

namespace Column

/-- A column of which the type is not nested is compared with a literal by its values. -/
theorem operands_eq_values (hbuilt : column.WellBuilt) (hfits : column.Fits rows)
    (hnested : column.type.isNested = false) (literal : Literal) :
  ∃ type cells, column.operands literal = castBeside literal (column.type.beside literal) cells ∧
    cells.length = rows ∧
    ∀ row, (leaf type cells).datum row = (column.datum row).beside column.type literal
  := by
  cases column with
  | leaf own cells =>
      have hlength : cells.length = rows := hfits
      cases hinteger : own.isInteger with
      | false =>
          have hwidens : own.widens literal = false := by
            cases literal <;> first | exact hinteger | rfl
          refine ⟨own, cells, ?_, hlength, ?_⟩
          · rw [operands_leaf hinteger, type, DataType.beside, hwidens, if_neg Bool.false_ne_true]
          · intro row
            rw [type, Datum.beside, hwidens, if_neg Bool.false_ne_true]
      | true =>
          cases literal with
          | float x =>
              have hwidens : own.widens (.float x) = true := hinteger
              refine ⟨.float .w64, toDoubles cells, ?_, ?_, ?_⟩
              · rw [type, DataType.beside, hwidens, if_pos rfl, operands]
                · rfl
                · exact hinteger
              · rw [toDoubles, List.length_map, hlength]
              · intro row
                rw [datum_toDoubles own, type, Datum.beside, hwidens, if_pos rfl]
                rfl
          | _ => exact ⟨own, cells, rfl, hlength, fun row => rfl⟩
  | dictionary key keys values =>
      have hwidens : (dictionary key keys values).type.widens literal = false := by
        cases literal <;> rfl
      have hdatum := hbuilt.datum_decoded
      have hlength := hfits.decoded
      rw [operands_dictionary, DataType.beside, hwidens, if_neg Bool.false_ne_true]
      cases hdecoded : (dictionary key keys values).decoded with
      | leaf own cells =>
          rw [hdecoded] at hdatum hlength
          refine ⟨own, cells, rfl, hlength, ?_⟩
          intro row
          rw [hdatum, Datum.beside, hwidens, if_neg Bool.false_ne_true]
      | dictionary key keys values => apply absurd hdecoded (decoded_ne_dictionary _ _ _ _)
      | record valid fields count => cases hnested.symm.trans (isNested_of_decoded hdecoded)
  | record valid fields count => cases hnested

/-- A relation to a literal holds of the values of a column, each on its own, unless the literal has
no cell in the type in which they are compared, or loses its zone there.  It holds of none if that
is a null. -/
theorem relate_eq_values (hbuilt : column.WellBuilt) (hfits : column.Fits rows)
    (hnested : column.type.isNested = false) (path : String) (relation : Relation)
    (literal : Literal) :
  column.relate path relation literal
    = match literal.toCell (column.type.beside literal) with
      | .error fault =>
        .error (.conversion literal.toText (column.type.beside literal) (.cast fault))
      | .ok cell =>
        if !literal.isNull && losesZone column.type then .error (.backend (.comparison path))
        else .ok (Mask.ofRows rows fun row => cell.any fun found =>
          ((column.datum row).beside column.type literal).relates relation found)
  := by
  obtain ⟨own, cells, hoperands, hlength, hdatum⟩ :=
    operands_eq_values hbuilt hfits hnested literal
  rw [relate, hoperands, castBeside]
  cases literal.toCell (column.type.beside literal) with
  | error fault => rfl
  | ok cell =>
      dsimp only
      rw [DataType.isNested_beside hnested, DataType.losesZone_beside, Bool.false_or]
      congr 2
      cases cell with
      | none =>
          have hnone (entry : Option Cell) : relateCells relation entry none = none := by
            cases entry <;> rfl
          simp only [hnone]
          rw [Mask.twoValued_map, hlength]
          apply Mask.ofRows_congr
          intro row _
          cases cells[row]? <;> rfl
      | some cell =>
          rw [twoValued_relateCells own, hlength]
          simp only [hdatum, Option.any_some]

/-- A well-built column of a type of texts holds texts. -/
theorem WellBuilt.holdsTexts :
  ∀ {column : Column}, column.WellBuilt → column.type.isTextual = true → column.HoldsTexts
  | .leaf type cells, hbuilt, htextual => by
      obtain ⟨hdictionary, -⟩ := hbuilt
      cases type with
      | text layout => exact ⟨layout, rfl⟩
      | dictionary key value => cases hdictionary
      | _ => cases htextual
  | .dictionary _ _ _, hbuilt, htextual => hbuilt.2.2.holdsTexts htextual

/-- The values of a column of texts are texts or null. -/
theorem HoldsTexts.datum_ne_record (h : column.HoldsTexts) (row : Nat)
    (fields : List (String × Datum)) :
  column.datum row ≠ .record fields
  := by
  obtain ⟨layout, cells, -, -, hdatum⟩ := h.decoded
  rw [← hdatum, datum_leaf]
  cases cells[row]?.join <;> nofun

end Column

/-! ### Values of their types -/

/-- Whether a cell may be a value of a type: texts have texts, and integers have integers. -/
def DataType.admits (type : DataType) : Cell → Bool
  | .text _ => !type.isInteger
  | .int _ => !type.isTextual
  | _ => !type.isInteger && !type.isTextual

/-- Whether all cells of a column may be values of its type. -/
def Column.IsTyped (column : Column) : Prop :=
  ∀ row cell, column.datum row = .cell cell → column.type.admits cell = true

/-- The cells of a leaf are those that are stored. -/
theorem Column.isTyped_leaf {type : DataType} {cells : List (Option Cell)}
    (h : cells.all (fun entry => entry.all type.admits) = true) :
  (leaf type cells).IsTyped
  := by
  intro row cell hcell
  rw [datum_leaf] at hcell
  cases hentry : cells[row]?.join with
  | none =>
      rw [hentry] at hcell
      cases hcell
  | some found =>
      rw [hentry] at hcell
      cases hcell
      have hmem := List.mem_of_getElem? (Option.join_eq_some_iff.mp hentry)
      exact List.all_eq_true.mp h _ hmem

/-! ### The field that is compared -/

namespace Coercion

/-- The type of the field that is compared in place of one of a type. -/
def casedType (coercion : Coercion) (type : DataType) : DataType :=
  if coercion.foldsCase type then .text .short else type

/-- A value of a type in the letters that count. -/
def casedDatum (coercion : Coercion) (type : DataType) (value : Datum) : Datum :=
  if coercion.foldsCase type then value.lowered else value

/-- A value that is not null is not null in the letters that count either. -/
theorem casedDatum_ne_null (hbuilt : column.WellBuilt) (htyped : column.IsTyped)
    (coercion : Coercion) (h : column.datum row ≠ .null) :
  coercion.casedDatum column.type (column.datum row) ≠ .null
  := by
  rw [casedDatum]
  split
  · next hfolds =>
      have htextual : column.type.isTextual = true := (Bool.and_eq_true _ _ ▸ hfolds).2
      cases hdatum : column.datum row with
      | null => contradiction
      | record fields =>
          apply absurd hdatum ((hbuilt.holdsTexts htextual).datum_ne_record row fields)
      | cell cell =>
          have hcell := htyped row cell hdatum
          cases cell with
          | text s => nofun
          | int n =>
              rw [DataType.admits, htextual] at hcell
              cases hcell
          | _ =>
              rw [DataType.admits, htextual, Bool.not_true, Bool.and_false] at hcell
              · cases hcell
              · nofun
              · nofun
  · exact h

end Coercion

namespace ColumnField

variable {field compared : ColumnField} {coercion : Coercion}

/-- Whether a field is compared in place of another one: it has the values of that one in the
letters that count. -/
structure ComparedAs (coercion : Coercion) (rows : Nat) (field compared : ColumnField) : Prop where
  wellBuilt : compared.column.WellBuilt
  fits : compared.column.Fits rows
  type_eq : compared.type = coercion.casedType field.type
  datum_eq (row : Nat) :
    compared.column.datum row = coercion.casedDatum field.type (field.column.datum row)

/-- The texts of a field have the shape of a pattern, or have not, each on its own, if all values
can be written. -/
theorem like_of_texts (hbuilt : field.column.WellBuilt) (hfits : field.column.Fits rows)
    {written : List (Option String)} (htexts : field.column.texts = .ok written) (pattern : String)
    (expected : Bool) :
  field.like pattern expected
    = .ok (Mask.ofRows rows fun row => (field.type.writeDatum (field.column.datum row)).any
        fun text => likeText pattern text == expected)
  := by
  rw [like, htexts]
  apply congrArg Except.ok
  dsimp only
  rw [Mask.twoValued_map, hfits.length_texts htexts]
  apply Mask.ofRows_congr
  intro row hrow
  rw [Column.getElem?_texts hbuilt hfits htexts hrow, Option.bind_some, type]
  cases field.column.type.writeDatum (field.column.datum row) with
  | none => rfl
  | some text =>
      rw [Option.map_some, Option.any_some]
      cases likeText pattern text == expected <;> rfl

end ColumnField

/-- A well-built field is compared in the letters that count. -/
theorem Compiler.run_folded_values (batch : Batch) {field : ColumnField}
    (hbuilt : field.column.WellBuilt) (hfits : field.column.Fits rows) (coercion : Coercion) :
  ∃ compared, (folded ⟨ColumnField.type, coercion⟩ field).run batch.backend = .ok compared ∧
    field.ComparedAs coercion rows compared
  := by
  rw [run_folded_eq]
  cases hfolds : coercion.foldsCase field.type with
  | false =>
      refine ⟨field, rfl, hbuilt, hfits, ?_, ?_⟩
      · rw [Coercion.casedType, hfolds, if_neg Bool.false_ne_true]
      · intro row
        rw [Coercion.casedDatum, hfolds, if_neg Bool.false_ne_true]
  | true =>
      have htextual : field.type.isTextual = true := (Bool.and_eq_true _ _ ▸ hfolds).2
      obtain ⟨cells, hlower, hlength, hdatum⟩ :=
        ColumnField.lower_of_holdsTexts (hbuilt.holdsTexts htextual)
      refine ⟨_, hlower, ⟨rfl, rfl⟩, hlength.trans hfits.rows_eq, ?_, ?_⟩
      · rw [Coercion.casedType, hfolds, if_pos rfl]
        rfl
      · intro row
        rw [Coercion.casedDatum, hfolds, if_pos rfl]
        apply hdatum

end RowFilter
