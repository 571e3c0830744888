import RowFilter.Proofs.Batch.Recased

/-!
# Answers row by row

What a column answers to a relation or a pattern is the mask of what its values answer, each on its
own: `Datum.relates` and `Datum.isLike`.  So it is for the cells of a leaf (`Column.relate_leaf`)
and for columns of texts, whichever way they are stored (`Column.HoldsTexts.relate_text`,
`ColumnField.like_eq`, `ColumnField.isInOr_eq`).
-/

namespace RowFilter

/-! ### Values -/

namespace Datum

/-- Whether a value stands in a relation to a cell.  Null stands in none. -/
def relates (relation : Relation) (cell : Cell) : Datum → Bool
  | .cell value => relation.holds (value.compare cell)
  | _ => false

/-- Whether a value has a text that has, or has not, the shape of a pattern. -/
def isLike (pattern : String) (expected : Bool) (value : Datum) : Bool :=
  value.text?.any fun text => likeText pattern text == expected

/-- A value has a text if and only if it is the cell of that text. -/
theorem text?_eq_some_iff {value : Datum} {text : String} :
  value.text? = some text ↔ value = .cell (.text text)
  := by
  constructor
  · intro h
    rw [text?.eq_def] at h
    split at h
    · rw [Option.some.inj h]
    · cases h
  · rintro rfl
    rfl

/-- Two texts compare as equal if and only if they are the same. -/
theorem compare_text_eq_iff {cell : Cell} {text : String} :
  cell.compare (.text text) = .eq ↔ cell = .text text
  := by
  cases cell with
  | text s => rw [Cell.compare, Cell.text.injEq, Std.LawfulEqOrd.compare_eq_iff_eq]
  | bool _ => apply iff_of_false <;> rintro ⟨⟩
  | int _ => apply iff_of_false <;> rintro ⟨⟩
  | float _ => apply iff_of_false <;> rintro ⟨⟩
  | bytes _ => apply iff_of_false <;> rintro ⟨⟩

/-- A value is equal to a text if and only if it is that text. -/
theorem relates_eq_text_iff {value : Datum} {text : String} :
  value.relates .eq (.text text) = true ↔ value.text? = some text
  := by
  rw [text?_eq_some_iff]
  cases value with
  | cell cell =>
      rw [relates, Relation.holds, beq_iff_eq, compare_text_eq_iff, Datum.cell.injEq]
  | null => apply iff_of_false <;> rintro ⟨⟩
  | record fields => apply iff_of_false <;> rintro ⟨⟩

/-- A value is different from a text if and only if it is a cell of another value. -/
theorem relates_ne_text_iff {value : Datum} {text : String} :
  value.relates .ne (.text text) = true ↔ ∃ cell, value = .cell cell ∧ cell ≠ .text text
  := by
  cases value with
  | cell cell =>
      rw [relates, Relation.holds, bne_iff_ne, Ne, compare_text_eq_iff]
      constructor
      · intro h
        exact ⟨cell, rfl, h⟩
      · rintro ⟨_, ⟨⟩, h⟩
        apply h
  | null =>
      apply iff_of_false
      · rintro ⟨⟩
      · rintro ⟨_, ⟨⟩, _⟩
  | record fields =>
      apply iff_of_false
      · rintro ⟨⟩
      · rintro ⟨_, ⟨⟩, _⟩

end Datum

/-! ### Types -/

namespace DataType

/-- Whether every text has a cell in a textual type: in that of a dictionary it has one only if the
values can be put in the dictionary one by one. -/
def takesTexts : DataType → Bool
  | .dictionary _ value => value.isPackable
  | _ => true

/-- In a textual type a text has its own cell or none. -/
theorem toCell_text {type : DataType} (h : type.isTextual = true) (text : String) :
  (Literal.text text).toCell type
    = if type.takesTexts then .ok (some (.text text)) else .error .cast
  := by
  cases type with
  | text layout => rfl
  | dictionary key value =>
      cases value with
      | text layout => cases layout <;> rfl
      | dictionary inner stored => rfl
      | _ => cases h
  | _ => cases h

end DataType

/-! ### Masks -/

/-- A row is true in the mask of some verdicts if and only if there is such a row and its verdict
is true. -/
theorem Mask.accepts_ofRows_iff {rows row : Nat} {verdict : Nat → Bool} :
  (Mask.ofRows rows verdict).accepts row = true ↔ row < rows ∧ verdict row = true
  := by
  by_cases hrow : row < rows
  · rw [accepts_ofRows hrow]
    exact ⟨fun h => ⟨hrow, h⟩, fun h => h.2⟩
  · have hlength : (ofRows rows verdict).length = rows := (isDefinite_ofRows verdict).length_eq
    rw [accepts, List.getElem?_eq_none (by omega)]
    apply iff_of_false
    · rintro ⟨⟩
    · rintro ⟨h, _⟩
      contradiction

/-- The mask of the verdicts on entries, null for false, is the mask of the verdicts on rows. -/
theorem Mask.twoValued_map {α : Type} (entries : List α) (verdict : α → Option Bool) :
  Mask.twoValued (entries.map verdict)
    = Mask.ofRows entries.length fun row => entries[row]?.bind verdict == some true
  := by
  rw [twoValued, ofBools, marks, List.map_map, List.map_map, ofRows]
  apply List.ext_getElem?
  intro row
  rw [List.getElem?_map, List.getElem?_map]
  by_cases hrow : row < entries.length
  · rw [List.getElem?_range hrow, Option.map_some, List.getElem?_eq_getElem hrow, Option.map_some,
      Option.bind_some]
    rfl
  · have hrows : (List.range entries.length)[row]? = none := by
      apply List.getElem?_eq_none
      rw [List.length_range]
      omega
    rw [hrows, List.getElem?_eq_none (by omega), Option.map_none, Option.map_none]

namespace Column

/-- A column whose type is neither that of a dictionary nor that of a record is a leaf. -/
theorem eq_leaf {column : Column} (hdictionary : column.type.isDictionary = false)
    (hstruct : column.type.isStruct = false) :
  ∃ cells, column = .leaf column.type cells
  := by
  cases column with
  | leaf type cells => exact ⟨cells, rfl⟩
  | dictionary key keys values => cases hdictionary
  | record valid fields rows => cases hstruct

/-- A leaf has a row where it has a value. -/
theorem lt_length_of_datum_leaf {type : DataType} {cells : List (Option Cell)} {row : Nat}
    (h : (leaf type cells).datum row ≠ .null) :
  row < cells.length
  := by
  by_contra hrow
  apply h
  rw [datum_leaf, List.getElem?_eq_none (Nat.le_of_not_lt hrow)]
  rfl

/-! ### Relations -/

/-- The cells of a leaf stand in a relation to a cell, each on its own. -/
theorem twoValued_relateCells (type : DataType) (cells : List (Option Cell)) (relation : Relation)
    (cell : Cell) :
  Mask.twoValued (cells.map fun entry => relateCells relation entry (some cell))
    = Mask.ofRows cells.length fun row => ((leaf type cells).datum row).relates relation cell
  := by
  rw [Mask.twoValued_map]
  congr 1
  funext row
  rw [datum_leaf]
  cases cells[row]? with
  | none => rfl
  | some entry =>
      cases entry with
      | none => rfl
      | some value =>
          rw [Option.bind_some, Option.join_some, Option.elim_some, Datum.relates, relateCells]
          cases relation.holds (value.compare cell) <;> rfl

/-- The values that a column and a literal are compared by stand in a relation, each on its own. -/
theorem relate_of_operands {column : Column} {literal : Literal} {type : DataType}
    {cells : List (Option Cell)} {cell : Cell}
    (hoperands : column.operands literal = .ok (type, cells, some cell))
    (hnested : type.isNested = false) (hzone : losesZone type = false) (path : String)
    (relation : Relation) :
  column.relate path relation literal
    = .ok (Mask.ofRows cells.length fun row =>
        ((leaf type cells).datum row).relates relation cell)
  := by
  rw [relate, hoperands]
  dsimp only
  rw [hnested, hzone, Bool.and_false, Bool.or_false, if_neg Bool.false_ne_true,
    twoValued_relateCells type]

/-- The values of a leaf stand in a relation to a literal, each on its own, if the literal has a
cell in its type, in which they are compared. -/
theorem relate_leaf {type : DataType} {literal : Literal} {cell : Cell}
    (hinteger : type.isInteger = false) (hnested : type.isNested = false)
    (hzone : losesZone type = false) (hcell : literal.toCell type = .ok (some cell))
    (path : String) (relation : Relation) (cells : List (Option Cell)) :
  relate path relation (leaf type cells) literal
    = .ok (Mask.ofRows cells.length fun row =>
        ((leaf type cells).datum row).relates relation cell)
  := by
  apply relate_of_operands _ hnested hzone
  rw [operands_leaf hinteger, castBeside, hcell]

/-- A column of texts is so without any dictionary, with the same values. -/
theorem HoldsTexts.decoded :
  ∀ {column : Column}, column.HoldsTexts →
    ∃ layout cells, column.decoded = .leaf (.text layout) cells ∧ cells.length = column.rows ∧
      ∀ row, (leaf (.text layout) cells).datum row = column.datum row
  | .leaf _ cells, h => by
      obtain ⟨layout, rfl⟩ := h
      exact ⟨layout, cells, rfl, rfl, fun row => rfl⟩
  | .dictionary key keys values, h => by
      have hvalues : values.HoldsTexts := h
      obtain ⟨layout, cells, hdecoded, _, hdatum⟩ := hvalues.decoded
      refine ⟨layout, pick cells keys, ?_, ?_, ?_⟩
      · rw [Column.decoded, hdecoded, Column.take]
      · rw [pick, List.length_map, Column.rows]
      · intro row
        have hleaf : (leaf (.text layout) cells).HoldsTexts := ⟨layout, rfl⟩
        rw [← Column.take, hleaf.datum_take, datum_dictionary]
        cases keys[row]?.join with
        | none => rfl
        | some i => apply hdatum

/-- A column of texts has a row where it has a value. -/
theorem HoldsTexts.lt_rows {column : Column} {row : Nat} (h : column.HoldsTexts)
    (hdatum : column.datum row ≠ .null) :
  row < column.rows
  := by
  by_contra hrow
  apply hdatum (h.datum_eq_null (Nat.le_of_not_lt hrow))

theorem HoldsTexts.lt_rows_of_text? {column : Column} {row : Nat} {text : String}
    (h : column.HoldsTexts) (htext : (column.datum row).text? = some text) :
  row < column.rows
  := by
  apply h.lt_rows
  intro hnull
  rw [hnull] at htext
  cases htext

/-- A column of texts is compared with a text by the values that it has without any dictionary. -/
theorem HoldsTexts.operands_eq {column : Column} (h : column.HoldsTexts) (text : String) :
  ∃ cells, column.operands (.text text) = castBeside (.text text) column.type cells ∧
    cells.length = column.rows ∧
    ∀ row, (leaf column.type cells).datum row = column.datum row
  := by
  obtain ⟨layout, cells, hdecoded, hlength, hdatum⟩ := h.decoded
  refine ⟨cells, ?_, hlength, ?_⟩
  · cases column with
    | leaf type stored =>
        obtain ⟨_, rfl⟩ := h
        cases hdecoded
        apply operands_leaf rfl
    | dictionary key keys values => rw [operands_dictionary, hdecoded, leafCells]
    | record valid fields rows => cases h
  · intro row
    rw [← hdatum, datum_leaf, datum_leaf]

/-- The values of a column of texts stand in a relation to a text, each on its own, unless the text
has no cell in the type of the column. -/
theorem HoldsTexts.relate_text {column : Column} (h : column.HoldsTexts) (path : String)
    (relation : Relation) (text : String) :
  column.relate path relation (.text text)
    = if column.type.takesTexts then
        .ok (Mask.ofRows column.rows fun row =>
          (column.datum row).relates relation (.text text))
      else .error (.conversion text column.type (.cast .cast))
  := by
  obtain ⟨cells, hoperands, hlength, hdatum⟩ := h.operands_eq text
  rw [castBeside, DataType.toCell_text h.isTextual] at hoperands
  cases htakes : column.type.takesTexts with
  | false =>
      rw [htakes] at hoperands
      rw [relate, hoperands]
      rfl
  | true =>
      rw [htakes] at hoperands
      rw [relate_of_operands hoperands (isNested_of_isTextual _ h.isTextual)
        (losesZone_of_isTextual h.isTextual), hlength]
      simp only [hdatum]
      rfl

/-- The values of a column of texts stand in a relation to a text, each on its own, if they are
compared with it. -/
theorem HoldsTexts.relate_eq {column : Column} {path text : String} {relation : Relation}
    {mask : Mask} (h : column.HoldsTexts)
    (hmask : column.relate path relation (.text text) = .ok mask) :
  mask = Mask.ofRows column.rows fun row => (column.datum row).relates relation (.text text)
  := by
  rw [h.relate_text] at hmask
  split at hmask
  · exact (Except.ok.inj hmask).symm
  · cases hmask

end Column

/-! ### Answers of fields -/

namespace ColumnField

variable {field : ColumnField}

/-- The texts of a field have the shape of a pattern, or have not, each on its own. -/
theorem like_eq (h : field.column.HoldsTexts) (pattern : String) (expected : Bool) :
  field.like pattern expected
    = .ok (Mask.ofRows field.column.rows fun row =>
        (field.column.datum row).isLike pattern expected)
  := by
  rw [like, h.texts_eq]
  apply congrArg Except.ok
  dsimp only
  rw [List.map_map, Mask.twoValued_map, List.length_range, Mask.ofRows, Mask.ofRows]
  apply List.map_congr_left
  intro row hrow
  rw [List.getElem?_range (List.mem_range.mp hrow), Option.bind_some, Function.comp_apply,
    Datum.isLike]
  cases (field.column.datum row).text? with
  | none => rfl
  | some text =>
      rw [Option.map_some, Option.any_some]
      cases likeText pattern text == expected <;> rfl

/-- A literal of a list that is answered adds the rows of its answer. -/
theorem isInOr_cons {literal : Literal} {before verdict : Nat → Bool}
    (h : field.relate .eq literal = .ok (Mask.ofRows field.column.rows verdict))
    (rest : List Literal) :
  field.isInOr (Mask.ofRows field.column.rows before) (literal :: rest)
    = field.isInOr (Mask.ofRows field.column.rows fun row => before row || verdict row) rest
  := by
  rw [isInOr, h]
  apply (congrArg (fun outcome => orFault outcome >>= fun found => field.isInOr found rest)
    (Mask.zip_ofRows Bool.or before verdict))

/-- The rows that are true in a mask or hold one of some literals, each on its own, if the field
answers all of them. -/
theorem isInOr_of_answers {α : Type} {verdict : α → Nat → Bool} {literals : List Literal}
    {entries : List α} {before : Nat → Bool}
    (h : List.Forall₂ (fun literal entry =>
      field.relate .eq literal = .ok (Mask.ofRows field.column.rows (verdict entry)))
      literals entries) :
  field.isInOr (Mask.ofRows field.column.rows before) literals
    = .ok (Mask.ofRows field.column.rows fun row =>
        before row || entries.any fun entry => verdict entry row)
  := by
  induction h generalizing before with
  | nil => simp only [isInOr, List.any_nil, Bool.or_false]
  | cons hfirst hrest ih =>
      rw [isInOr_cons hfirst, ih]
      simp only [List.any_cons, Bool.or_assoc]

/-- The rows that are true in a mask or hold one of some texts, each on its own, if they are
compared with all of them. -/
theorem isInOr_eq (h : field.column.HoldsTexts) {texts : List String} {before : Nat → Bool}
    {mask : Mask}
    (hmask : field.isInOr (Mask.ofRows field.column.rows before) (texts.map .text) = .ok mask) :
  mask = Mask.ofRows field.column.rows fun row =>
    before row || texts.any fun text => (field.column.datum row).relates .eq (.text text)
  := by
  induction texts generalizing before with
  | nil =>
      cases hmask
      simp only [List.any_nil, Bool.or_false]
  | cons text rest ih =>
      obtain ⟨equal, hequal, -⟩ := Except.bind_eq_ok_iff.mp hmask
      obtain rfl := h.relate_eq hequal
      rw [List.map_cons, isInOr_cons hequal] at hmask
      rw [ih hmask]
      simp only [List.any_cons, Bool.or_assoc]

/-- A column of texts in whose type every text has a cell is compared with all texts of a list. -/
theorem exists_isInOr (h : field.column.HoldsTexts) (htakes : field.type.takesTexts = true)
    (texts : List String) (before : Nat → Bool) :
  ∃ mask, field.isInOr (Mask.ofRows field.column.rows before) (texts.map .text) = .ok mask
  := by
  have hanswers : List.Forall₂ (fun literal text => field.relate .eq literal
      = .ok (Mask.ofRows field.column.rows fun row =>
          (field.column.datum row).relates .eq (.text text))) (texts.map .text) texts := by
    rw [List.forall₂_map_left_iff, List.forall₂_same]
    intro text _
    exact (h.relate_text field.path .eq text).trans (if_pos htakes)
  exact ⟨_, isInOr_of_answers hanswers⟩

end ColumnField

end RowFilter
