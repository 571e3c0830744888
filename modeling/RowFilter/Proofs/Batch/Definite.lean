import RowFilter.Proofs.Batch.Rectangular

/-!
# Definite masks

A mask is definite over some rows when it has one entry for each of them and none is null
(`Mask.IsDefinite`).  Such a mask is the list of its verdicts (`Mask.IsDefinite.eq_ofRows`),
and its opposite and the joins of two of them are taken row by row.  Every condition that a
comparison stands for on a rectangular batch is definite (`Compiler.isDefinite_comparison`).
-/

namespace RowFilter

/-- How a connective joins two truth values. -/
def Connective.apply : Connective → Bool → Bool → Bool
  | .and => Bool.and
  | .or => Bool.or

namespace Mask

/-- Whether the mask has an entry for each of some rows, and none of them is null. -/
structure IsDefinite (rows : Nat) (mask : Mask) : Prop where
  length_eq : mask.length = rows
  none_not_mem : none ∉ mask

/-- Whether a row is true in the mask. -/
def accepts (mask : Mask) (row : Nat) : Bool :=
  mask[row]? == some (some true)

/-- The mask of the verdicts on some rows. -/
def ofRows (rows : Nat) (verdict : Nat → Bool) : Mask :=
  (List.range rows).map fun row => some (verdict row)

variable {rows : Nat}

theorem getElem?_ofRows {verdict : Nat → Bool} {row : Nat} (h : row < rows) :
  (ofRows rows verdict)[row]? = some (some (verdict row))
  := by
  rw [ofRows, List.getElem?_map, List.getElem?_range h, Option.map_some]

/-- A row is true in the mask of some verdicts if and only if its verdict is. -/
theorem accepts_ofRows {verdict : Nat → Bool} {row : Nat} (h : row < rows) :
  (ofRows rows verdict).accepts row = verdict row
  := by
  rw [accepts, getElem?_ofRows h]
  cases verdict row <;> rfl

theorem isDefinite_ofRows (verdict : Nat → Bool) :
  (ofRows rows verdict).IsDefinite rows
  := by
  constructor
  · rw [ofRows, List.length_map, List.length_range]
  · simp [ofRows]

/-- A definite mask is the mask of its own verdicts. -/
theorem IsDefinite.eq_ofRows {mask : Mask} (h : mask.IsDefinite rows) :
  mask = ofRows rows mask.accepts
  := by
  apply List.ext_getElem?
  intro row
  by_cases hrow : row < rows
  · have hlen : row < mask.length := by rwa [h.length_eq]
    have hentry : mask[row] ≠ none := by
      intro hnone
      apply h.none_not_mem
      rw [← hnone]
      apply List.getElem_mem
    rw [getElem?_ofRows hrow, accepts, List.getElem?_eq_getElem hlen]
    cases hvalue : mask[row] with
    | none => contradiction
    | some value => cases value <;> rfl
  · have hmask : mask.length ≤ row := by rw [h.length_eq]; omega
    have hrows : (ofRows rows mask.accepts).length ≤ row := by
      rw [(isDefinite_ofRows _).length_eq]
      omega
    rw [List.getElem?_eq_none hmask, List.getElem?_eq_none hrows]

/-- The rows that are true in the mask of some verdicts are the verdicts. -/
theorem marks_ofRows (verdict : Nat → Bool) :
  (ofRows rows verdict).marks = (List.range rows).map verdict
  := by
  rw [marks, ofRows, List.map_map]
  apply List.map_congr_left
  intro row _
  cases hrow : verdict row <;> simp [hrow]

/-- The mask of truth values is definite. -/
theorem isDefinite_ofBools {marks : List Bool} (h : marks.length = rows) :
  (ofBools marks).IsDefinite rows
  := by
  constructor
  · rw [ofBools, List.length_map, h]
  · simp [ofBools]

/-- A mask with false in place of null is definite. -/
theorem isDefinite_twoValued {mask : Mask} (h : mask.length = rows) :
  mask.twoValued.IsDefinite rows
  := by
  apply isDefinite_ofBools
  rw [marks, List.length_map, h]

/-! ### Opposites and joins -/

theorem not_ofRows (verdict : Nat → Bool) :
  (ofRows rows verdict).not = ofRows rows fun row => !verdict row
  := by
  simp [ofRows, not, List.map_map, Function.comp_def]

theorem zip_ofRows (op : Bool → Bool → Bool) (left right : Nat → Bool) :
  zip op (ofRows rows left) (ofRows rows right)
    = .ok (ofRows rows fun row => op (left row) (right row))
  := by
  rw [zip, if_pos (by simp [ofRows])]
  congr 1
  rw [ofRows, ofRows, List.zipWith_map, List.zipWith_self]
  rfl

/-- The opposite of a definite mask is definite. -/
theorem IsDefinite.not {mask : Mask} (h : mask.IsDefinite rows) :
  mask.not.IsDefinite rows
  := by
  rw [h.eq_ofRows, not_ofRows]
  apply isDefinite_ofRows

/-- Two definite masks combined row by row are definite. -/
theorem IsDefinite.zip {op : Bool → Bool → Bool} {left right both : Mask}
    (hleft : left.IsDefinite rows) (hright : right.IsDefinite rows)
    (hboth : Mask.zip op left right = .ok both) :
  both.IsDefinite rows
  := by
  rw [hleft.eq_ofRows, hright.eq_ofRows, zip_ofRows] at hboth
  cases hboth
  apply isDefinite_ofRows

end Mask

/-! ### Comparing a column -/

namespace Column

/-- A column without any dictionary is no dictionary. -/
theorem decoded_ne_dictionary :
  ∀ (column : Column) (key : DataType) (keys : List (Option Nat)) (values : Column),
    column.decoded ≠ .dictionary key keys values
  | .leaf _ _, _, _, _, h => by cases h
  | .record _ _ _, _, _, _, h => by cases h
  | .dictionary _ _ inner, _, _, _, h => by
      cases hinner : inner.decoded with
      | dictionary key keys values => apply decoded_ne_dictionary inner key keys values hinner
      | leaf type cells =>
          rw [decoded, hinner] at h
          cases h
      | record valid fields rows =>
          rw [decoded, hinner] at h
          cases h

/-- A column that is a record without its dictionaries has a nested type. -/
theorem isNested_of_decoded :
  ∀ {column : Column} {valid : Option (List Bool)} {fields : List (String × Column)} {rows : Nat},
    column.decoded = .record valid fields rows → column.type.isNested = true
  | .leaf _ _, _, _, _, h => by cases h
  | .record _ _ _, _, _, _, _ => rfl
  | .dictionary _ _ inner, _, _, _, h => by
      rw [type, DataType.isNested]
      cases hinner : inner.decoded with
      | dictionary key keys values => apply absurd hinner (decoded_ne_dictionary _ _ _ _)
      | leaf type cells =>
          rw [decoded, hinner] at h
          cases h
      | record valid fields rows => apply isNested_of_decoded hinner

variable {rows : Nat} {column : Column}

/-- Of a type that is not nested, as many values are compared as there are rows. -/
theorem Fits.length_operands {literal : Literal} {type : DataType}
    {cells : List (Option Cell)} {cell : Option Cell} (h : column.Fits rows)
    (hoperands : column.operands literal = .ok (type, cells, cell))
    (hnested : type.isNested = false) :
  cells.length = rows
  := by
  cases column with
  | leaf own stored =>
      have hstored : stored.length = rows := h
      simp only [operands] at hoperands
      split at hoperands
      · split at hoperands
        · cases hoperands
          rw [toDoubles, List.length_map, hstored]
        · cases hoperands
      · split at hoperands
        · cases hoperands
          apply hstored
        · cases hoperands
  | dictionary key keys values =>
      have hdecoded := h.decoded
      simp only [operands] at hoperands
      split at hoperands
      · next own stored heq =>
          rw [heq] at hdecoded
          split at hoperands
          · cases hoperands
            apply hdecoded
          · cases hoperands
      · next hleaf =>
          cases heq : (Column.dictionary key keys values).decoded with
          | leaf own stored => apply absurd heq (hleaf own stored)
          | dictionary key keys values => apply absurd heq (decoded_ne_dictionary _ _ _ _)
          | record valid fields count =>
              split at hoperands
              · cases hoperands
                rw [isNested_of_decoded heq] at hnested
                contradiction
              · cases hoperands
  | record valid fields count =>
      simp only [operands] at hoperands
      split at hoperands
      · cases hoperands
        contradiction
      · cases hoperands

/-- The mask of the rows that stand in a relation to a literal is definite. -/
theorem isDefinite_relate {path : String} {relation : Relation} {literal : Literal} {mask : Mask}
    (h : column.Fits rows) (hmask : column.relate path relation literal = .ok mask) :
  mask.IsDefinite rows
  := by
  rw [relate] at hmask
  split at hmask
  · cases hmask
  · next type cells cell hoperands =>
      split at hmask
      · cases hmask
      · next hcompared =>
          cases hmask
          have hnested : type.isNested = false := by
            cases hvalue : type.isNested with
            | false => rfl
            | true => simp [hvalue] at hcompared
          apply Mask.isDefinite_twoValued
          rw [List.length_map, h.length_operands hoperands hnested]

end Column

namespace ColumnField

variable {rows : Nat} {field : ColumnField}

/-- The mask of the rows whose text has, or has not, the shape of a pattern is definite. -/
theorem isDefinite_like {pattern : String} {expected : Bool} {mask : Mask}
    (h : field.column.Fits rows) (hmask : field.like pattern expected = .ok mask) :
  mask.IsDefinite rows
  := by
  obtain ⟨texts, htexts, rfl⟩ := Except.map_eq_ok_iff.mp hmask
  apply Mask.isDefinite_twoValued
  rw [List.length_map, h.length_texts (orFault_eq_ok_iff.mp htexts)]

/-- The mask of the rows that equal one of some literals, or are true in a definite mask, is
definite. -/
theorem isDefinite_isInOr (h : field.column.Fits rows) :
  ∀ {literals : List Literal} {before mask : Mask}, before.IsDefinite rows →
    field.isInOr before literals = .ok mask → mask.IsDefinite rows
  | [], _, _, hbefore, hmask => by
      cases hmask
      apply hbefore
  | literal :: rest, before, _, hbefore, hmask => by
      obtain ⟨equal, hequal, hmask⟩ := Except.bind_eq_ok_iff.mp hmask
      obtain ⟨found, hfound, hmask⟩ := Except.bind_eq_ok_iff.mp hmask
      apply isDefinite_isInOr h _ hmask
      apply hbefore.zip (Column.isDefinite_relate h hequal) (orFault_eq_ok_iff.mp hfound)

end ColumnField

/-! ### The condition of a comparison -/

variable {batch : Batch}

/-- The field at the end of a path through a rectangular batch fits its rows. -/
theorem Path.fits_descend {path : String} :
  ∀ {segments : List String} {field found : ColumnField}, field.column.Fits batch.rows →
    (Path.descend path segments field).run batch.backend = .ok found →
    found.column.Fits batch.rows
  | [], _, _, h, hfound => by
      cases hfound
      apply h
  | segment :: rest, field, _, h, hfound => by
      rw [Path.descend, Plan.run_ask] at hfound
      obtain ⟨answer, hanswer, hfound⟩ := Except.bind_eq_ok_iff.mp hfound
      cases answer with
      | none => cases hfound
      | some child => apply fits_descend (ColumnField.fits_nested h hanswer) hfound

/-- The field that a path leads to in a rectangular batch fits its rows. -/
theorem Path.fits_resolve {path : String} {found : ColumnField} (h : batch.IsRectangular)
    (hfound : (Path.resolve ColumnField.type path).run batch.backend = .ok found) :
  found.column.Fits batch.rows
  := by
  rw [Path.resolve] at hfound
  split at hfound
  · cases hfound
  · next first rest _ =>
      rw [Plan.run_ask] at hfound
      obtain ⟨answer, hanswer, hfound⟩ := Except.bind_eq_ok_iff.mp hfound
      cases answer with
      | none => cases hfound
      | some field =>
          dsimp only at hfound
          rw [Plan.run_bind] at hfound
          obtain ⟨between, hbetween, hfound⟩ := Except.bind_eq_ok_iff.mp hfound
          cases hfound
          apply Path.fits_descend _ hbetween
          apply h.field? (Except.ok.inj hanswer)

namespace Compiler

/-- A field in the letter case in which it is compared fits the rows of the field. -/
theorem fits_folded {compiler : Compiler ColumnField} {field folded : ColumnField}
    (h : field.column.Fits batch.rows)
    (hfolded : (compiler.folded field).run batch.backend = .ok folded) :
  folded.column.Fits batch.rows
  := by
  rw [Compiler.folded] at hfolded
  split at hfolded
  · apply ColumnField.fits_lower h
    apply Eq.trans (Plan.run_field _ _).symm hfolded
  · cases hfolded
    apply h

/-- The condition that a field stands in a relation to a literal is definite. -/
theorem isDefinite_relate {field : ColumnField} {relation : Relation} {literal : Literal}
    {mask : Mask} (h : field.column.Fits batch.rows)
    (hmask : batch.answer .predicate (relate field relation literal) = .ok mask) :
  mask.IsDefinite batch.rows
  := by
  simp only [relate] at hmask
  split at hmask
  · cases hmask
    apply Mask.isDefinite_ofBools h.length_nulls
  · cases hmask
    apply Mask.isDefinite_ofBools
    rw [List.length_map, h.length_nulls]
  · apply Column.isDefinite_relate h hmask

/-- The condition that a text is found in a field is definite. -/
theorem isDefinite_find {field : ColumnField} {kind : TextMatch} {literal : Literal}
    {mask : Mask} (h : field.column.Fits batch.rows)
    (hmask : batch.answer .predicate (find field kind literal) = .ok mask) :
  mask.IsDefinite batch.rows
  := by
  cases kind <;> apply ColumnField.isDefinite_like h hmask

/-- The condition of an operator on a field and a literal is definite. -/
theorem isDefinite_applyLiteral {path : String} {type : DataType} {field : ColumnField}
    {op : Operator} {literal : Literal} {mask : Mask} (h : field.column.Fits batch.rows)
    (hmask : (applyLiteral path type field op literal).run batch.backend = .ok mask) :
  mask.IsDefinite batch.rows
  := by
  simp only [applyLiteral] at hmask
  split at hmask
  · cases hmask
  · split at hmask
    · cases hmask
    · cases op with
      | relation relation =>
          rw [Plan.run_predicate] at hmask
          apply isDefinite_relate h hmask
      | textMatch kind =>
          rw [Plan.run_predicate] at hmask
          apply isDefinite_find h hmask
      | membership kind => cases hmask

/-- The condition of a membership on a field and literals is definite. -/
theorem isDefinite_applyLiterals {field : ColumnField} {op : Operator} {literals : List Literal}
    {mask : Mask} (h : field.column.Fits batch.rows)
    (hmask : (applyLiterals field op literals).run batch.backend = .ok mask) :
  mask.IsDefinite batch.rows
  := by
  rw [applyLiterals, Plan.run_bind, Plan.run_predicate] at hmask
  obtain ⟨found, hfound, hmask⟩ := Except.bind_eq_ok_iff.mp hmask
  have hnowhere :
      (Mask.ofBools (List.replicate field.column.rows false)).IsDefinite batch.rows := by
    apply Mask.isDefinite_ofBools
    rw [List.length_replicate, h.rows_eq]
  have hdefinite := ColumnField.isDefinite_isInOr h hnowhere hfound
  split at hmask
  · rw [Plan.run_predicate] at hmask
    cases hmask
    apply hdefinite.not
  · cases hmask
    apply hdefinite

/-- The condition that a comparison stands for on a rectangular batch is definite. -/
theorem isDefinite_comparison {coercion : Coercion} {path : String} {op : Operator}
    {operand : Operand} {mask : Mask} (h : batch.IsRectangular)
    (hmask : (comparison ⟨ColumnField.type, coercion⟩ path op operand).run batch.backend
      = .ok mask) :
  mask.IsDefinite batch.rows
  := by
  rw [comparison, Plan.run_bind] at hmask
  obtain ⟨resolved, hresolved, hmask⟩ := Except.bind_eq_ok_iff.mp hmask
  dsimp only at hmask
  rw [Plan.run_bind] at hmask
  obtain ⟨field, hfield, hmask⟩ := Except.bind_eq_ok_iff.mp hmask
  have hfits := fits_folded (Path.fits_resolve h hresolved) hfield
  split at hmask
  · rw [Plan.run_bind] at hmask
    obtain ⟨literal, -, hmask⟩ := Except.bind_eq_ok_iff.mp hmask
    apply isDefinite_applyLiteral hfits hmask
  · rw [Plan.run_bind] at hmask
    obtain ⟨literals, -, hmask⟩ := Except.bind_eq_ok_iff.mp hmask
    apply isDefinite_applyLiterals hfits hmask
  · cases hmask

end Compiler

end RowFilter
