import RowFilter.Proofs.Batch.Cells
import RowFilter.Proofs.Filter.Hidden
import RowFilter.Proofs.Filter.Relations
import RowFilter.Proofs.Number.Monotone

/-!
# The relations to an operand

The six relations to an operand are coherent.  If equality with it is answered, all of them are, by
the same cell of the operand and in the same order of the values (`Batch.run_relation_coherent`), so
that exactly one of `<`, `=` and `>` holds of a value, and the other three are what these say
(`Batch.verdicts_coherent`).
-/

namespace RowFilter

variable {batch : Batch} {coercion : Coercion} {path : String} {field compared : ColumnField}
  {rows row : Nat} {value : Scalar} {literal : Literal} {column : Column} {type : DataType}

/-! ### Types of values in order -/

namespace DataType

/-- Values that are in order are not made of others. -/
theorem isNested_of_isOrderable (h : type.isOrderable = true) :
  type.isNested = false
  := by
  induction type using isOrderable.induct with
  | case8 key value ih => apply ih h
  | case9 type =>
      cases type with
      | dictionary key value => grind
      | _ => first | rfl | cases h
  | _ => cases h

theorem isOrderable_beside (h : type.isOrderable = true) (literal : Literal) :
  (type.beside literal).isOrderable = true
  := by
  rw [beside]
  split
  · rfl
  · exact h

end DataType

theorem Coercion.isOrderable_casedType (h : type.isOrderable = true) :
  (coercion.casedType type).isOrderable = true
  := by
  rw [casedType]
  split
  · rfl
  · exact h

/-! ### One cell for all relations -/

/-- If a column answers the equality with a literal, it answers all relations, by one cell. -/
theorem Column.relate_coherent (hbuilt : column.WellBuilt) (hfits : column.Fits rows)
    (horder : column.type.isOrderable = true) (hnull : literal.isNull = false) {path : String}
    (h : ∃ mask, column.relate path .eq literal = .ok mask) :
  ∃ found, ∀ relation, column.relate path relation literal
    = .ok (Mask.ofRows rows fun row =>
        ((column.datum row).beside column.type literal).relates relation found)
  := by
  obtain ⟨mask, hmask⟩ := h
  have hnested := DataType.isNested_of_isOrderable horder
  have hsettles := Literal.settles_toCell hnull (DataType.isOrderable_beside horder literal)
  have hrelate := relate_eq_values hbuilt hfits hnested path
  rw [hrelate] at hmask
  cases hcell : literal.toCell (column.type.beside literal) with
  | error fault =>
      rw [hcell] at hmask
      cases hmask
  | ok cell =>
      rw [hcell] at hmask
      cases cell with
      | none => cases hsettles hcell
      | some found =>
          refine ⟨found, ?_⟩
          intro relation
          rw [hrelate, hcell]
          dsimp only at hmask ⊢
          split at hmask
          · cases hmask
          · next hzone =>
              rw [if_neg hzone]
              simp only [Option.any_some]

/-- If a field answers the equality with an operand that does not become null, it answers all
relations, by one cell of the operand. -/
theorem Batch.run_relation_coherent (hleads : batch.Leads (Path.segments path) field)
    (hbuilt : field.column.WellBuilt) (hfits : field.column.Fits rows)
    (horder : field.type.isOrderable = true)
    (hliteral : coercion.literal field.type value = .ok literal) (hnull : literal.isNull = false)
    (hok : batch.failure? coercion ⟨path, .relation .eq, .scalar value⟩ = none) :
  ∃ found, ∀ relation,
    (Compiler.comparison ⟨ColumnField.type, coercion⟩ path (.relation relation)
        (.scalar value)).run batch.backend
      = .ok (Mask.ofRows rows fun row =>
          ((coercion.casedDatum field.type (field.column.datum row)).beside
            (coercion.casedType field.type) literal).relates relation found)
  := by
  obtain ⟨compared, hcompared, hvalues⟩ := Compiler.run_folded_values batch hbuilt hfits coercion
  have htype : compared.column.type = coercion.casedType field.type := hvalues.type_eq
  have hequal := (failure?_equality_iff hleads hcompared hliteral hnull).mp hok
  have horder' : compared.column.type.isOrderable = true := by
    rw [htype]
    apply Coercion.isOrderable_casedType horder
  obtain ⟨found, hfound⟩ :=
    Column.relate_coherent hvalues.wellBuilt hvalues.fits horder' hnull hequal
  refine ⟨found, ?_⟩
  intro relation
  rw [Compiler.run_relation_of_literal hleads hcompared hliteral hnull fun _ => horder]
  apply (hfound relation).trans
  simp only [hvalues.datum_eq, htype]

/-! ### Values as cells -/

/-- A value of a type that is not nested is a cell, if it is not null. -/
theorem Column.exists_cell (hbuilt : column.WellBuilt) (hnested : column.type.isNested = false)
    (h : column.datum row ≠ .null) :
  ∃ cell, column.datum row = .cell cell
  := by
  have hdatum := hbuilt.datum_decoded row
  cases hdecoded : column.decoded with
  | leaf own cells =>
      rw [hdecoded, datum_leaf] at hdatum
      cases hentry : cells[row]?.join with
      | none =>
          rw [hentry] at hdatum
          cases h hdatum.symm
      | some cell =>
          rw [hentry] at hdatum
          exact ⟨cell, hdatum.symm⟩
  | dictionary key keys values => apply absurd hdecoded (decoded_ne_dictionary _ _ _ _)
  | record valid fields count => cases hnested.symm.trans (isNested_of_decoded hdecoded)

/-- So it is in the letters that count. -/
theorem Coercion.exists_casedDatum (hbuilt : column.WellBuilt) (htyped : column.IsTyped)
    (hnested : column.type.isNested = false) (coercion : Coercion)
    (h : column.datum row ≠ .null) :
  ∃ cell, coercion.casedDatum column.type (column.datum row) = .cell cell
  := by
  have hcased := casedDatum_ne_null hbuilt htyped coercion h
  rw [casedDatum] at hcased ⊢
  split at hcased
  · rw [if_pos ‹_›]
    rw [Datum.lowered] at hcased ⊢
    cases htext : (column.datum row).lowerText? with
    | none =>
        rw [htext] at hcased
        contradiction
    | some text => exact ⟨_, rfl⟩
  · rw [if_neg ‹_›]
    exact Column.exists_cell hbuilt hnested h

/-- A text in the letters that count is one of the field that is compared. -/
theorem Coercion.admits_casedDatum (htyped : column.IsTyped) {cell : Cell}
    (h : coercion.casedDatum column.type (column.datum row) = .cell cell) :
  (coercion.casedType column.type).admits cell = true
  := by
  rw [casedDatum] at h
  rw [casedType]
  split at h
  · rw [if_pos ‹_›]
    rw [Datum.lowered] at h
    cases htext : (column.datum row).lowerText? with
    | none =>
        rw [htext] at h
        cases h
    | some text =>
        rw [htext] at h
        cases h
        rfl
  · rw [if_neg ‹_›]
    exact htyped row cell h

/-- In double precision, integers keep their order, and other cells are left as they are. -/
theorem Datum.exists_beside {a b : Cell} (ha : type.admits a = true) (hb : type.admits b = true)
    (h : (a.compare b).isLE = true) (literal : Literal) :
  ∃ x y, (Datum.cell a).beside type literal = .cell x ∧
    (Datum.cell b).beside type literal = .cell y ∧ (x.compare y).isLE = true
  := by
  rw [beside, beside]
  split
  · next hwidens =>
      have hinteger : type.isInteger = true := by
        cases literal with
        | float x => exact hwidens
        | _ => cases hwidens
      rw [DataType.admits.eq_def, hinteger] at ha hb
      cases a with
      | int m =>
          cases b with
          | int n =>
              have hle : m ≤ n := Std.isLE_compare.mp h
              exact ⟨_, _, rfl, rfl, Std.isLE_compare.mpr (FloatFormat.orderKey_ofInt_mono hle)⟩
          | _ => cases hb
      | _ => cases ha
  · exact ⟨a, b, rfl, rfl, h⟩

/-- Whether the relation is one of those that exclude each other. -/
def Relation.isStrict : Relation → Bool
  | .lt | .eq | .gt => true
  | .ne | .le | .ge => false

/-- Exactly one of `<`, `=` and `>` holds, however two values stand to each other. -/
theorem Relation.existsUnique_holds (order : Ordering) :
  ∃! relation : Relation, relation.isStrict = true ∧ relation.holds order = true
  := by
  have hunique {strict : Relation} (hstrict : strict.isStrict = true)
      (hholds : strict.holds order = true) (relation : Relation)
      (h : relation.isStrict = true ∧ relation.holds order = true) : relation = strict := by
    obtain ⟨hother, hboth⟩ := h
    cases order <;> cases strict <;> cases relation <;> grind [isStrict, holds]
  cases order with
  | lt => exact ⟨.lt, ⟨rfl, rfl⟩, hunique rfl rfl⟩
  | eq => exact ⟨.eq, ⟨rfl, rfl⟩, hunique rfl rfl⟩
  | gt => exact ⟨.gt, ⟨rfl, rfl⟩, hunique rfl rfl⟩

namespace Batch

/-- If the equality with an operand that does not become null is answered, for a field of a type of
values that are in order, so are all relations.  Of a value that is not null, exactly one of `<`,
`=` and `>` holds, and the other relations are what these say.  If a value in the letters that count
is not above another one of which `<` holds, it holds of the value too. -/
theorem verdicts_coherent (h : batch.IsValid) (hleads : batch.Leads (Path.segments path) field)
    (htyped : field.column.IsTyped) (horder : field.type.isOrderable = true)
    (hliteral : coercion.literal field.type value = .ok literal) (hnull : literal.isNull = false)
    (hok : batch.failure? coercion ⟨path, .relation .eq, .scalar value⟩ = none) :
  let kept (relation : Relation) (row : Nat) : Bool :=
    batch.verdict coercion row ⟨path, .relation relation, .scalar value⟩
  let cased (row : Nat) : Datum := coercion.casedDatum field.type (field.column.datum row)
  (∀ relation, batch.failure? coercion ⟨path, .relation relation, .scalar value⟩ = none) ∧
  (∀ row < batch.rows, field.column.datum row ≠ .null →
    (∃! relation : Relation, relation.isStrict = true ∧ kept relation row = true) ∧
    kept .le row = (kept .lt row || kept .eq row) ∧
    kept .ge row = (kept .gt row || kept .eq row) ∧
    kept .ne row = !kept .eq row) ∧
  ∀ v w a b, v < batch.rows → cased v = .cell a → cased w = .cell b → (a.compare b).isLE = true →
    kept .lt w = true → kept .lt v = true
  := by
  intro kept cased
  obtain ⟨hbuilt, hfits⟩ := h.leads hleads
  obtain ⟨found, hrun⟩ := run_relation_coherent hleads hbuilt hfits horder hliteral hnull hok
  have hkept (relation : Relation) {row : Nat} (hrow : row < batch.rows) : kept relation row
      = ((cased row).beside (coercion.casedType field.type) literal).relates relation found := by
    apply (verdict_of_run (hrun relation)).trans
    apply Mask.accepts_ofRows hrow
  refine ⟨fun relation => failure?_comparison_iff.mpr ⟨_, hrun relation⟩, ?_, ?_⟩
  · intro row hrow hdatum
    obtain ⟨cell, hcell⟩ := Coercion.exists_casedDatum hbuilt htyped
      (DataType.isNested_of_isOrderable horder) coercion hdatum
    -- Beside the operand, the value is a cell that stands to the one of the operand in one way.
    obtain ⟨stored, -, hstored, -, -⟩ := Datum.exists_beside
      (Coercion.admits_casedDatum htyped hcell) (Coercion.admits_casedDatum htyped hcell)
      (Std.ReflCmp.isLE_rfl) literal
    have hholds (relation : Relation) :
        kept relation row = relation.holds (stored.compare found) := by
      rw [hkept relation hrow, ← Datum.relates, ← hstored, ← hcell]
      rfl
    simp only [hholds]
    refine ⟨Relation.existsUnique_holds _, ?_⟩
    cases stored.compare found <;> exact ⟨rfl, rfl, rfl⟩
  · intro v w a b hv ha hb hle hlt
    obtain ⟨x, y, hx, hy, hxy⟩ := Datum.exists_beside (Coercion.admits_casedDatum htyped ha)
      (Coercion.admits_casedDatum htyped hb) hle literal
    have hw : w < batch.rows := (((verdicts_of_run (hrun .lt)).2 w).mp hlt).1
    rw [hkept .lt hw, hb, ColumnField.type, hy, Datum.relates, Relation.holds, beq_iff_eq] at hlt
    rw [hkept .lt hv, ha, ColumnField.type, hx, Datum.relates, Relation.holds, beq_iff_eq]
    exact Std.TransCmp.lt_of_isLE_of_lt hxy hlt

/-- Integers beside a number in double precision, which is nearest to the first of them. -/
theorem verdicts_coherent_doubles :
  let field : ColumnField := ⟨"n", .leaf (.int .w64)
    [some (.int 9007199254740993), some (.int 5), some (.int (-3)), none]⟩
  let batch : Batch := ⟨4, [("n", field.column)]⟩
  let coercion : Coercion := ⟨Converter.standard DateFormats.default, true⟩
  let double : Floating := .finite false 4503599627370496 1
  let comparison (relation : Relation) : Comparison :=
    ⟨"n", .relation relation, .scalar (.number (.floating double))⟩
  batch.IsValid ∧ batch.Leads (Path.segments "n") field ∧ field.column.IsTyped ∧
  field.type.isOrderable = true ∧
  coercion.literal field.type (.number (.floating double)) = .ok (.float double) ∧
  batch.failure? coercion (comparison .eq) = none ∧
  (∀ relation, batch.failure? coercion (comparison relation) = none) ∧
  (∃! relation : Relation, relation.isStrict = true ∧
    batch.verdict coercion 0 (comparison relation) = true) ∧
  batch.verdict coercion 2 (comparison .lt) = true
  := by
  intro field batch coercion double comparison
  have hvalid : batch.IsValid := ⟨⟨rfl, trivial⟩, ⟨⟨rfl, rfl⟩, trivial⟩⟩
  have hleads : batch.Leads (Path.segments "n") field := ⟨field, rfl, rfl⟩
  have htyped : field.column.IsTyped := Column.isTyped_leaf rfl
  have hliteral : coercion.literal field.type (.number (.floating double)) = .ok (.float double) :=
    rfl
  have hequal : batch.verdict coercion 0 (comparison .eq) = true := by decide +kernel
  have hok := failure?_of_verdict hequal
  obtain ⟨hanswered, hvalues, hsorted⟩ :=
    verdicts_coherent hvalid hleads htyped rfl hliteral rfl hok
  have hgreater : batch.verdict coercion 1 (comparison .lt) = true := by decide +kernel
  refine ⟨hvalid, hleads, htyped, rfl, hliteral, hok, hanswered, ?_, ?_⟩
  · exact (hvalues 0 (by decide) nofun).1
  · exact hsorted 2 1 (.int (-3)) (.int 5) (by decide) rfl rfl (by decide) hgreater

end Batch

end RowFilter
