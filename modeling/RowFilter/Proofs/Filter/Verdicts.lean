import RowFilter.Proofs.Batch.Answers
import RowFilter.Proofs.Filter.LetterCase

/-!
# Verdicts of single comparisons

What a comparison that is compiled says of a row depends on the value of its field there.  A field
of texts is compared in the letters that count (`Coercion.cased`): the verdicts on a text that is
looked for (`Batch.verdict_textMatch_iff`), on a relation to a text (`Batch.verdict_relation_iff`)
and on a membership among texts (`Batch.verdict_membership_iff`) are those of its values in these
letters.
-/

namespace RowFilter

/-- The pattern by which a text is looked for. -/
def TextMatch.pattern (kind : TextMatch) (text : String) : String :=
  match kind with
  | .startsWith => text ++ "%"
  | .endsWith => "%" ++ text
  | .contains | .notContains => "%" ++ text ++ "%"

/-- The characters of the pattern by which a text is looked for. -/
def TextMatch.surround (kind : TextMatch) (chars : List Char) : List Char :=
  match kind with
  | .startsWith => chars ++ ['%']
  | .endsWith => '%' :: chars
  | .contains | .notContains => '%' :: (chars ++ ['%'])

theorem TextMatch.toList_pattern (kind : TextMatch) (text : String) :
  (kind.pattern text).toList = kind.surround text.toList
  := by
  cases kind <;> simp [pattern, surround]

/-- Whether the texts that are looked for have the shape of the pattern. -/
def TextMatch.expected : TextMatch → Bool
  | .notContains => false
  | _ => true

/-- Whether a membership holds, given whether the value is among the others. -/
def Membership.holds : Membership → Bool → Bool
  | .anyOf, found => found
  | .noneOf, found => !found

/-- The mask of a membership, given that of the rows whose values are among the others. -/
def Membership.turn : Membership → Mask → Mask
  | .anyOf, found => found
  | .noneOf, found => found.not

variable {batch : Batch} {coercion : Coercion} {path : String} {field : ColumnField} {row : Nat}

namespace Batch

/-! ### Compiled comparisons -/

/-- A comparison does not fail if and only if its plan comes out as a mask. -/
theorem failure?_comparison_iff {op : Operator} {operand : Operand} :
  batch.failure? coercion ⟨path, op, operand⟩ = none ↔
    ∃ mask, (Compiler.comparison ⟨ColumnField.type, coercion⟩ path op operand).run batch.backend
      = .ok mask
  := by
  rw [failure?, Comparison.expr, condition, Compiler.compile, Plan.run_bind]
  cases (Compiler.comparison ⟨ColumnField.type, coercion⟩ path op operand).run batch.backend with
  | ok mask => exact ⟨fun _ => ⟨mask, rfl⟩, fun _ => rfl⟩
  | error error =>
      apply iff_of_false
      · rintro ⟨⟩
      · rintro ⟨_, ⟨⟩⟩

/-- The verdict of a comparison on a row is the entry of its mask. -/
theorem verdict_of_run {op : Operator} {operand : Operand} {mask : Mask}
    (h : (Compiler.comparison ⟨ColumnField.type, coercion⟩ path op operand).run batch.backend
      = .ok mask) :
  batch.verdict coercion row ⟨path, op, operand⟩ = mask.accepts row
  := by
  rw [verdict, Comparison.expr, condition, Compiler.compile, Plan.run_bind, h]
  rfl

/-- A comparison that fails is true in no row. -/
theorem failure?_of_verdict {comparison : Comparison}
    (h : batch.verdict coercion row comparison = true) :
  batch.failure? coercion comparison = none
  := by
  rw [verdict] at h
  rw [failure?]
  split at h
  · next hcondition => rw [hcondition]
  · cases h

end Batch

namespace Compiler

/-- The plan of a comparison with a single operand applies the operator to the literal. -/
theorem run_comparison_scalar (hleads : batch.Leads (Path.segments path) field) {op : Operator}
    (hop : op.takesList = false) (value : Scalar) :
  (comparison ⟨ColumnField.type, coercion⟩ path op (.scalar value)).run batch.backend
    = (folded ⟨ColumnField.type, coercion⟩ field).run batch.backend >>= fun compared =>
      coercion.literal field.type value >>= fun literal =>
      (applyLiteral path field.type compared op literal).run batch.backend
  := by
  rw [comparison, Plan.run_bind, Path.resolve_eq_ok_iff.mpr hleads]
  apply Eq.trans (Plan.run_bind _ _ _)
  congr 1
  funext compared
  rw [hop]
  dsimp only
  rw [Plan.run_bind, Plan.run_ofExcept]

/-- The plan of a comparison with a list looks for the literals. -/
theorem run_comparison_list (hleads : batch.Leads (Path.segments path) field) {op : Operator}
    (hop : op.takesList = true) (values : List Scalar) :
  (comparison ⟨ColumnField.type, coercion⟩ path op (.list values)).run batch.backend
    = (folded ⟨ColumnField.type, coercion⟩ field).run batch.backend >>= fun compared =>
      coercion.literals field.type values >>= fun literals =>
      (applyLiterals compared op literals).run batch.backend
  := by
  rw [comparison, Plan.run_bind, Path.resolve_eq_ok_iff.mpr hleads]
  apply Eq.trans (Plan.run_bind _ _ _)
  congr 1
  funext compared
  rw [hop]
  dsimp only
  rw [Plan.run_bind, Plan.run_ofExcept]

end Compiler

/-! ### Texts in the letters that count -/

namespace Coercion

/-- A text in the letters that count. -/
def cased (coercion : Coercion) (text : String) : String :=
  if coercion.caseSensitive then text else lowerText text

variable {dates : DateFormats} {counts : Bool}

/-- For a field of texts, the literal of a text is the text in the letters that count. -/
theorem literal_text (h : field.column.HoldsTexts) (text : String) :
  literal ⟨Converter.standard dates, counts⟩ field.type (.text text)
    = .ok (.text (cased ⟨Converter.standard dates, counts⟩ text))
  := by
  have htextual : field.type.isTextual = true := h.isTextual
  simp only [literal, Converter.standard_of_isTextual dates text _ htextual, fold, foldsCase,
    htextual, cased]
  cases counts <;> rfl

theorem literals_texts (h : field.column.HoldsTexts) (texts : List String) :
  literals ⟨Converter.standard dates, counts⟩ field.type (texts.map .text)
    = .ok ((texts.map (cased ⟨Converter.standard dates, counts⟩)).map .text)
  := by
  induction texts with
  | nil => rfl
  | cons text rest ih =>
      rw [List.map_cons, literals, literal_text h, ih]
      rfl

end Coercion

/-- The text that a value is, in lower case, and null for any other value. -/
def Datum.lowered (value : Datum) : Datum :=
  value.lowerText?.elim .null fun text => .cell (.text text)

namespace ColumnField

/-- Whether a field holds the texts of another one in the letters that count. -/
structure IsCased (coercion : Coercion) (field compared : ColumnField) : Prop where
  holdsTexts : compared.column.HoldsTexts
  rows_eq : compared.column.rows = field.column.rows
  text?_eq (row : Nat) :
    (compared.column.datum row).text? = (field.column.datum row).text?.map coercion.cased

/-- In lower case, a field of texts is a leaf of its texts in lower case. -/
theorem lower_of_holdsTexts (h : field.column.HoldsTexts) :
  ∃ cells, field.lower = .ok ⟨field.path, .leaf (.text .short) cells⟩ ∧
    cells.length = field.column.rows ∧
    ∀ row, (Column.leaf (.text .short) cells).datum row = (field.column.datum row).lowered
  := by
  rw [lower_eq_map, Column.lowerTexts, h.texts_eq]
  refine ⟨_, rfl, ?_, ?_⟩
  · rw [List.length_map, List.length_map, List.length_map, List.length_range]
  · intro row
    simp only [Column.datum_leaf, List.getElem?_map]
    by_cases hrow : row < field.column.rows
    · rw [List.getElem?_range hrow, Option.map_some, Option.map_some, Option.map_some,
        Option.join_some, Datum.lowered, Datum.lowerText?]
      cases (field.column.datum row).text? <;> rfl
    · rw [h.datum_eq_null (Nat.le_of_not_lt hrow), List.getElem?_eq_none]
      · rfl
      · rw [List.length_range]
        omega

end ColumnField

namespace Compiler

/-- Where letter case counts, a field is compared itself. -/
theorem run_folded_counting (batch : Batch) (converter : Converter) (field : ColumnField) :
  (folded ⟨ColumnField.type, converter, true⟩ field).run batch.backend = .ok field
  := run_folded_eq _ _ _

/-- Where it does not, a field of texts is compared in lower case. -/
theorem run_folded_lower (batch : Batch) (converter : Converter)
    (h : field.column.HoldsTexts) :
  (folded ⟨ColumnField.type, converter, false⟩ field).run batch.backend = field.lower
  := by
  rw [run_folded_eq, Coercion.foldsCase, ColumnField.type, h.isTextual]
  rfl

/-- A field of texts is compared in the letters that count. -/
theorem run_folded_texts (batch : Batch) (h : field.column.HoldsTexts) (coercion : Coercion) :
  ∃ compared, (folded ⟨ColumnField.type, coercion⟩ field).run batch.backend = .ok compared ∧
    field.IsCased coercion compared
  := by
  obtain ⟨converter, counts⟩ := coercion
  cases counts with
  | true =>
      refine ⟨field, run_folded_counting batch converter field, h, rfl, ?_⟩
      intro row
      rw [show Coercion.cased ⟨converter, true⟩ = id from rfl, Option.map_id]
      rfl
  | false =>
      obtain ⟨cells, hlower, hlength, hdatum⟩ := ColumnField.lower_of_holdsTexts h
      refine ⟨_, (run_folded_lower batch converter h).trans hlower, ⟨.short, rfl⟩, hlength, ?_⟩
      intro row
      dsimp only
      rw [hdatum, Datum.lowered, Datum.lowerText?]
      cases (field.column.datum row).text? <;> rfl

/-- A batch answers whether a text is found in a field. -/
theorem answer_find (batch : Batch) (field : ColumnField) (kind : TextMatch) (literal : Literal) :
  batch.answer .predicate (find field kind literal)
    = field.like (kind.pattern literal.toText) kind.expected
  := by
  cases kind <;> rfl

/-- A relation to a literal that is not null is answered by the field, if its values are in order
where the relation is one of order. -/
theorem run_applyLiteral_relation {type : DataType} {relation : Relation} {literal : Literal}
    (horder : relation.isOrdering = true → type.isOrderable = true)
    (hnull : literal.isNull = false) (path : String) (field : ColumnField) :
  (applyLiteral path type field (.relation relation) literal).run batch.backend
    = field.relate relation literal
  := by
  have hunordered : ¬ ((Operator.relation relation).isOrdering && !type.isOrderable) = true := by
    rw [Bool.and_eq_true, Bool.not_eq_true']
    rintro ⟨hordering, horderable⟩
    cases (horder hordering).symm.trans horderable
  rw [applyLiteral, if_neg hunordered, hnull, if_neg (by rintro ⟨⟩), Plan.run_predicate,
    relate_of_isNull_eq_false hnull]
  rfl

/-- A relation of a field of texts to a text holds of its values, each on its own, if the two are
compared. -/
theorem run_applyLiteral_text {type : DataType} {compared : ColumnField} {relation : Relation}
    {text : String} {mask : Mask} (h : compared.column.HoldsTexts)
    (hmask : (applyLiteral path type compared (.relation relation) (.text text)).run batch.backend
      = .ok mask) :
  mask = Mask.ofRows compared.column.rows fun row =>
    (compared.column.datum row).relates relation (.text text)
  := by
  rw [applyLiteral] at hmask
  split at hmask
  · cases hmask
  · rw [if_neg (by rintro ⟨⟩), Plan.run_predicate, relate_of_isNull_eq_false rfl] at hmask
    apply h.relate_eq hmask

/-- A membership is answered by the field, and turned around where it excludes the literals. -/
theorem run_applyLiterals_eq (compared : ColumnField) (kind : Membership)
    (literals : List Literal) :
  (applyLiterals compared (.membership kind) literals).run batch.backend
    = (compared.isInOr (Mask.ofRows compared.column.rows fun _ => false) literals).map kind.turn
  := by
  rw [applyLiterals, Plan.run_bind, Plan.run_predicate]
  have hnone : Mask.ofBools (List.replicate compared.column.rows false)
      = Mask.ofRows compared.column.rows fun _ => false := by
    rw [Mask.ofBools, Mask.ofRows, List.map_const', List.length_range, List.map_replicate]
  have hanswer : batch.backend.answer .predicate (.isIn compared literals)
      = compared.isInOr (Mask.ofRows compared.column.rows fun _ => false) literals := by
    rw [← hnone]
    rfl
  rw [hanswer]
  cases compared.isInOr _ literals with
  | error error => rfl
  | ok found => cases kind <;> rfl

/-- A membership of a field of texts holds of its values, each on its own, if they are compared with
all texts of the list. -/
theorem run_applyLiterals_texts {compared : ColumnField} {kind : Membership} {texts : List String}
    {mask : Mask} (h : compared.column.HoldsTexts)
    (hmask : (applyLiterals compared (.membership kind) (texts.map .text)).run batch.backend
      = .ok mask) :
  mask = Mask.ofRows compared.column.rows fun row =>
    kind.holds (texts.any fun text => (compared.column.datum row).relates .eq (.text text))
  := by
  rw [run_applyLiterals_eq] at hmask
  obtain ⟨found, hfound, rfl⟩ := Except.map_eq_ok_iff.mp hmask
  obtain rfl := ColumnField.isInOr_eq h hfound
  simp only [Bool.false_or]
  cases kind with
  | anyOf => rfl
  | noneOf => apply Mask.not_ofRows

end Compiler

namespace Batch

/-! ### Verdicts on texts -/

variable (dates : DateFormats) (counts : Bool)

/-- A text is looked for in the texts of a field, both in the letters that count. -/
theorem run_textMatch (hleads : batch.Leads (Path.segments path) field)
    (htexts : field.column.HoldsTexts) (kind : TextMatch) (text : String) :
  ∃ compared, field.IsCased ⟨Converter.standard dates, counts⟩ compared ∧
    (Compiler.comparison ⟨ColumnField.type, Converter.standard dates, counts⟩ path
        (.textMatch kind) (.scalar (.text text))).run batch.backend
      = .ok (Mask.ofRows field.column.rows fun row => (compared.column.datum row).isLike
          (kind.pattern (Coercion.cased ⟨Converter.standard dates, counts⟩ text)) kind.expected)
  := by
  obtain ⟨compared, hcompared, hcased⟩ := Compiler.run_folded_texts batch htexts
    ⟨Converter.standard dates, counts⟩
  refine ⟨compared, hcased, ?_⟩
  rw [Compiler.run_comparison_scalar hleads rfl, hcompared, ← hcased.rows_eq,
    Coercion.literal_text htexts]
  apply Eq.trans _ (ColumnField.like_eq hcased.holdsTexts _ _)
  apply Eq.trans (Plan.run_predicate _ _)
  apply Compiler.answer_find

/-- A text comparison with a text does not fail on a field of texts. -/
theorem failure?_textMatch (hleads : batch.Leads (Path.segments path) field)
    (htexts : field.column.HoldsTexts) (kind : TextMatch) (text : String) :
  batch.failure? ⟨Converter.standard dates, counts⟩
    ⟨path, .textMatch kind, .scalar (.text text)⟩ = none
  := by
  obtain ⟨compared, _, hrun⟩ := run_textMatch dates counts hleads htexts kind text
  exact failure?_comparison_iff.mpr ⟨_, hrun⟩

/-- The verdict on a text that is looked for is whether there is a text that has, or has not, the
shape of the pattern. -/
theorem verdict_textMatch_iff (hleads : batch.Leads (Path.segments path) field)
    (htexts : field.column.HoldsTexts) (kind : TextMatch) (text : String) :
  batch.verdict ⟨Converter.standard dates, counts⟩ row
      ⟨path, .textMatch kind, .scalar (.text text)⟩ = true
    ↔ ∃ cell, (field.column.datum row).text? = some cell ∧
      likeText (kind.pattern (Coercion.cased ⟨Converter.standard dates, counts⟩ text))
        (Coercion.cased ⟨Converter.standard dates, counts⟩ cell) = kind.expected
  := by
  obtain ⟨compared, hcased, hrun⟩ := run_textMatch dates counts hleads htexts kind text
  rw [verdict_of_run hrun, Mask.accepts_ofRows_iff, Datum.isLike, hcased.text?_eq]
  constructor
  · rintro ⟨_, hlike⟩
    cases hcell : (field.column.datum row).text? with
    | none =>
        rw [hcell] at hlike
        cases hlike
    | some cell =>
        rw [hcell, Option.map_some, Option.any_some, beq_iff_eq] at hlike
        exact ⟨cell, rfl, hlike⟩
  · rintro ⟨cell, hcell, hlike⟩
    refine ⟨?_, ?_⟩
    · apply htexts.lt_rows_of_text? hcell
    · rw [hcell, Option.map_some, Option.any_some, beq_iff_eq]
      apply hlike

variable {dates : DateFormats} {counts : Bool} {compared : ColumnField}

/-- The verdict on a relation to a text is that of the value of the field in the letters that
count, if the two are compared. -/
theorem verdict_relation_iff {relation : Relation} {text : String}
    (hleads : batch.Leads (Path.segments path) field) (htexts : field.column.HoldsTexts)
    (hcompared : (Compiler.folded ⟨ColumnField.type, Converter.standard dates, counts⟩ field).run
      batch.backend = .ok compared)
    (hholds : compared.column.HoldsTexts)
    (h : batch.failure? ⟨Converter.standard dates, counts⟩
      ⟨path, .relation relation, .scalar (.text text)⟩ = none) :
  batch.verdict ⟨Converter.standard dates, counts⟩ row
      ⟨path, .relation relation, .scalar (.text text)⟩ = true
    ↔ (compared.column.datum row).relates relation
        (.text (Coercion.cased ⟨Converter.standard dates, counts⟩ text)) = true
  := by
  obtain ⟨mask, hmask⟩ := failure?_comparison_iff.mp h
  rw [verdict_of_run hmask]
  rw [Compiler.run_comparison_scalar hleads rfl, hcompared, Coercion.literal_text htexts] at hmask
  obtain rfl := Compiler.run_applyLiteral_text hholds hmask
  rw [Mask.accepts_ofRows_iff, and_iff_right_iff_imp]
  intro hrelates
  apply hholds.lt_rows
  intro hnull
  rw [hnull] at hrelates
  cases hrelates

/-- The verdict on a membership among texts is that of the value of the field in the letters that
count, if it is compared with all of them. -/
theorem verdict_membership_iff {kind : Membership} {texts : List String}
    (hleads : batch.Leads (Path.segments path) field) (htexts : field.column.HoldsTexts)
    (hcompared : (Compiler.folded ⟨ColumnField.type, Converter.standard dates, counts⟩ field).run
      batch.backend = .ok compared)
    (hholds : compared.column.HoldsTexts)
    (h : batch.failure? ⟨Converter.standard dates, counts⟩
      ⟨path, .membership kind, .list (texts.map .text)⟩ = none) :
  batch.verdict ⟨Converter.standard dates, counts⟩ row
      ⟨path, .membership kind, .list (texts.map .text)⟩ = true
    ↔ row < compared.column.rows ∧
      kind.holds (texts.any fun text => (compared.column.datum row).relates .eq
        (.text (Coercion.cased ⟨Converter.standard dates, counts⟩ text))) = true
  := by
  obtain ⟨mask, hmask⟩ := failure?_comparison_iff.mp h
  rw [verdict_of_run hmask]
  rw [Compiler.run_comparison_list hleads rfl, hcompared, Coercion.literals_texts htexts] at hmask
  obtain rfl := Compiler.run_applyLiterals_texts hholds hmask
  rw [Mask.accepts_ofRows_iff, List.any_map]
  rfl

/-- A field of texts is found equal to, or different from, a text that has a cell in the type in
which the two are compared. -/
theorem failure?_relation {relation : Relation} (hleads : batch.Leads (Path.segments path) field)
    (htexts : field.column.HoldsTexts)
    (hcompared : (Compiler.folded ⟨ColumnField.type, Converter.standard dates, counts⟩ field).run
      batch.backend = .ok compared)
    (hholds : compared.column.HoldsTexts) (htakes : compared.type.takesTexts = true)
    (h : relation.isOrdering = false) (text : String) :
  batch.failure? ⟨Converter.standard dates, counts⟩
    ⟨path, .relation relation, .scalar (.text text)⟩ = none
  := by
  have horder : relation.isOrdering = true → field.type.isOrderable = true := by
    intro hordering
    cases h.symm.trans hordering
  have hanswer := (hholds.relate_text compared.path relation
    (Coercion.cased ⟨Converter.standard dates, counts⟩ text)).trans (if_pos htakes)
  rw [failure?_comparison_iff, Compiler.run_comparison_scalar hleads rfl, hcompared,
    Coercion.literal_text htexts]
  exact ⟨_, (Compiler.run_applyLiteral_relation horder rfl path compared).trans hanswer⟩

/-- A field of texts is found among texts, or not, that have cells in the type in which they are
compared. -/
theorem failure?_membership (hleads : batch.Leads (Path.segments path) field)
    (htexts : field.column.HoldsTexts)
    (hcompared : (Compiler.folded ⟨ColumnField.type, Converter.standard dates, counts⟩ field).run
      batch.backend = .ok compared)
    (hholds : compared.column.HoldsTexts) (htakes : compared.type.takesTexts = true)
    (kind : Membership) (texts : List String) :
  batch.failure? ⟨Converter.standard dates, counts⟩
    ⟨path, .membership kind, .list (texts.map .text)⟩ = none
  := by
  obtain ⟨found, hfound⟩ := ColumnField.exists_isInOr hholds htakes
    (texts.map (Coercion.cased ⟨Converter.standard dates, counts⟩)) fun _ => false
  rw [failure?_comparison_iff, Compiler.run_comparison_list hleads rfl, hcompared,
    Coercion.literals_texts htexts]
  exact ⟨_, (Compiler.run_applyLiterals_eq compared kind _).trans
    (congrArg (Except.map kind.turn) hfound)⟩

/-! ### Verdicts with and without letter case -/

/-- Where letter case counts, the verdict on a relation to a text is that of the value. -/
theorem verdict_relation_counting_iff {relation : Relation} {text : String}
    (hleads : batch.Leads (Path.segments path) field) (htexts : field.column.HoldsTexts)
    (h : batch.failure? ⟨Converter.standard dates, true⟩
      ⟨path, .relation relation, .scalar (.text text)⟩ = none) :
  batch.verdict ⟨Converter.standard dates, true⟩ row
      ⟨path, .relation relation, .scalar (.text text)⟩ = true
    ↔ (field.column.datum row).relates relation (.text text) = true
  := verdict_relation_iff hleads htexts (Compiler.run_folded_counting batch _ field) htexts h

/-- Where it does not, the verdict on equality with a text, or on being different from it, is that
of the value in lower case. -/
theorem verdict_relation_lower_iff {relation : Relation} {text : String}
    (hleads : batch.Leads (Path.segments path) field) (htexts : field.column.HoldsTexts)
    (h : relation.isOrdering = false) :
  batch.verdict ⟨Converter.standard dates, false⟩ row
      ⟨path, .relation relation, .scalar (.text text)⟩ = true
    ↔ (field.column.datum row).lowered.relates relation (.text (lowerText text)) = true
  := by
  obtain ⟨cells, hlower, _, hdatum⟩ := ColumnField.lower_of_holdsTexts htexts
  have hfolded := (Compiler.run_folded_lower batch (Converter.standard dates) htexts).trans hlower
  rw [verdict_relation_iff hleads htexts hfolded ⟨.short, rfl⟩
    (failure?_relation hleads htexts hfolded ⟨.short, rfl⟩ rfl h text), hdatum]
  rfl

/-- Where letter case counts, the verdict on a membership among texts is that of the value. -/
theorem verdict_membership_counting_iff {kind : Membership} {texts : List String}
    (hleads : batch.Leads (Path.segments path) field) (htexts : field.column.HoldsTexts)
    (h : batch.failure? ⟨Converter.standard dates, true⟩
      ⟨path, .membership kind, .list (texts.map .text)⟩ = none) :
  batch.verdict ⟨Converter.standard dates, true⟩ row
      ⟨path, .membership kind, .list (texts.map .text)⟩ = true
    ↔ row < field.column.rows ∧
      kind.holds (texts.any fun text =>
        (field.column.datum row).relates .eq (.text text)) = true
  := verdict_membership_iff hleads htexts (Compiler.run_folded_counting batch _ field) htexts h

/-- Where it does not, the verdict on a membership among texts is that of the value in lower
case. -/
theorem verdict_membership_lower_iff {kind : Membership} {texts : List String}
    (hleads : batch.Leads (Path.segments path) field) (htexts : field.column.HoldsTexts) :
  batch.verdict ⟨Converter.standard dates, false⟩ row
      ⟨path, .membership kind, .list (texts.map .text)⟩ = true
    ↔ row < field.column.rows ∧
      kind.holds (texts.any fun text =>
        (field.column.datum row).lowered.relates .eq (.text (lowerText text))) = true
  := by
  obtain ⟨cells, hlower, hlength, hdatum⟩ := ColumnField.lower_of_holdsTexts htexts
  have hfolded := (Compiler.run_folded_lower batch (Converter.standard dates) htexts).trans hlower
  rw [verdict_membership_iff hleads htexts hfolded ⟨.short, rfl⟩
    (failure?_membership hleads htexts hfolded ⟨.short, rfl⟩ rfl kind texts), ← hlength]
  dsimp only
  rw [hdatum]
  rfl

end Batch

end RowFilter
