import RowFilter.Proofs.Filter.Operands

/-!
# Outcomes of comparisons

A comparison on a batch comes out as a mask if its path leads to a field, its operand becomes a
literal and the field that is compared answers that (`Compiler.run_scalar_eq_ok_iff`).  A membership
asks for the equality with each of its literals: it does not fail if and only if none of these does
(`Batch.failure?_membership_iff`), and then finds the rows that equal one of them
(`Batch.verdict_membership`).
-/

namespace RowFilter

variable {batch : Batch} {coercion : Coercion} {path : String} {field compared : ColumnField}
  {rows row : Nat} {value : Scalar} {values : List Scalar} {literals : List Literal}

namespace ColumnField

/-- Whether the value of a field in a row equals a literal.  None does if the two are not
compared. -/
def equals (field : ColumnField) (literal : Literal) (row : Nat) : Bool :=
  match field.relate .eq literal with
  | .ok mask => mask.accepts row
  | .error _ => false

/-- A field that is compared with a literal answers with the rows that equal it. -/
theorem relate_eq_equals (h : field.column.Fits rows) {literal : Literal}
    (hmask : ∃ mask, field.relate .eq literal = .ok mask) :
  field.relate .eq literal = .ok (Mask.ofRows rows (field.equals literal))
  := by
  obtain ⟨mask, hmask⟩ := hmask
  have hequals : field.equals literal = mask.accepts := by
    funext row
    rw [equals, hmask]
  rw [hequals, ← (Column.isDefinite_relate h hmask).eq_ofRows]
  exact hmask

/-- A field that is compared with some literals answers with the rows that equal one of them. -/
theorem isInOr_of_relates (h : field.column.Fits rows)
    (hall : ∀ literal ∈ literals, ∃ mask, field.relate .eq literal = .ok mask)
    (before : Nat → Bool) :
  field.isInOr (Mask.ofRows field.column.rows before) literals
    = .ok (Mask.ofRows field.column.rows fun row =>
        before row || literals.any fun literal => field.equals literal row)
  := by
  apply isInOr_of_answers
  rw [List.forall₂_same]
  intro literal hmem
  rw [h.rows_eq]
  apply relate_eq_equals h (hall literal hmem)

/-- A field answers a membership if and only if it is compared with all literals. -/
theorem isInOr_eq_ok_iff (h : field.column.Fits rows) (before : Nat → Bool) :
  (∃ mask, field.isInOr (Mask.ofRows field.column.rows before) literals = .ok mask)
    ↔ ∀ literal ∈ literals, ∃ mask, field.relate .eq literal = .ok mask
  := by
  constructor
  · rintro ⟨mask, hmask⟩ literal hmem
    cases hrelate : field.relate .eq literal with
    | ok equal => exact ⟨equal, rfl⟩
    | error error =>
        have hall : ∀ other ∈ literals,
            (∃ verdict, field.relate .eq other = .ok (Mask.ofRows field.column.rows verdict)) ∨
            ∃ error, True ∧ field.relate .eq other = .error error := by
          intro other _
          cases hother : field.relate .eq other with
          | ok equal =>
              left
              rw [h.rows_eq]
              exact ⟨_, hother ▸ relate_eq_equals h ⟨equal, hother⟩⟩
          | error error => exact .inr ⟨error, trivial, rfl⟩
        obtain ⟨_, -, herror⟩ := isInOr_of_refuses hall ⟨literal, hmem, error, hrelate⟩
        cases herror.symm.trans hmask
  · intro hall
    exact ⟨_, isInOr_of_relates h hall before⟩

end ColumnField

namespace Compiler

/-! ### Plans that come out -/

/-- The path of a comparison that comes out leads to a field. -/
theorem leads_of_run {op : Operator} {operand : Operand} {mask : Mask}
    (h : (comparison ⟨ColumnField.type, coercion⟩ path op operand).run batch.backend = .ok mask) :
  ∃ field, batch.Leads (Path.segments path) field
  := by
  rw [comparison, Plan.run_bind] at h
  obtain ⟨field, hfield, -⟩ := Except.bind_eq_ok_iff.mp h
  exact ⟨field, Path.resolve_eq_ok_iff.mp hfield⟩

/-- A comparison with a single operand applies its operator to the literal and the field that is
compared. -/
theorem run_scalar (hleads : batch.Leads (Path.segments path) field)
    (hcompared : (folded ⟨ColumnField.type, coercion⟩ field).run batch.backend = .ok compared)
    {op : Operator} (hop : op.takesList = false) :
  (comparison ⟨ColumnField.type, coercion⟩ path op (.scalar value)).run batch.backend
    = coercion.literal field.type value >>= fun literal =>
      (applyLiteral path field.type compared op literal).run batch.backend
  := by
  rw [run_comparison_scalar hleads hop, hcompared]
  rfl

/-- A comparison with a single operand comes out if the operand becomes a literal, and the operator
does with that. -/
theorem run_scalar_eq_ok_iff (hleads : batch.Leads (Path.segments path) field)
    (hcompared : (folded ⟨ColumnField.type, coercion⟩ field).run batch.backend = .ok compared)
    {op : Operator} (hop : op.takesList = false) {mask : Mask} :
  (comparison ⟨ColumnField.type, coercion⟩ path op (.scalar value)).run batch.backend = .ok mask
    ↔ ∃ literal, coercion.literal field.type value = .ok literal ∧
      (applyLiteral path field.type compared op literal).run batch.backend = .ok mask
  := by
  rw [run_scalar hleads hcompared hop]
  apply Except.bind_eq_ok_iff

/-- A relation to a literal that is not null comes out as the compared field answers it. -/
theorem run_relation_of_literal (hleads : batch.Leads (Path.segments path) field)
    (hcompared : (folded ⟨ColumnField.type, coercion⟩ field).run batch.backend = .ok compared)
    {literal : Literal} (hliteral : coercion.literal field.type value = .ok literal)
    (hnull : literal.isNull = false) {relation : Relation}
    (horder : relation.isOrdering = true → field.type.isOrderable = true) :
  (comparison ⟨ColumnField.type, coercion⟩ path (.relation relation) (.scalar value)).run
      batch.backend
    = compared.relate relation literal
  := by
  rw [run_scalar hleads hcompared rfl, hliteral]
  apply run_applyLiteral_relation horder hnull

/-- A text comparison with a literal that is not null comes out as the compared field answers the
pattern of its text. -/
theorem run_textMatch_of_literal (hleads : batch.Leads (Path.segments path) field)
    (hcompared : (folded ⟨ColumnField.type, coercion⟩ field).run batch.backend = .ok compared)
    {literal : Literal} (hliteral : coercion.literal field.type value = .ok literal)
    (hnull : literal.isNull = false) (kind : TextMatch) :
  (comparison ⟨ColumnField.type, coercion⟩ path (.textMatch kind) (.scalar value)).run
      batch.backend
    = compared.like (kind.pattern literal.toText) kind.expected
  := by
  rw [run_scalar hleads hcompared rfl, hliteral]
  apply Eq.trans (b := (applyLiteral path field.type compared (.textMatch kind) literal).run
    batch.backend)
  · rfl
  · rw [applyLiteral, if_neg (by rintro ⟨⟩), hnull, if_neg (by rintro ⟨⟩), Plan.run_predicate]
    apply answer_find

/-- A membership comes out if its operands become literals and the compared field answers those. -/
theorem run_membership_eq_ok_iff (hleads : batch.Leads (Path.segments path) field)
    (hcompared : (folded ⟨ColumnField.type, coercion⟩ field).run batch.backend = .ok compared)
    {kind : Membership} {mask : Mask} :
  (comparison ⟨ColumnField.type, coercion⟩ path (.membership kind) (.list values)).run batch.backend
      = .ok mask
    ↔ ∃ literals, coercion.literals field.type values = .ok literals ∧
      ∃ found, compared.isInOr (Mask.ofRows compared.column.rows fun _ => false) literals
        = .ok found ∧ kind.turn found = mask
  := by
  have hrun : (comparison ⟨ColumnField.type, coercion⟩ path (.membership kind) (.list values)).run
      batch.backend
    = coercion.literals field.type values >>= fun literals =>
      (applyLiterals compared (.membership kind) literals).run batch.backend := by
    rw [run_comparison_list hleads rfl, hcompared]
    rfl
  rw [hrun, Except.bind_eq_ok_iff]
  simp only [run_applyLiterals_eq, Except.map_eq_ok_iff]

end Compiler

theorem Mask.ofRows_congr {verdict other : Nat → Bool} (h : ∀ row < rows, verdict row = other row) :
  Mask.ofRows rows verdict = Mask.ofRows rows other
  := by
  apply List.map_congr_left
  intro row hrow
  rw [h row (List.mem_range.mp hrow)]

/-- The mask of a membership is that of its verdicts. -/
theorem Membership.turn_ofRows (kind : Membership) (verdict : Nat → Bool) :
  kind.turn (Mask.ofRows rows verdict) = Mask.ofRows rows fun row => kind.holds (verdict row)
  := by
  cases kind with
  | anyOf => rfl
  | noneOf => apply Mask.not_ofRows

namespace Batch

/-! ### Failures and verdicts -/

/-- The path of a comparison that does not fail leads to a field. -/
theorem leads_of_failure? {op : Operator} {operand : Operand}
    (h : batch.failure? coercion ⟨path, op, operand⟩ = none) :
  ∃ field, batch.Leads (Path.segments path) field
  := by
  obtain ⟨mask, hmask⟩ := failure?_comparison_iff.mp h
  exact Compiler.leads_of_run hmask

/-- A comparison that does not fail on a rectangular batch stands for the mask of its verdicts. -/
theorem condition_of_failure? (hrect : batch.IsRectangular) {op : Operator} {operand : Operand}
    (h : batch.failure? coercion ⟨path, op, operand⟩ = none) :
  batch.condition coercion (.comparison path op operand)
    = .ok (some (Mask.ofRows batch.rows fun row =>
        batch.verdict coercion row ⟨path, op, operand⟩))
  := by
  rw [Compiler.condition_comparison hrect, h]
  rfl

/-- A comparison that stands for the mask of some verdicts has these verdicts on the rows. -/
theorem verdict_of_condition {comparison : Comparison} {verdict : Nat → Bool}
    (h : batch.condition coercion comparison.expr = .ok (some (Mask.ofRows rows verdict))) :
  batch.verdict coercion row comparison = true ↔ row < rows ∧ verdict row = true
  := by
  rw [Batch.verdict, h]
  apply Mask.accepts_ofRows_iff

/-- The equality with a literal that is not null does not fail if and only if the compared field
answers it. -/
theorem failure?_equality_iff (hleads : batch.Leads (Path.segments path) field)
    (hcompared : (Compiler.folded ⟨ColumnField.type, coercion⟩ field).run batch.backend
      = .ok compared)
    {literal : Literal} (hliteral : coercion.literal field.type value = .ok literal)
    (hnull : literal.isNull = false) :
  batch.failure? coercion ⟨path, .relation .eq, .scalar value⟩ = none
    ↔ ∃ mask, compared.relate .eq literal = .ok mask
  := by
  rw [failure?_comparison_iff,
    Compiler.run_relation_of_literal hleads hcompared hliteral hnull (by rintro ⟨⟩)]

/-- The verdict on the equality with a literal that is not null is that of the compared field. -/
theorem verdict_equality (hleads : batch.Leads (Path.segments path) field)
    (hcompared : (Compiler.folded ⟨ColumnField.type, coercion⟩ field).run batch.backend
      = .ok compared)
    {literal : Literal} (hliteral : coercion.literal field.type value = .ok literal)
    (hnull : literal.isNull = false) (row : Nat) :
  batch.verdict coercion row ⟨path, .relation .eq, .scalar value⟩ = compared.equals literal row
  := by
  have hrun := @Compiler.run_relation_of_literal _ _ _ _ _ _ hleads hcompared _ hliteral hnull .eq
    (by rintro ⟨⟩)
  rw [ColumnField.equals]
  cases hrelate : compared.relate .eq literal with
  | ok mask => exact verdict_of_run (hrun.trans hrelate)
  | error error =>
      rw [← Bool.not_eq_true]
      intro htrue
      obtain ⟨mask, hmask⟩ := failure?_comparison_iff.mp (failure?_of_verdict htrue)
      cases (hrun.trans hrelate).symm.trans hmask

/-- A membership does not fail if and only if all operands become literals with which the compared
field is compared. -/
theorem failure?_membership_iff (hleads : batch.Leads (Path.segments path) field)
    (hcompared : (Compiler.folded ⟨ColumnField.type, coercion⟩ field).run batch.backend
      = .ok compared)
    (hfits : compared.column.Fits rows) {kind : Membership} :
  batch.failure? coercion ⟨path, .membership kind, .list values⟩ = none
    ↔ ∃ literals, coercion.literals field.type values = .ok literals ∧
      ∀ literal ∈ literals, ∃ mask, compared.relate .eq literal = .ok mask
  := by
  rw [failure?_comparison_iff]
  simp only [Compiler.run_membership_eq_ok_iff hleads hcompared]
  constructor
  · rintro ⟨_, literals, hliterals, found, hfound, -⟩
    exact ⟨literals, hliterals, (ColumnField.isInOr_eq_ok_iff hfits _).mp ⟨found, hfound⟩⟩
  · rintro ⟨literals, hliterals, hall⟩
    obtain ⟨found, hfound⟩ := (ColumnField.isInOr_eq_ok_iff hfits fun _ => false).mpr hall
    exact ⟨_, literals, hliterals, found, hfound, rfl⟩

/-- The verdict of a membership that does not fail is whether a row equals one of the literals, or
does not. -/
theorem verdict_membership (hleads : batch.Leads (Path.segments path) field)
    (hcompared : (Compiler.folded ⟨ColumnField.type, coercion⟩ field).run batch.backend
      = .ok compared)
    (hfits : compared.column.Fits rows) {kind : Membership}
    (hliterals : coercion.literals field.type values = .ok literals)
    (hok : batch.failure? coercion ⟨path, .membership kind, .list values⟩ = none)
    (hrow : row < rows) :
  batch.verdict coercion row ⟨path, .membership kind, .list values⟩
    = kind.holds (literals.any fun literal => compared.equals literal row)
  := by
  obtain ⟨_, hsame, hall⟩ := (failure?_membership_iff hleads hcompared hfits).mp hok
  cases hliterals.symm.trans hsame
  have hfound := ColumnField.isInOr_of_relates hfits hall fun _ => false
  rw [verdict_of_run ((Compiler.run_membership_eq_ok_iff hleads hcompared).mpr
    ⟨literals, hliterals, _, hfound, rfl⟩), Membership.turn_ofRows, hfits.rows_eq,
    Mask.accepts_ofRows hrow]
  rfl

end Batch

end RowFilter
