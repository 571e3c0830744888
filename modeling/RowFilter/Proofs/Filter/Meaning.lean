import RowFilter.Proofs.Batch.Tuples
import RowFilter.Proofs.Filter.Comparisons

/-!
# The meaning of an expression on a batch

`FilterExpr.holds` is the truth value of an expression, given those of its comparisons: the
connectives are taken classically, and what has no comparison is left out.  On a rectangular
batch an expression stands for the mask of its truth values at the rows, unless one of its
comparisons fails on its own; then it fails as the first of them does (`Compiler.condition_eq`).
-/

namespace RowFilter

/-! ### Joining truth values -/

namespace Connective

/-- What a connective makes of the truth values of the conditions that it joins. -/
def overall : Connective → List Bool → Bool
  | .and, values => values.all id
  | .or, values => values.any id

/-- The verdicts on rows of two conditions joined; where there is only one, its verdicts. -/
def merge (op : Connective) :
    Option (Nat → Bool) → Option (Nat → Bool) → Option (Nat → Bool)
  | left, none => left
  | none, some right => some right
  | some left, some right => some fun row => op.apply (left row) (right row)

variable (op : Connective)

theorem overall_cons (value : Bool) (values : List Bool) :
  op.overall (value :: values) = op.apply value (op.overall values)
  := by
  cases op <;> rfl

theorem apply_overall_nil (value : Bool) :
  op.apply value (op.overall []) = value
  := by
  cases op <;> cases value <;> rfl

theorem apply_assoc (a b c : Bool) :
  op.apply (op.apply a b) c = op.apply a (op.apply b c)
  := by
  cases op <;> cases a <;> rfl

@[simp]
theorem merge_none (verdicts : Option (Nat → Bool)) :
  op.merge verdicts none = verdicts
  := by
  cases verdicts <;> rfl

@[simp]
theorem none_merge (verdicts : Option (Nat → Bool)) :
  op.merge none verdicts = verdicts
  := by
  cases verdicts <;> rfl

theorem merge_assoc (a b c : Option (Nat → Bool)) :
  op.merge (op.merge a b) c = op.merge a (op.merge b c)
  := by
  cases a with
  | none => rw [none_merge, none_merge]
  | some a =>
      cases b with
      | none => rw [merge_none, none_merge]
      | some b =>
          cases c with
          | none => rw [merge_none, merge_none]
          | some c => simp only [merge, apply_assoc]

end Connective

/-! ### Truth values of expressions -/

namespace FilterExpr

mutual

/-- The truth value of an expression, given those of its comparisons.  Nothing is asked about an
expression without comparisons. -/
def holds (verdict : Comparison → Bool) : FilterExpr → Bool
  | .empty => true
  | .comparison path op operand => verdict ⟨path, op, operand⟩
  | .group op children => op.overall (truths verdict children)
  | .negation child => !child.holds verdict

/-- The truth values of those expressions in a list that have comparisons. -/
def truths (verdict : Comparison → Bool) : List FilterExpr → List Bool
  | [] => []
  | child :: rest =>
    if child.comparisonCount = 0 then truths verdict rest
    else child.holds verdict :: truths verdict rest

end

/-- A list without comparisons has no truth values. -/
theorem truths_eq_nil (verdict : Comparison → Bool) :
  ∀ {children : List FilterExpr}, comparisonCounts children = 0 → truths verdict children = []
  | [], _ => rfl
  | child :: rest, h => by
      rw [comparisonCounts] at h
      rw [truths, if_pos (by omega), truths_eq_nil verdict (by omega)]

variable (verdict : Nat → Comparison → Bool)

/-- The verdicts of an expression on rows, given those of its comparisons; none if there is no
comparison. -/
def verdicts (expr : FilterExpr) : Option (Nat → Bool) :=
  if expr.comparisonCount = 0 then none else some fun row => expr.holds (verdict row)

/-- The verdicts on rows of a list of expressions that a connective joins. -/
def allVerdicts (op : Connective) (children : List FilterExpr) : Option (Nat → Bool) :=
  if comparisonCounts children = 0 then none
  else some fun row => op.overall (truths (verdict row) children)

theorem verdicts_group (op : Connective) (children : List FilterExpr) :
  (group op children).verdicts verdict = allVerdicts verdict op children
  := rfl

theorem verdicts_negation (child : FilterExpr) :
  (negation child).verdicts verdict = (child.verdicts verdict).map fun found row => !found row
  := by
  have hcount : (negation child).comparisonCount = child.comparisonCount := rfl
  by_cases h : child.comparisonCount = 0
  · rw [verdicts, verdicts, hcount, if_pos h, if_pos h, Option.map_none]
  · rw [verdicts, verdicts, hcount, if_neg h, if_neg h, Option.map_some]
    rfl

/-- The verdicts of expressions that are joined are those of the first, merged with those of the
others. -/
theorem allVerdicts_cons (op : Connective) (child : FilterExpr) (rest : List FilterExpr) :
  allVerdicts verdict op (child :: rest)
    = op.merge (child.verdicts verdict) (allVerdicts verdict op rest)
  := by
  by_cases hchild : child.comparisonCount = 0
  · simp only [allVerdicts, verdicts, comparisonCounts, truths, hchild, if_true, Nat.zero_add,
      Connective.none_merge]
  · by_cases hrest : comparisonCounts rest = 0
    · simp only [allVerdicts, verdicts, comparisonCounts, truths, hchild, hrest, if_false, if_true,
        Nat.add_zero, Connective.merge_none, truths_eq_nil _ hrest, Connective.overall_cons,
        Connective.apply_overall_nil]
    · have hboth : child.comparisonCount + comparisonCounts rest ≠ 0 := by omega
      simp only [allVerdicts, verdicts, comparisonCounts, truths, hchild, hrest, hboth, if_false,
        Connective.merge, Connective.overall_cons]

/-- A list of one expression has the verdicts of that expression. -/
theorem allVerdicts_singleton (op : Connective) (child : FilterExpr) :
  allVerdicts verdict op [child] = child.verdicts verdict
  := by
  rw [allVerdicts_cons]
  apply op.merge_none

theorem allVerdicts_append (op : Connective) (left right : List FilterExpr) :
  allVerdicts verdict op (left ++ right)
    = op.merge (allVerdicts verdict op left) (allVerdicts verdict op right)
  := by
  induction left with
  | nil => rw [List.nil_append, show allVerdicts verdict op [] = none from rfl, op.none_merge]
  | cons child rest ih =>
      rw [List.cons_append, allVerdicts_cons, allVerdicts_cons, ih, op.merge_assoc]

/-- The verdicts of two expressions joined are those of both, merged. -/
theorem Joins.verdicts_eq {op : Connective} {left right joined : FilterExpr}
    (h : Joins op left right joined) :
  joined.verdicts verdict = op.merge (left.verdicts verdict) (right.verdicts verdict)
  := by
  cases h with
  | left_empty => rw [show verdicts verdict empty = none from rfl, op.none_merge]
  | right_empty => rw [show verdicts verdict empty = none from rfl, op.merge_none]
  | merged left right => apply allVerdicts_append
  | added left _ _ => rw [verdicts_group, allVerdicts_append, allVerdicts_singleton, verdicts_group]
  | paired _ _ _ => rw [verdicts_group, allVerdicts_cons, allVerdicts_singleton]

end FilterExpr

/-! ### Conditions on a batch -/

namespace Batch

variable (batch : Batch) (coercion : Coercion)

/-- What an expression is compiled to on a batch. -/
def condition (expr : FilterExpr) : Except FilterError (Option Mask) :=
  (Compiler.compile ⟨ColumnField.type, coercion⟩ expr).run batch.backend

/-- The error of a comparison that is compiled on its own, if it fails. -/
def failure? (comparison : Comparison) : Option FilterError :=
  match batch.condition coercion comparison.expr with
  | .ok _ => none
  | .error error => some error

/-- Whether a row is true in the mask of a comparison that is compiled on its own. -/
def verdict (row : Nat) (comparison : Comparison) : Bool :=
  match batch.condition coercion comparison.expr with
  | .ok (some mask) => mask.accepts row
  | _ => false

/-- The mask of the truth values of an expression at the rows of a batch; none if it has no
comparison. -/
def meaning (expr : FilterExpr) : Option Mask :=
  (expr.verdicts (batch.verdict coercion)).map (Mask.ofRows batch.rows)

end Batch

/-- A result, unless something has failed before. -/
def settled {α : Type} (failure : Option FilterError) (result : α) : Except FilterError α :=
  match failure with
  | none => .ok result
  | some error => .error error

namespace Compiler

variable {batch : Batch}

/-- A batch joins the masks of some verdicts row by row. -/
theorem answer_join (op : Connective) (left right : Nat → Bool) :
  batch.backend.answer .predicate
      (.join op (Mask.ofRows batch.rows left) (Mask.ofRows batch.rows right))
    = .ok (Mask.ofRows batch.rows fun row => op.apply (left row) (right row))
  := by
  cases op with
  | and => apply congrArg ColumnField.orFault (Mask.zip_ofRows Bool.and left right)
  | or => apply congrArg ColumnField.orFault (Mask.zip_ofRows Bool.or left right)

/-- The opposite of the mask of some verdicts is the mask of the opposite verdicts. -/
theorem run_opposite (found : Option (Nat → Bool)) :
  (opposite (found.map (Mask.ofRows batch.rows))).run batch.backend
    = .ok ((found.map fun found row => !found row).map (Mask.ofRows batch.rows))
  := by
  cases found with
  | none => rfl
  | some found =>
      rw [Option.map_some, Option.map_some, Option.map_some, ← Mask.not_ofRows]
      rfl

/-- The masks of some verdicts are joined to the mask of the verdicts merged. -/
theorem run_joined (op : Connective) (left right : Option (Nat → Bool)) :
  (joined op (left.map (Mask.ofRows batch.rows)) (right.map (Mask.ofRows batch.rows))).run
      batch.backend
    = .ok ((op.merge left right).map (Mask.ofRows batch.rows))
  := by
  cases right with
  | none => cases left <;> rfl
  | some right =>
      cases left with
      | none => rfl
      | some left =>
          rw [Option.map_some, Option.map_some, joined, Plan.run_ask, answer_join]
          rfl

/-- A comparison stands for the mask of its verdicts, unless it fails. -/
theorem condition_comparison (h : batch.IsRectangular) (coercion : Coercion) (path : String)
    (op : Operator) (operand : Operand) :
  batch.condition coercion (.comparison path op operand)
    = settled (batch.failure? coercion ⟨path, op, operand⟩)
        (batch.meaning coercion (.comparison path op operand))
  := by
  cases hfound : batch.condition coercion (.comparison path op operand) with
  | error error => rw [Batch.failure?, Comparison.expr, hfound, settled]
  | ok found =>
      have hcompiled := hfound
      rw [Batch.condition, compile, Plan.run_bind] at hcompiled
      obtain ⟨mask, hmask, hdone⟩ := Except.bind_eq_ok_iff.mp hcompiled
      cases hdone
      have hverdict : (fun row => batch.verdict coercion row ⟨path, op, operand⟩)
          = mask.accepts := by
        funext row
        rw [Batch.verdict, Comparison.expr, hfound]
      have hmeaning : batch.meaning coercion (.comparison path op operand) = some mask := by
        apply Eq.trans (b := some (Mask.ofRows batch.rows
          fun row => batch.verdict coercion row ⟨path, op, operand⟩))
        · rfl
        · rw [hverdict, ← (isDefinite_comparison h hmask).eq_ofRows]
      rw [Batch.failure?, Comparison.expr, hfound, settled, hmeaning]

mutual

/-- An expression stands for the mask of its truth values at the rows, unless one of its
comparisons fails; then it fails as the first of them does. -/
theorem condition_eq (h : batch.IsRectangular) (coercion : Coercion) :
  ∀ expr : FilterExpr, batch.condition coercion expr
    = settled (expr.comparisons.findSome? (batch.failure? coercion)) (batch.meaning coercion expr)
  | .empty => rfl
  | .comparison path op operand => by
      rw [condition_comparison h, FilterExpr.comparisons, List.findSome?_singleton]
  | .group op children => by
      rw [Batch.condition, compile, FilterExpr.comparisons, Batch.meaning,
        FilterExpr.verdicts_group, ← op.none_merge (FilterExpr.allVerdicts _ op children)]
      apply run_compileAll h coercion op children none
  | .negation child => by
      have hchild := condition_eq h coercion child
      rw [Batch.condition, compile, Plan.run_bind]
      rw [Batch.condition] at hchild
      rw [hchild, FilterExpr.comparisons, Batch.meaning, Batch.meaning,
        FilterExpr.verdicts_negation]
      cases child.comparisons.findSome? (batch.failure? coercion) with
      | none => apply run_opposite
      | some error => rfl

/-- The conditions of a group are joined, one after the other, to the mask of their truth values
merged with the verdicts before them. -/
theorem run_compileAll (h : batch.IsRectangular) (coercion : Coercion) (op : Connective) :
  ∀ (children : List FilterExpr) (before : Option (Nat → Bool)),
    (compileAll ⟨ColumnField.type, coercion⟩ op (before.map (Mask.ofRows batch.rows)) children).run
        batch.backend
      = settled ((FilterExpr.allComparisons children).findSome? (batch.failure? coercion))
          ((op.merge before (FilterExpr.allVerdicts (batch.verdict coercion) op children)).map
            (Mask.ofRows batch.rows))
  | [], before => by
      rw [compileAll, show FilterExpr.allVerdicts _ op [] = none from rfl, op.merge_none]
      rfl
  | child :: rest, before => by
      have hchild := condition_eq h coercion child
      rw [Batch.condition] at hchild
      rw [compileAll, Plan.run_bind, hchild, FilterExpr.allComparisons, List.findSome?_append,
        FilterExpr.allVerdicts_cons, ← op.merge_assoc]
      cases child.comparisons.findSome? (batch.failure? coercion) with
      | some error => rfl
      | none =>
          apply Eq.trans (Plan.run_bind _ _ _)
          rw [Batch.meaning, run_joined]
          apply run_compileAll h coercion op rest

end

end Compiler

end RowFilter
