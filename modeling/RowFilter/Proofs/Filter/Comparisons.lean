import RowFilter.Filter.Expr

/-!
# The comparisons of an expression

`FilterExpr.comparisons` lists the comparisons of an expression in the order in which they are
written; their number is `FilterExpr.comparisonCount`.  Joining two expressions does one of five
things (`FilterExpr.Joins`), and leaves the comparisons of both in their order.
-/

namespace RowFilter

/-- A field compared with an operand. -/
structure Comparison where
  path : String
  op : Operator
  operand : Operand

/-- The expression that is a single comparison. -/
def Comparison.expr (comparison : Comparison) : FilterExpr :=
  .comparison comparison.path comparison.op comparison.operand

namespace FilterExpr

mutual

/-- The comparisons of an expression, in the order written. -/
def comparisons : FilterExpr → List Comparison
  | .empty => []
  | .comparison path op operand => [⟨path, op, operand⟩]
  | .group _ children => allComparisons children
  | .negation child => child.comparisons

/-- The comparisons of a list of expressions, in the order written. -/
def allComparisons : List FilterExpr → List Comparison
  | [] => []
  | child :: rest => child.comparisons ++ allComparisons rest

end

mutual

/-- The number of comparisons is the length of their list. -/
theorem length_comparisons :
  ∀ expr : FilterExpr, expr.comparisons.length = expr.comparisonCount
  | .empty => rfl
  | .comparison _ _ _ => rfl
  | .group _ children => length_allComparisons children
  | .negation child => length_comparisons child

/-- The number of comparisons in a list of expressions is the length of their list. -/
theorem length_allComparisons :
  ∀ children : List FilterExpr, (allComparisons children).length = comparisonCounts children
  | [] => rfl
  | child :: rest => by
      rw [allComparisons, List.length_append, length_comparisons child, length_allComparisons rest,
        comparisonCounts]

end

theorem allComparisons_append (left right : List FilterExpr) :
  allComparisons (left ++ right) = allComparisons left ++ allComparisons right
  := by
  induction left with
  | nil => rfl
  | cons child rest ih =>
      rw [List.cons_append, allComparisons, allComparisons, ih, List.append_assoc]

/-! ### Composition -/

/-- What joining two expressions does: it leaves one of them, merges two groups, adds to a group
or makes a group of two. -/
inductive Joins (op : Connective) : FilterExpr → FilterExpr → FilterExpr → Prop where
  | left_empty (right : FilterExpr) : Joins op .empty right right
  | right_empty (left : FilterExpr) : Joins op left .empty left
  | merged (left right : List FilterExpr) :
    Joins op (.group op left) (.group op right) (.group op (left ++ right))
  | added (left : List FilterExpr) {right : FilterExpr} (h : right ≠ .empty)
    (hgroup : ∀ children, right ≠ .group op children) :
    Joins op (.group op left) right (.group op (left ++ [right]))
  | paired {left right : FilterExpr} (hleft : left ≠ .empty) (hright : right ≠ .empty)
    (hgroup : ∀ children, left ≠ .group op children) :
    Joins op left right (.group op [left, right])

/-- Joining two expressions does what `Joins` says. -/
theorem joins_join (op : Connective) (left right : FilterExpr) :
  Joins op left right (left.join op right)
  := by
  rw [join.eq_def]
  split
  · apply Joins.left_empty
  · apply Joins.right_empty
  · next p left q right =>
      split
      · next h =>
          obtain ⟨rfl, rfl⟩ := h
          apply Joins.merged
      · next h =>
          split
          · next hp =>
              subst hp
              apply Joins.added
              · rintro ⟨⟩
              · rintro children ⟨⟩
                apply h ⟨rfl, rfl⟩
          · next hp =>
              apply Joins.paired
              · rintro ⟨⟩
              · rintro ⟨⟩
              · rintro children ⟨⟩
                apply hp rfl
  · next p left hempty hgroup =>
      split
      · next hp =>
          subst hp
          apply Joins.added
          · apply hempty
          · intro children
            apply hgroup
      · next hp =>
          apply Joins.paired
          · rintro ⟨⟩
          · apply hempty
          · rintro children ⟨⟩
            apply hp rfl
  · next hleft hgroup hright _ =>
      apply Joins.paired
      · apply hleft
      · apply hright
      · intro children
        apply hgroup

/-- The comparisons of two expressions joined are those of the first, followed by those of the
second. -/
theorem Joins.comparisons_eq {op : Connective} {left right joined : FilterExpr}
    (h : Joins op left right joined) :
  joined.comparisons = left.comparisons ++ right.comparisons
  := by
  cases h with
  | left_empty => rfl
  | right_empty => rw [comparisons.eq_1, List.append_nil]
  | merged left right => rw [comparisons, comparisons, comparisons, allComparisons_append]
  | added left _ _ =>
      rw [comparisons, comparisons, allComparisons_append, allComparisons, allComparisons,
        List.append_nil]
  | paired _ _ _ =>
      rw [comparisons, allComparisons, allComparisons, allComparisons, List.append_nil]

theorem comparisons_not (expr : FilterExpr) :
  expr.not.comparisons = expr.comparisons
  := by
  cases expr <;> rfl

end FilterExpr

end RowFilter
