import RowFilter.Batch.Selection
import RowFilter.Proofs.Filter.Meaning

/-!
# What a filter selects

A filter on a rectangular batch fails as the first of its comparisons that fails on its own, is no
condition if it has no comparison, and otherwise has the truth value of its expression at every
row and keeps the rows where that is true (`Filter.mask_apply_eq`).
-/

namespace RowFilter

theorem settled_eq_error_iff {α : Type} {failure : Option FilterError} {result : α}
    {error : FilterError} :
  settled failure result = .error error ↔ failure = some error
  := by
  cases failure with
  | none => simp [settled]
  | some other => simp [settled]

theorem settled_eq_ok_iff {α : Type} {failure : Option FilterError} {result found : α} :
  settled failure result = .ok found ↔ failure = none ∧ result = found
  := by
  cases failure with
  | none => simp [settled]
  | some other => simp [settled]

namespace Batch

variable {batch : Batch} {coercion : Coercion}

theorem failure?_eq_some_iff {comparison : Comparison} {error : FilterError} :
  batch.failure? coercion comparison = some error
    ↔ batch.condition coercion comparison.expr = .error error
  := by
  rw [failure?]
  cases batch.condition coercion comparison.expr <;> simp

theorem failure?_eq_none_iff {comparison : Comparison} :
  batch.failure? coercion comparison = none
    ↔ ∃ found, batch.condition coercion comparison.expr = .ok found
  := by
  rw [failure?]
  cases batch.condition coercion comparison.expr <;> simp

/-- An expression fails if and only if one of its comparisons does, with the error of the first
such comparison. -/
theorem condition_eq_error_iff (h : batch.IsRectangular) {expr : FilterExpr}
    {error : FilterError} :
  batch.condition coercion expr = .error error
    ↔ ∃ before comparison after, expr.comparisons = before ++ comparison :: after ∧
        (∀ earlier ∈ before, ∃ found, batch.condition coercion earlier.expr = .ok found) ∧
        batch.condition coercion comparison.expr = .error error
  := by
  rw [Compiler.condition_eq h, settled_eq_error_iff, List.findSome?_eq_some_iff]
  constructor
  · rintro ⟨before, comparison, after, hsplit, herror, hbefore⟩
    refine ⟨before, comparison, after, hsplit, ?_, failure?_eq_some_iff.mp herror⟩
    intro earlier hearlier
    apply failure?_eq_none_iff.mp (hbefore earlier hearlier)
  · rintro ⟨before, comparison, after, hsplit, hbefore, herror⟩
    refine ⟨before, comparison, after, hsplit, failure?_eq_some_iff.mpr herror, ?_⟩
    intro earlier hearlier
    apply failure?_eq_none_iff.mpr (hbefore earlier hearlier)

/-- An expression in which no comparison fails stands for the mask of its truth values. -/
theorem condition_eq_ok_iff (h : batch.IsRectangular) {expr : FilterExpr}
    {found : Option Mask} :
  batch.condition coercion expr = .ok found
    ↔ expr.comparisons.findSome? (batch.failure? coercion) = none ∧
      batch.meaning coercion expr = found
  := by
  rw [Compiler.condition_eq h, settled_eq_ok_iff]

/-- No comparison fails if and only if each of them stands for something on its own. -/
theorem findSome?_failure?_eq_none_iff {comparisons : List Comparison} :
  comparisons.findSome? (batch.failure? coercion) = none
    ↔ ∀ comparison ∈ comparisons, ∃ found, batch.condition coercion comparison.expr = .ok found
  := by
  rw [List.findSome?_eq_none_iff]
  simp only [failure?_eq_none_iff]

/-- An expression is no condition if and only if it has no comparison. -/
theorem condition_eq_ok_none_iff (h : batch.IsRectangular) {expr : FilterExpr} :
  batch.condition coercion expr = .ok none ↔ expr.comparisonCount = 0
  := by
  rw [condition_eq_ok_iff h, meaning, FilterExpr.verdicts, ← FilterExpr.length_comparisons]
  constructor
  · rintro ⟨_, hnone⟩
    by_cases hcount : expr.comparisons.length = 0
    · apply hcount
    · rw [if_neg hcount, Option.map_some] at hnone
      cases hnone
  · intro hcount
    constructor
    · rw [List.length_eq_zero_iff.mp hcount, List.findSome?_nil]
    · rw [if_pos hcount, Option.map_none]

/-- The masks that expressions stand for are those of their truth values. -/
theorem condition_eq_ok_some (h : batch.IsRectangular) {expr : FilterExpr} {mask : Mask}
    (hmask : batch.condition coercion expr = .ok (some mask)) :
  mask = Mask.ofRows batch.rows fun row => expr.holds (batch.verdict coercion row)
  := by
  obtain ⟨_, hmeaning⟩ := (condition_eq_ok_iff h).mp hmask
  rw [meaning, FilterExpr.verdicts] at hmeaning
  by_cases hcount : expr.comparisonCount = 0
  · rw [if_pos hcount, Option.map_none] at hmeaning
    cases hmeaning
  · rw [if_neg hcount, Option.map_some] at hmeaning
    symm
    apply Option.some.inj hmeaning

end Batch

namespace Filter

variable {filter : Filter} {otherwise : FilterConfig} {batch : Batch}

/-- A filter with a mask keeps the rows that the mask accepts, in their order. -/
theorem apply_of_mask (h : batch.IsRectangular) {mask : Mask}
    (hmask : filter.mask otherwise batch = .ok (some mask)) :
  ∃ kept, filter.apply otherwise batch = .ok kept ∧
    kept.tuples = ((List.range batch.rows).filter mask.accepts).map batch.tuple ∧
    Column.fieldTypes kept.columns = Column.fieldTypes batch.columns
  := by
  have hdefinite : mask.IsDefinite batch.rows := by
    rw [Batch.condition_eq_ok_some h hmask]
    apply Mask.isDefinite_ofRows
  obtain ⟨kept, hselect, hkept⟩ := Batch.select_eq h hdefinite
  refine ⟨kept, ?_, hkept⟩
  rw [apply, hmask]
  apply hselect

/-- Applying a filter fails if and only if finding its mask does. -/
theorem apply_eq_error_iff (h : batch.IsRectangular) {error : FilterError} :
  filter.apply otherwise batch = .error error ↔ filter.mask otherwise batch = .error error
  := by
  cases hmask : filter.mask otherwise batch with
  | error other =>
      rw [apply, hmask]
      constructor
      · rintro ⟨⟩
        rfl
      · rintro ⟨⟩
        rfl
  | ok found =>
      cases found with
      | none =>
          rw [apply, hmask]
          constructor <;> rintro ⟨⟩
      | some mask =>
          obtain ⟨kept, hkept, _⟩ := apply_of_mask h hmask
          rw [hkept]
          constructor <;> rintro ⟨⟩

variable (filter otherwise)

/-- On a rectangular batch a filter fails if and only if a comparison of it fails on its own, as
the first one that does; it is no condition if and only if it has no comparison, and then keeps
the whole batch.  In all other cases its mask has the truth value of its expression at every row,
and it keeps the rows where that is true, in their order. -/
theorem mask_apply_eq (h : batch.IsRectangular) :
  let coercion := filter.coercion (filter.config otherwise)
  let alone (comparison : Comparison) := batch.condition coercion comparison.expr
  let holds (row : Nat) := filter.expr.holds (batch.verdict coercion row)
  (∀ error, filter.mask otherwise batch = .error error ↔
    ∃ before comparison after, filter.expr.comparisons = before ++ comparison :: after ∧
      (∀ earlier ∈ before, ∃ found, alone earlier = .ok found) ∧
      alone comparison = .error error) ∧
  (∀ error, filter.apply otherwise batch = .error error ↔
    filter.mask otherwise batch = .error error) ∧
  (filter.mask otherwise batch = .ok none ↔ filter.expr.comparisonCount = 0) ∧
  (filter.expr.comparisonCount = 0 → filter.apply otherwise batch = .ok batch) ∧
  (filter.expr.comparisonCount ≠ 0 →
    (∀ comparison ∈ filter.expr.comparisons, ∃ found, alone comparison = .ok found) →
      ∃ mask kept, filter.mask otherwise batch = .ok (some mask) ∧
        mask.length = batch.rows ∧ none ∉ mask ∧
        (∀ row < batch.rows, mask[row]? = some (some (holds row))) ∧
        filter.apply otherwise batch = .ok kept ∧
        kept.tuples = ((List.range batch.rows).filter holds).map batch.tuple ∧
        Column.fieldTypes kept.columns = Column.fieldTypes batch.columns)
  := by
  intro coercion alone holds
  refine ⟨?failure, ?applied, ?empty, ?whole, ?selected⟩
  case failure =>
    intro error
    apply Batch.condition_eq_error_iff h
  case applied =>
    intro error
    apply apply_eq_error_iff h
  case empty =>
    apply Batch.condition_eq_ok_none_iff h
  case whole =>
    intro hcount
    have hmask : filter.mask otherwise batch = .ok none :=
      (Batch.condition_eq_ok_none_iff h).mpr hcount
    rw [apply, hmask]
    rfl
  case selected =>
    intro hcount hleaves
    have hfound : filter.mask otherwise batch = .ok (batch.meaning coercion filter.expr) :=
      (Batch.condition_eq_ok_iff h).mpr ⟨Batch.findSome?_failure?_eq_none_iff.mpr hleaves, rfl⟩
    rw [Batch.meaning, FilterExpr.verdicts, if_neg hcount, Option.map_some] at hfound
    obtain ⟨kept, hkept, htuples, htypes⟩ := apply_of_mask h hfound
    have hdefinite := @Mask.isDefinite_ofRows batch.rows holds
    refine ⟨_, kept, hfound, hdefinite.length_eq, hdefinite.none_not_mem, ?_, hkept, ?_, htypes⟩
    · intro row hrow
      apply Mask.getElem?_ofRows hrow
    · rw [htuples]
      congr 1
      apply List.filter_congr
      intro row hrow
      apply Mask.accepts_ofRows (List.mem_range.mp hrow)

/-- Of three rows with the values true, null and false, the last two are not true. -/
theorem mask_apply_eq_not_true :
  let batch : Batch := ⟨3, [("a", .leaf .boolean [some (.bool true), none, some (.bool false)])]⟩
  let isTrue := FilterExpr.comparison "a" (.relation .eq) (.scalar (.bool true))
  let filter := Filter.ofExpr (.group .and [.empty, .negation (.group .or [isTrue])])
  batch.IsRectangular ∧
  filter.mask ⟨true⟩ batch = .ok (some [some false, some true, some true]) ∧
  ∃ kept, filter.apply ⟨true⟩ batch = .ok kept ∧
    kept.tuples = [[("a", .null)], [("a", .cell (.bool false))]]
  := by
  intro batch isTrue filter
  have hrect : batch.IsRectangular := ⟨rfl, trivial⟩
  have hleaves : ∀ comparison ∈ filter.expr.comparisons, ∃ found,
      batch.condition (filter.coercion (filter.config ⟨true⟩)) comparison.expr = .ok found := by
    intro comparison hmem
    obtain rfl := List.mem_singleton.mp hmem
    exact ⟨_, rfl⟩
  obtain ⟨_, _, _, _, hselected⟩ := mask_apply_eq filter ⟨true⟩ hrect
  obtain ⟨mask, kept, hmask, _, _, _, hkept, htuples, _⟩ := hselected (by decide) hleaves
  refine ⟨hrect, rfl, kept, hkept, ?_⟩
  rw [htuples]
  rfl

end Filter

end RowFilter
