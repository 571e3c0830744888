import RowFilter.Proofs.Filter.Selection

/-!
# Composed conditions

The conjunction, the disjunction and the opposite of expressions are compiled to what their masks
give row by row, whichever way the expressions are put together (`Batch.condition_composed`).
`Batch.IsJoin` and `Batch.IsOpposite` say what that is, also where a side fails or is no
condition.
-/

namespace RowFilter

namespace FilterExpr

/-- The verdicts of the opposite of an expression are the opposite ones. -/
theorem verdicts_not (verdict : Nat → Comparison → Bool) (expr : FilterExpr) :
  expr.not.verdicts verdict = (expr.verdicts verdict).map fun found row => !found row
  := by
  cases expr with
  | empty => rfl
  | _ => apply verdicts_negation

end FilterExpr

namespace Batch

variable (batch : Batch) (coercion : Coercion)

/-- Whether an expression stands for two others that are joined row by row. -/
structure IsJoin (op : Bool → Bool → Bool) (left right both : FilterExpr) : Prop where
  /-- It fails as the first of the two that fails. -/
  error_iff (error : FilterError) :
    batch.condition coercion both = .error error ↔
      batch.condition coercion left = .error error ∨
      (∃ found, batch.condition coercion left = .ok found) ∧
        batch.condition coercion right = .error error
  /-- No condition on the left leaves the right side. -/
  left_none : batch.condition coercion left = .ok none →
    batch.condition coercion both = batch.condition coercion right
  /-- No condition on the right leaves the left side. -/
  right_none : batch.condition coercion right = .ok none →
    batch.condition coercion both = batch.condition coercion left
  /-- Two masks are joined at every row. -/
  masks {first second : Mask} : batch.condition coercion left = .ok (some first) →
    batch.condition coercion right = .ok (some second) →
      ∃ mask, batch.condition coercion both = .ok (some mask) ∧ mask.length = batch.rows ∧
        ∀ row < batch.rows, ∃ a b, first[row]? = some (some a) ∧ second[row]? = some (some b) ∧
          mask[row]? = some (some (op a b))

/-- Whether an expression stands for the opposite of another one. -/
structure IsOpposite (child opposite : FilterExpr) : Prop where
  /-- It fails as the other one does. -/
  error_iff (error : FilterError) :
    batch.condition coercion opposite = .error error ↔ batch.condition coercion child = .error error
  /-- It is no condition if the other one is none. -/
  none_iff :
    batch.condition coercion opposite = .ok none ↔ batch.condition coercion child = .ok none
  /-- Every row is kept by exactly one of the two. -/
  masks {mask : Mask} : batch.condition coercion child = .ok (some mask) →
    ∃ opposed kept others, batch.condition coercion opposite = .ok (some opposed) ∧
      mask.length = batch.rows ∧ opposed.length = batch.rows ∧
      (∀ row < batch.rows, ∃ value, mask[row]? = some (some value) ∧
        opposed[row]? = some (some !value)) ∧
      batch.select mask = .ok kept ∧ batch.select opposed = .ok others ∧
      kept.tuples = ((List.range batch.rows).filter mask.accepts).map batch.tuple ∧
      others.tuples
        = ((List.range batch.rows).filter fun row => !mask.accepts row).map batch.tuple

variable {batch}

/-- What two expressions joined stand for: the first failure of their comparisons, or else the
mask of their verdicts merged. -/
theorem condition_join (h : batch.IsRectangular) (op : Connective) (left right : FilterExpr) :
  batch.condition coercion (left.join op right)
    = settled ((left.comparisons.findSome? (batch.failure? coercion)).or
          (right.comparisons.findSome? (batch.failure? coercion)))
        ((op.merge (left.verdicts (batch.verdict coercion))
          (right.verdicts (batch.verdict coercion))).map (Mask.ofRows batch.rows))
  := by
  have hjoins := FilterExpr.joins_join op left right
  rw [Compiler.condition_eq h, hjoins.comparisons_eq, List.findSome?_append, meaning,
    hjoins.verdicts_eq]

variable {coercion}

/-- If the two joined stand for something, then both of them do. -/
theorem IsJoin.ok_of_ok {op : Bool → Bool → Bool} {left right both : FilterExpr}
    {found : Option Mask} (h : batch.IsJoin coercion op left right both)
    (hboth : batch.condition coercion both = .ok found) :
  (∃ first, batch.condition coercion left = .ok first) ∧
    ∃ second, batch.condition coercion right = .ok second
  := by
  have hdone (error : FilterError) : batch.condition coercion both ≠ .error error := by
    rw [hboth]
    rintro ⟨⟩
  cases hleft : batch.condition coercion left with
  | error error => exact absurd ((h.error_iff error).mpr (.inl hleft)) (hdone error)
  | ok first =>
      cases hright : batch.condition coercion right with
      | error error =>
          exact absurd ((h.error_iff error).mpr (.inr ⟨⟨first, hleft⟩, hright⟩)) (hdone error)
      | ok second => exact ⟨⟨first, rfl⟩, second, rfl⟩

/-- Two expressions that stand for masks stand for the mask of their verdicts joined. -/
theorem condition_join_masks (h : batch.IsRectangular) (op : Connective) {left right : FilterExpr}
    {first second : Mask} (hleft : batch.condition coercion left = .ok (some first))
    (hright : batch.condition coercion right = .ok (some second)) :
  ∃ a b, first = Mask.ofRows batch.rows a ∧ second = Mask.ofRows batch.rows b ∧
    batch.condition coercion (left.join op right)
      = .ok (some (Mask.ofRows batch.rows fun row => op.apply (a row) (b row)))
  := by
  obtain ⟨hfailureLeft, hverdictsLeft⟩ := (condition_eq_ok_iff h).mp hleft
  obtain ⟨hfailureRight, hverdictsRight⟩ := (condition_eq_ok_iff h).mp hright
  obtain ⟨a, ha, rfl⟩ := Option.map_eq_some_iff.mp hverdictsLeft
  obtain ⟨b, hb, rfl⟩ := Option.map_eq_some_iff.mp hverdictsRight
  refine ⟨a, b, rfl, rfl, ?_⟩
  rw [condition_join _ h, hfailureLeft, hfailureRight, ha, hb]
  rfl

/-- Two expressions joined stand for the two joined row by row. -/
theorem isJoin_join (h : batch.IsRectangular) (op : Connective) (left right : FilterExpr) :
  batch.IsJoin coercion op.apply left right (left.join op right)
  := by
  constructor
  case error_iff =>
    intro error
    rw [condition_join _ h, Compiler.condition_eq h coercion left,
      Compiler.condition_eq h coercion right, settled_eq_error_iff, settled_eq_error_iff,
      settled_eq_error_iff]
    cases left.comparisons.findSome? (batch.failure? coercion) <;> simp [settled]
  case left_none =>
    intro hleft
    obtain ⟨hfailure, hverdicts⟩ := (condition_eq_ok_iff h).mp hleft
    rw [condition_join _ h, hfailure, Option.map_eq_none_iff.mp hverdicts, Option.none_or,
      op.none_merge, Compiler.condition_eq h, meaning]
  case right_none =>
    intro hright
    obtain ⟨hfailure, hverdicts⟩ := (condition_eq_ok_iff h).mp hright
    rw [condition_join _ h, hfailure, Option.map_eq_none_iff.mp hverdicts, Option.or_none,
      op.merge_none, Compiler.condition_eq h, meaning]
  case masks =>
    intro first second hleft hright
    obtain ⟨a, b, rfl, rfl, hboth⟩ := condition_join_masks h op hleft hright
    refine ⟨_, hboth, ?_, ?_⟩
    · apply (Mask.isDefinite_ofRows _).length_eq
    · intro row hrow
      refine ⟨a row, b row, Mask.getElem?_ofRows hrow, Mask.getElem?_ofRows hrow, ?_⟩
      apply Mask.getElem?_ofRows hrow

/-- What the opposite of an expression stands for. -/
theorem condition_not (h : batch.IsRectangular) (expr : FilterExpr) :
  batch.condition coercion expr.not
    = settled (expr.comparisons.findSome? (batch.failure? coercion))
        (((expr.verdicts (batch.verdict coercion)).map fun found row => !found row).map
          (Mask.ofRows batch.rows))
  := by
  rw [Compiler.condition_eq h, FilterExpr.comparisons_not, meaning, FilterExpr.verdicts_not]

/-- The opposite of an expression stands for the opposite of it. -/
theorem isOpposite_not (h : batch.IsRectangular) (expr : FilterExpr) :
  batch.IsOpposite coercion expr expr.not
  := by
  constructor
  case error_iff =>
    intro error
    rw [condition_not h, Compiler.condition_eq h, settled_eq_error_iff, settled_eq_error_iff]
  case none_iff =>
    rw [condition_not h, Compiler.condition_eq h, settled_eq_ok_iff, settled_eq_ok_iff, meaning,
      Option.map_eq_none_iff, Option.map_eq_none_iff, Option.map_eq_none_iff]
  case masks =>
    intro mask hmask
    obtain ⟨hfailure, hverdicts⟩ := (condition_eq_ok_iff h).mp hmask
    obtain ⟨value, hvalue, rfl⟩ := Option.map_eq_some_iff.mp hverdicts
    have hmask := @Mask.isDefinite_ofRows batch.rows value
    have hopposed := @Mask.isDefinite_ofRows batch.rows fun row => !value row
    obtain ⟨kept, hkept, htuples, _⟩ := select_eq h hmask
    obtain ⟨others, hothers, htuplesOthers, _⟩ := select_eq h hopposed
    refine ⟨_, kept, others, ?_, hmask.length_eq, hopposed.length_eq, ?_, hkept, hothers,
      htuples, ?_⟩
    · rw [condition_not h, hfailure, hvalue]
      rfl
    · intro row hrow
      exact ⟨value row, Mask.getElem?_ofRows hrow, Mask.getElem?_ofRows hrow⟩
    · rw [htuplesOthers]
      congr 1
      apply List.filter_congr
      intro row hrow
      rw [Mask.accepts_ofRows (List.mem_range.mp hrow),
        Mask.accepts_ofRows (List.mem_range.mp hrow)]

/-- Expressions that are put together from others stand for the conjunction, the disjunction and
the opposite of them, row by row. -/
theorem condition_composed (h : batch.IsRectangular) (coercion : Coercion)
    (left right : FilterExpr) :
  batch.IsJoin coercion Bool.and left right (left.and right) ∧
  batch.IsJoin coercion Bool.or left right (left.or right) ∧
  batch.IsOpposite coercion left left.not
  := by
  refine ⟨?_, ?_, ?_⟩
  · apply isJoin_join h .and
  · apply isJoin_join h .or
  · apply isOpposite_not h

/-- A flag joined with a disjunction that holds on other rows. -/
theorem condition_composed_flags :
  let batch : Batch := ⟨3, [("a", .leaf .boolean [some (.bool true), none, some (.bool false)])]⟩
  let coercion : Coercion := ⟨Converter.standard DateFormats.default, true⟩
  let isTrue := FilterExpr.comparison "a" (.relation .eq) (.scalar (.bool true))
  let isNotTrue := FilterExpr.group .or [.empty, .negation isTrue]
  batch.IsRectangular ∧
  (∃ mask, batch.condition coercion (isTrue.and isNotTrue) = .ok (some mask) ∧
    mask = [some false, some false, some false]) ∧
  (∃ mask, batch.condition coercion (isTrue.or isNotTrue) = .ok (some mask) ∧
    mask = [some true, some true, some true]) ∧
  ∃ opposed, batch.condition coercion isTrue.not = .ok (some opposed) ∧
    opposed = [some false, some true, some true]
  := by
  intro batch coercion isTrue isNotTrue
  have hrect : batch.IsRectangular := ⟨rfl, trivial⟩
  obtain ⟨hand, hor, hnot⟩ := condition_composed hrect coercion isTrue isNotTrue
  have hleft : batch.condition coercion isTrue = .ok (some [some true, some false, some false]) :=
    rfl
  have hright :
      batch.condition coercion isNotTrue = .ok (some [some false, some true, some true]) :=
    rfl
  obtain ⟨both, hboth, _⟩ := hand.masks hleft hright
  obtain ⟨either, heither, _⟩ := hor.masks hleft hright
  obtain ⟨opposed, _, _, hopposed, _⟩ := hnot.masks hleft
  refine ⟨hrect, ⟨both, hboth, ?_⟩, ⟨either, heither, ?_⟩, opposed, hopposed, ?_⟩
  · cases hboth
    rfl
  · cases heither
    rfl
  · cases hopposed
    rfl

end Batch

end RowFilter
