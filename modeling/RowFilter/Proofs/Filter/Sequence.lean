import RowFilter.Proofs.Batch.Kept
import RowFilter.Proofs.Filter.Composition
import RowFilter.Proofs.Filter.Uniform

/-!
# Filters one after the other

What a batch answers for a row is settled by that row alone: the rows that a batch keeps are
answered for as they were in the whole batch (`Batch.condition_keep`).  So the conjunction of two
filters keeps the rows that the second one keeps of those kept by the first
(`Filter.apply_join_and`).
-/

namespace RowFilter

/-- The errors that do not depend on the values in the rows. -/
def clientErrors (error : FilterError) : Prop :=
  error.isClientError = true

/-! ### Answers for kept rows -/

/-- Whether a field has the marked rows of another one. -/
structure ColumnField.Keeps (marks : List Bool) (field other : ColumnField) : Prop where
  path_eq : field.path = other.path
  column : Column.Keeps marks field.column other.column

/-- Whether a mask has an entry for each mark, and another one its marked entries. -/
structure Mask.Keeps (marks : List Bool) (mask other : Mask) : Prop where
  length_eq : mask.length = marks.length
  eq_marked : other = Column.marked marks mask

/-- The fields and masks of which others have the marked rows. -/
def keptRows (marks : List Bool) : Correspondence ColumnField Mask ColumnField Mask where
  fields := ColumnField.Keeps marks
  predicates := Mask.Keeps marks

variable {marks : List Bool}

namespace ColumnField

/-- A computation that fails only as the data store does is followed by one that has a related
result whenever it has a result. -/
theorem follows_orFault {α β : Type} {related : α → β → Prop} {first : Except CastFault α}
    {second : Except CastFault β}
    (h : ∀ value, first = .ok value → ∃ other, second = .ok other ∧ related value other) :
  (orFault first).Follows clientErrors related (orFault second)
  := by
  cases first with
  | ok value =>
      obtain ⟨other, rfl, hrelated⟩ := h value rfl
      exact ⟨other, rfl, hrelated⟩
  | error fault => rintro ⟨⟩

variable {field other : ColumnField}

/-- The field of a name inside a field has the marked rows, unless the data store fails. -/
theorem Keeps.nested (h : Keeps marks field other) (name : String) :
  (field.nested name).Follows clientErrors
    (Option.Rel (Keeps marks)) (other.nested name)
  := by
  obtain ⟨path, column⟩ := field
  obtain ⟨_, kept⟩ := other
  obtain ⟨⟨⟩, hcolumn⟩ := h
  cases hcolumn with
  | leaf type hcells => exact ⟨none, rfl, .none⟩
  | dictionary key values hkeys => exact ⟨none, rfl, .none⟩
  | @record valid kept fields others hvalid hkept hfields =>
      have hchild := hfields.lookup name
      simp only [ColumnField.nested]
      generalize fields.lookup name = child at hchild ⊢
      generalize others.lookup name = childKept at hchild ⊢
      cases hchild with
      | none => exact ⟨none, rfl, .none⟩
      | @some child childKept hchild =>
          dsimp only
          cases hinside : child.under valid with
          | some inside =>
              obtain ⟨found, hfound, hkeeps⟩ := hchild.under hvalid hkept hinside
              rw [hfound]
              exact ⟨_, rfl, .some ⟨rfl, hkeeps.unpack⟩⟩
          | none => rintro ⟨⟩

/-- The texts of a field are followed by the marked ones, unless the data store fails. -/
theorem Keeps.texts (h : Keeps marks field other) :
  (orFault field.column.texts).Follows clientErrors
    (fun written kept => written.length = marks.length ∧ kept = Column.marked marks written)
    (orFault other.column.texts)
  := by
  apply follows_orFault
  intro written hwritten
  exact ⟨_, h.column.texts_eq hwritten, h.column.fits.length_texts hwritten, rfl⟩

/-- The field in lower case has the marked rows, unless the data store fails. -/
theorem Keeps.lower (h : Keeps marks field other) :
  field.lower.Follows clientErrors (Keeps marks) other.lower
  := by
  apply h.texts.map
  rintro written _ ⟨hlength, rfl⟩
  refine ⟨h.path_eq, ?_⟩
  rw [← Column.marked_map]
  apply Column.Keeps.leaf
  rw [List.length_map, hlength]

/-- The mask of a pattern has the marked entries, unless the data store fails. -/
theorem Keeps.like (h : Keeps marks field other) (pattern : String) (expected : Bool) :
  (field.like pattern expected).Follows clientErrors
    (Mask.Keeps marks) (other.like pattern expected)
  := by
  apply h.texts.map
  rintro written _ ⟨hlength, rfl⟩
  constructor
  · simp only [Mask.twoValued, Mask.ofBools, Mask.marks, List.length_map, hlength]
  · simp only [Mask.twoValued, Mask.ofBools, Mask.marks, Column.marked_map]

/-- The mask of a relation has the marked entries. -/
theorem Keeps.relate (h : Keeps marks field other) (relation : Relation) (literal : Literal) :
  (field.relate relation literal).Follows clientErrors
    (Mask.Keeps marks) (other.relate relation literal)
  := by
  rw [ColumnField.relate, ColumnField.relate, ← h.path_eq, h.column.relate_eq]
  cases hmask : field.column.relate field.path relation literal with
  | ok mask =>
      exact ⟨_, rfl, (Column.isDefinite_relate h.column.fits hmask).length_eq, rfl⟩
  | error error =>
      intro _
      rfl

end ColumnField

/-- Two masks joined have the marked entries of the two joined. -/
theorem Mask.Keeps.zip (op : Bool → Bool → Bool) {left right leftKept rightKept : Mask}
    (hleft : Keeps marks left leftKept) (hright : Keeps marks right rightKept) :
  (ColumnField.orFault (zip op left right)).Follows clientErrors
    (Keeps marks) (ColumnField.orFault (zip op leftKept rightKept))
  := by
  obtain ⟨hleftLength, rfl⟩ := hleft
  obtain ⟨hrightLength, rfl⟩ := hright
  rw [Mask.zip, Mask.zip, if_pos (hleftLength.trans hrightLength.symm), if_pos]
  · refine ⟨_, rfl, ?_, ?_⟩
    · rw [List.length_zipWith, hleftLength, hrightLength, Nat.min_self]
    · rw [Column.marked_zipWith _ _ _ _ hleftLength hrightLength]
  · rw [Column.length_marked hleftLength, Column.length_marked hrightLength]

/-- The mask of a membership has the marked entries, unless the data store fails. -/
theorem ColumnField.Keeps.isInOr {field other : ColumnField} (h : Keeps marks field other) :
  ∀ (literals : List Literal) {before earlier : Mask}, Mask.Keeps marks before earlier →
    (field.isInOr before literals).Follows clientErrors
      (Mask.Keeps marks) (other.isInOr earlier literals)
  | [], _, earlier, hbefore => ⟨earlier, rfl, hbefore⟩
  | literal :: rest, _, _, hbefore => by
      rw [ColumnField.isInOr, ColumnField.isInOr]
      apply (h.relate .eq literal).bind
      intro equal equalKept hequal
      apply (hbefore.zip Bool.or hequal).bind
      intro found foundKept hfound
      apply h.isInOr rest hfound

namespace Batch

variable {batch : Batch}

/-- A batch that keeps rows answers for them as the whole batch does. -/
theorem backends_keep (h : batch.IsRectangular) (hmarks : marks.length = batch.rows) :
  (keptRows marks).Backends clientErrors batch.backend
    (batch.keep marks).backend
  := by
  intro kind call other hcall
  cases hcall with
  | root name =>
      have hfit : Column.FieldsFit marks.length batch.columns := hmarks ▸ h
      have hcolumn := (Column.fieldsKeep_keepFields hfit).lookup name
      refine ⟨_, rfl, ?_⟩
      rw [field?, field?, columns_keep]
      generalize batch.columns.lookup name = column at hcolumn ⊢
      generalize (Column.keepFields marks batch.columns).lookup name = kept at hcolumn ⊢
      cases hcolumn with
      | none => apply Option.Rel.none
      | some hcolumn => apply Option.Rel.some ⟨rfl, hcolumn.unpack⟩
  | nested hfield name => apply hfield.nested
  | lower hfield => apply hfield.lower
  | compare relation hfield literal => apply hfield.relate
  | isNull hfield =>
      refine ⟨_, rfl, ?_, ?_⟩
      · rw [Mask.ofBools, List.length_map, hfield.column.fits.length_nulls]
      · rw [hfield.column.nulls_eq, Mask.ofBools, Mask.ofBools, Column.marked_map]
  | notNull hfield =>
      refine ⟨_, rfl, ?_, ?_⟩
      · rw [Mask.ofBools, List.length_map, List.length_map, hfield.column.fits.length_nulls]
      · rw [hfield.column.nulls_eq, Mask.ofBools, Mask.ofBools, Column.marked_map,
          Column.marked_map]
  | like hfield pattern => apply hfield.like
  | notLike hfield pattern => apply hfield.like
  | isIn hfield literals =>
      apply hfield.isInOr
      constructor
      · rw [Mask.ofBools, List.length_map, List.length_replicate, hfield.column.fits.rows_eq]
      · rw [hfield.column.fits.rows_eq, hfield.column.rows_eq, Mask.ofBools, Mask.ofBools,
          Column.marked_map, Column.marked_replicate]
  | not hmask =>
      obtain ⟨hlength, rfl⟩ := hmask
      refine ⟨_, rfl, ?_, ?_⟩
      · rw [Mask.not, List.length_map, hlength]
      · rw [Mask.not, Mask.not, Column.marked_map]
  | join op hleft hright => cases op <;> apply hleft.zip _ hright

/-- What an expression stands for on a batch has the marked entries on the batch that keeps the
marked rows. -/
theorem condition_keep (h : batch.IsRectangular) (hmarks : marks.length = batch.rows)
    (coercion : Coercion) (expr : FilterExpr) :
  (batch.condition coercion expr).Follows clientErrors (Option.Rel (Mask.Keeps marks))
    ((batch.keep marks).condition coercion expr)
  := by
  have hagree : Compiler.Agree (keptRows marks) ⟨ColumnField.type, coercion⟩
      ⟨ColumnField.type, coercion⟩ := by
    constructor
    · rfl
    · intro field other hfield
      apply hfield.column.type_eq
  apply (hagree.plans_compile expr).run (backends_keep h hmarks)

/-- A rectangular batch stays so when it keeps rows. -/
theorem IsRectangular.keep (h : batch.IsRectangular) (hmarks : marks.length = batch.rows) :
  (batch.keep marks).IsRectangular
  := by
  rw [IsRectangular, columns_keep]
  apply Column.fieldsFit_keepFields
  rw [hmarks]
  apply h

/-- What a batch keeps of its kept rows are the rows that are marked in both ways. -/
theorem keep_keep (batch : Batch) (marks others : List Bool) :
  (batch.keep marks).keep (Column.marked marks others)
    = batch.keep (List.zipWith Bool.and marks others)
  := by
  have hcolumns : ((batch.keep marks).keep (Column.marked marks others)).columns
      = (batch.keep (List.zipWith Bool.and marks others)).columns := by
    rw [columns_keep, columns_keep, columns_keep, Column.keepFields_keepFields]
  rw [Batch.keep, Column.count_marked]
  apply congrArg (Batch.mk _) hcolumns

/-! ### Conjunctions -/

/-- The rows of a batch that pass a condition: those that are true in its mask, or all of them if it
is none. -/
def passing (batch : Batch) : Option Mask → Batch
  | none => batch
  | some mask => batch.keep mask.marks

/-- The rows that pass what an expression stands for are rectangular. -/
theorem IsRectangular.passing (h : batch.IsRectangular) {coercion : Coercion} {expr : FilterExpr}
    {found : Option Mask} (hfound : batch.condition coercion expr = .ok found) :
  (batch.passing found).IsRectangular
  := by
  cases found with
  | none => apply h
  | some mask =>
      apply h.keep
      rw [condition_eq_ok_some h hfound, Mask.marks_ofRows, List.length_map, List.length_range]

/-- The rows that are true in two masks joined are those that are true in both. -/
theorem marks_ofRows_and (left right : Nat → Bool) (rows : Nat) :
  (Mask.ofRows rows fun row => left row && right row).marks
    = List.zipWith Bool.and (Mask.ofRows rows left).marks (Mask.ofRows rows right).marks
  := by
  rw [Mask.marks_ofRows, Mask.marks_ofRows, Mask.marks_ofRows, List.zipWith_map,
    List.zipWith_self]

/-- The rows that pass the conjunction of two expressions are those that pass the second one among
those that pass the first. -/
theorem passing_join_and (h : batch.IsRectangular) {coercion : Coercion} {left right : FilterExpr}
    {found : Option Mask} (hboth : batch.condition coercion (left.join .and right) = .ok found) :
  ∃ first second, batch.condition coercion left = .ok first ∧
    (batch.passing first).condition coercion right = .ok second ∧
    (batch.passing first).passing second = batch.passing found
  := by
  have hjoin := @isJoin_join batch coercion h .and left right
  obtain ⟨⟨first, hfirst⟩, second, hsecond⟩ := hjoin.ok_of_ok hboth
  cases first with
  | none =>
      rw [hjoin.left_none hfirst] at hboth
      exact ⟨none, found, hfirst, hboth, rfl⟩
  | some mask =>
      have hmarks : mask.marks.length = batch.rows := by
        rw [condition_eq_ok_some h hfirst, Mask.marks_ofRows, List.length_map, List.length_range]
      -- The second condition is on the kept rows what it is on all rows, with the marked entries.
      have hfollows := condition_keep h hmarks coercion right
      rw [hsecond] at hfollows
      obtain ⟨after, hafter, hkeeps⟩ := hfollows
      refine ⟨some mask, after, hfirst, hafter, ?_⟩
      cases hkeeps with
      | none =>
          rw [hjoin.right_none hsecond, hfirst] at hboth
          cases hboth
          rfl
      | some hkeeps =>
          obtain ⟨a, b, rfl, rfl, hjoined⟩ := condition_join_masks h .and hfirst hsecond
          obtain ⟨_, rfl⟩ := hkeeps
          cases hjoined.symm.trans hboth
          have hmarked (marks : List Bool) (mask : Mask) :
              Mask.marks (Column.marked marks mask) = Column.marked marks mask.marks :=
            (Column.marked_map _ _ _).symm
          rw [passing, passing, passing, hmarked, keep_keep]
          exact congrArg batch.keep (marks_ofRows_and a b batch.rows).symm

end Batch

/-! ### Filters -/

namespace Filter

variable {filter : Filter} {otherwise : FilterConfig} {batch : Batch}

/-- A filter that is a condition on a rectangular batch keeps the rows that pass it. -/
theorem apply_eq_passing (h : batch.IsRectangular) {found : Option Mask}
    (hfound : filter.mask otherwise batch = .ok found) :
  filter.apply otherwise batch = .ok (batch.passing found)
  := by
  rw [apply, hfound]
  cases found with
  | none => rfl
  | some mask =>
      apply if_pos
      rw [Batch.condition_eq_ok_some h hfound]
      apply (Mask.isDefinite_ofRows _).length_eq

/-- If the conjunction of two filters, which are compiled in the same way, keeps some rows of a
batch, then the first filter keeps rows of which the second one keeps exactly those. -/
theorem apply_join_and (h : batch.IsRectangular) {first second : Filter} {kept : Batch}
    (hconverter : second.converter = first.converter)
    (hconfig : second.config otherwise = first.config otherwise)
    (hkept : (first.join .and second).apply otherwise batch = .ok kept) :
  ∃ between, first.apply otherwise batch = .ok between ∧
    second.apply otherwise between = .ok kept
  := by
  have hsecond (rows : Batch) : second.mask otherwise rows
      = rows.condition (first.coercion (first.config otherwise)) second.expr := by
    rw [← show second.coercion (second.config otherwise) = first.coercion (first.config otherwise)
      by rw [coercion, coercion, hconverter, hconfig]]
    rfl
  rw [apply] at hkept
  obtain ⟨found, hfound, _⟩ := Except.bind_eq_ok_iff.mp hkept
  obtain ⟨left, right, hleft, hright, hpassing⟩ := Batch.passing_join_and h hfound
  refine ⟨batch.passing left, apply_eq_passing h hleft, ?_⟩
  rw [apply_eq_passing (h.passing hleft) ((hsecond _).trans hright), hpassing,
    ← apply_eq_passing h hfound]
  apply hkept

/-- Two of three rows are kept for a field of a record that is null in the third, and one of these
for a field that is null. -/
theorem apply_join_and_nulls :
  let isTrue : Option Cell := some (.bool true)
  let batch : Batch := ⟨3,
    [("a", .leaf .boolean [isTrue, none, none]),
     ("s", .record (some [true, true, false]) [("b", .leaf .boolean [isTrue, isTrue, isTrue])] 3)]⟩
  let kept : Batch := ⟨1,
    [("a", .leaf .boolean [none]), ("s", .record (some [true]) [("b", .leaf .boolean [isTrue])] 1)]⟩
  let first := Filter.ofExpr (.comparison "s.b" (.relation .eq) (.scalar (.bool true)))
  let second := Filter.ofExpr (.comparison "a" (.relation .eq) (.scalar .null))
  batch.IsRectangular ∧
  (first.join .and second).apply ⟨true⟩ batch = .ok kept ∧
  ∃ between, first.apply ⟨true⟩ batch = .ok between ∧ between.rows = 2 ∧
    second.apply ⟨true⟩ between = .ok kept
  := by
  intro isTrue batch kept first second
  have hrect : batch.IsRectangular := by
    refine ⟨rfl, ⟨rfl, ?_, rfl, trivial⟩, trivial⟩
    rintro flags ⟨⟩
    rfl
  have hkept : (first.join .and second).apply ⟨true⟩ batch = .ok kept := rfl
  have hconverter : second.converter = first.converter := rfl
  obtain ⟨between, hbetween, hafter⟩ := apply_join_and hrect hconverter rfl hkept
  refine ⟨hrect, hkept, between, hbetween, ?_, hafter⟩
  cases hbetween
  rfl

end Filter

end RowFilter
