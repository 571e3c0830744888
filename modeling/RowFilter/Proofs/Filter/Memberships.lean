import RowFilter.Proofs.Filter.Outcomes

/-!
# Memberships

A membership among operands that are not null is the disjunction of the equalities with them, or its
opposite: it does not fail if and only if its path leads to a field and none of the equalities
fails, and then its mask joins theirs row by row (`Batch.condition_membership`).
-/

namespace RowFilter

/-- A literal that is not refused is one that was read. -/
theorem Converter.eq_of_orRefuse {α : Type} {text complaint : String} {make : α → Literal}
    {found : Option α} {literal : Literal}
    (h : orRefuse text complaint (found.map make) = .ok literal) :
  ∃ entry, literal = make entry
  := by
  cases found with
  | none => cases h
  | some entry =>
      cases h
      exact ⟨entry, rfl⟩

/-- No text is converted to null. -/
theorem Converter.isNull_standard {dates : DateFormats} {text : String} {type : DataType}
    {literal : Literal} (h : standard dates text type = .ok literal) :
  literal.isNull = false
  := by
  have hread {α : Type} {complaint : String} {make : α → Literal} {found : Option α}
      (hmake : ∀ entry, (make entry).isNull = false)
      (hread : orRefuse text complaint (found.map make) = .ok literal) :
      literal.isNull = false := by
    obtain ⟨entry, rfl⟩ := eq_of_orRefuse hread
    apply hmake
  induction type using standard.induct with
  | case1 layout =>
      cases h
      rfl
  | case2 key value ih =>
      rw [standard] at h
      apply ih h
  | _ => rw [standard] at h <;> first | assumption | exact hread (fun _ => rfl) h | cases h

namespace Coercion

theorem isNull_fold (coercion : Coercion) (type : DataType) (literal : Literal) :
  (coercion.fold type literal).isNull = literal.isNull
  := by
  cases literal with
  | text s =>
      rw [fold]
      split <;> rfl
  | _ => rfl

/-- If no text is converted to null, no operand but null becomes null. -/
theorem isNull_literal {coercion : Coercion} {type : DataType}
    (hconverter : ∀ text converted, coercion.converter text type = .ok converted →
      converted.isNull = false)
    {value : Scalar} (hvalue : value ≠ .null) {literal : Literal}
    (h : coercion.literal type value = .ok literal) :
  literal.isNull = false
  := by
  cases value with
  | null => contradiction
  | bool b =>
      cases h
      rfl
  | number n =>
      cases h
      cases n with
      | integer n =>
          rw [numberLiteral]
          split <;> rfl
      | floating x => rfl
  | text s =>
      rw [Coercion.literal] at h
      split at h
      · next converted hconverted =>
          cases h
          rw [isNull_fold]
          exact hconverter s converted hconverted
      · cases h

end Coercion

namespace Batch

variable {batch : Batch} {coercion : Coercion} {path : String} {field compared : ColumnField}
  {rows : Nat} {values : List Scalar}

/-- A membership does not fail if and only if none of the equalities with its operands does, if
these do not become null. -/
theorem failure?_membership_iff_equalities (hleads : batch.Leads (Path.segments path) field)
    (hcompared : (Compiler.folded ⟨ColumnField.type, coercion⟩ field).run batch.backend
      = .ok compared)
    (hfits : compared.column.Fits rows)
    (hnull : ∀ value ∈ values, ∀ literal, coercion.literal field.type value = .ok literal →
      literal.isNull = false) (kind : Membership) :
  batch.failure? coercion ⟨path, .membership kind, .list values⟩ = none
    ↔ ∀ value ∈ values, batch.failure? coercion ⟨path, .relation .eq, .scalar value⟩ = none
  := by
  rw [failure?_membership_iff hleads hcompared hfits]
  constructor
  · rintro ⟨literals, hliterals, hall⟩ value hmem
    obtain ⟨_, hsame, -, htarget⟩ | ⟨_, _, _, -, herror⟩ :=
      coercion.literals_cases field.type values
    · cases hliterals.symm.trans hsame
      obtain ⟨literal, hliteral, hvalue⟩ := htarget value hmem
      rw [failure?_equality_iff hleads hcompared hvalue (hnull value hmem literal hvalue)]
      apply hall literal hliteral
    · cases hliterals.symm.trans herror
  · intro hall
    -- An equality that does not fail makes a literal of its operand.
    have hequality : ∀ value ∈ values, ∃ literal, coercion.literal field.type value = .ok literal ∧
        ∃ mask, compared.relate .eq literal = .ok mask := by
      intro value hmem
      obtain ⟨mask, hmask⟩ := failure?_comparison_iff.mp (hall value hmem)
      obtain ⟨literal, hliteral, -⟩ :=
        (Compiler.run_scalar_eq_ok_iff hleads hcompared rfl).mp hmask
      refine ⟨literal, hliteral, ?_⟩
      rw [← failure?_equality_iff hleads hcompared hliteral (hnull value hmem literal hliteral)]
      apply hall value hmem
    obtain ⟨literals, hliterals, hsource, -⟩ | ⟨value, hmem, _, herror, -⟩ :=
      coercion.literals_cases field.type values
    · refine ⟨literals, hliterals, ?_⟩
      intro literal hliteral
      obtain ⟨value, hmem, hvalue⟩ := hsource literal hliteral
      obtain ⟨_, hsame, hrelate⟩ := hequality value hmem
      cases hvalue.symm.trans hsame
      exact hrelate
    · obtain ⟨_, hliteral, -⟩ := hequality value hmem
      cases herror.symm.trans hliteral

/-- The verdict of a membership that does not fail is whether one of the equalities with its
operands is true, or none is, if these do not become null. -/
theorem verdict_membership_eq (hleads : batch.Leads (Path.segments path) field)
    (hcompared : (Compiler.folded ⟨ColumnField.type, coercion⟩ field).run batch.backend
      = .ok compared)
    (hfits : compared.column.Fits rows)
    (hnull : ∀ value ∈ values, ∀ literal, coercion.literal field.type value = .ok literal →
      literal.isNull = false) {kind : Membership}
    (hok : batch.failure? coercion ⟨path, .membership kind, .list values⟩ = none) {row : Nat}
    (hrow : row < rows) :
  batch.verdict coercion row ⟨path, .membership kind, .list values⟩
    = kind.holds (values.any fun value =>
        batch.verdict coercion row ⟨path, .relation .eq, .scalar value⟩)
  := by
  obtain ⟨literals, hliterals, hsource, htarget⟩ | ⟨_, _, _, -, herror⟩ :=
    coercion.literals_cases field.type values
  · rw [verdict_membership hleads hcompared hfits hliterals hok hrow]
    congr 1
    rw [Bool.eq_iff_iff, List.any_eq_true, List.any_eq_true]
    constructor
    · rintro ⟨literal, hliteral, hequals⟩
      obtain ⟨value, hmem, hvalue⟩ := hsource literal hliteral
      refine ⟨value, hmem, ?_⟩
      rw [verdict_equality hleads hcompared hvalue (hnull value hmem literal hvalue)]
      exact hequals
    · rintro ⟨value, hmem, hverdict⟩
      obtain ⟨literal, hliteral, hvalue⟩ := htarget value hmem
      refine ⟨literal, hliteral, ?_⟩
      rw [← verdict_equality hleads hcompared hvalue (hnull value hmem literal hvalue)]
      exact hverdict
  · obtain ⟨_, hliterals, -⟩ := (failure?_membership_iff hleads hcompared hfits).mp hok
    cases hliterals.symm.trans herror

/-! ### The standard converter -/

variable {dates : DateFormats} {counts : Bool}

/-- The field that is compared in place of one that a path leads to fits the rows of the batch. -/
theorem exists_compared (h : batch.IsRectangular) (hleads : batch.Leads (Path.segments path) field)
    (coercion : Coercion) :
  ∃ compared, (Compiler.folded ⟨ColumnField.type, coercion⟩ field).run batch.backend
      = .ok compared ∧ compared.column.Fits batch.rows
  := by
  obtain ⟨compared, hcompared, -⟩ := Compiler.run_folded coercion field
  have hfits := Path.fits_resolve h (Path.resolve_eq_ok_iff.mpr hleads)
  exact ⟨compared, hcompared, Compiler.fits_folded hfits hcompared⟩

theorem isNull_of_mem (hvalues : .null ∉ values) {type : DataType} {value : Scalar}
    (hmem : value ∈ values) {literal : Literal}
    (hliteral : Coercion.literal ⟨Converter.standard dates, counts⟩ type value = .ok literal) :
  literal.isNull = false
  := by
  apply Coercion.isNull_literal (fun _ _ => Converter.isNull_standard) _ hliteral
  rintro rfl
  contradiction

/-- A membership among operands that are not null does not fail if and only if its path leads to a
field and none of the equalities fails. -/
theorem failure?_membership_standard_iff (h : batch.IsRectangular) (hvalues : .null ∉ values)
    (kind : Membership) :
  batch.failure? ⟨Converter.standard dates, counts⟩ ⟨path, .membership kind, .list values⟩ = none
    ↔ (∃ field, batch.Leads (Path.segments path) field) ∧
      ∀ value ∈ values, batch.failure? ⟨Converter.standard dates, counts⟩
        ⟨path, .relation .eq, .scalar value⟩ = none
  := by
  have hequalities {field : ColumnField} (hleads : batch.Leads (Path.segments path) field) :=
    let ⟨_, hcompared, hfits⟩ := exists_compared h hleads ⟨Converter.standard dates, counts⟩
    failure?_membership_iff_equalities hleads hcompared hfits
      (fun _ hmem _ => isNull_of_mem hvalues hmem) kind
  constructor
  · intro hok
    obtain ⟨field, hleads⟩ := leads_of_failure? hok
    exact ⟨⟨field, hleads⟩, (hequalities hleads).mp hok⟩
  · rintro ⟨⟨field, hleads⟩, hall⟩
    apply (hequalities hleads).mpr hall

/-- The mask of such a membership joins those of the equalities. -/
theorem condition_membership_eq (h : batch.IsRectangular) (hvalues : .null ∉ values)
    {kind : Membership}
    (hok : batch.failure? ⟨Converter.standard dates, counts⟩ ⟨path, .membership kind, .list values⟩
      = none) :
  batch.condition ⟨Converter.standard dates, counts⟩
      (Comparison.expr ⟨path, .membership kind, .list values⟩)
    = .ok (some (Mask.ofRows batch.rows fun row =>
        kind.holds (values.any fun value => batch.verdict ⟨Converter.standard dates, counts⟩ row
          ⟨path, .relation .eq, .scalar value⟩)))
  := by
  obtain ⟨field, hleads⟩ := leads_of_failure? hok
  obtain ⟨compared, hcompared, hfits⟩ := exists_compared h hleads ⟨Converter.standard dates, counts⟩
  apply (condition_of_failure? h hok).trans
  congr 2
  apply Mask.ofRows_congr
  intro row hrow
  apply verdict_membership_eq hleads hcompared hfits (fun _ hmem _ => isNull_of_mem hvalues hmem)
    hok hrow

/-- Fewer operands do not fail if more do not. -/
theorem failure?_membership_of_subset (h : batch.IsRectangular) (hvalues : .null ∉ values)
    {others : List Scalar} (hothers : others ⊆ values) {kind : Membership}
    (hok : batch.failure? ⟨Converter.standard dates, counts⟩ ⟨path, .membership kind, .list values⟩
      = none) (other : Membership) :
  batch.failure? ⟨Converter.standard dates, counts⟩ ⟨path, .membership other, .list others⟩ = none
  := by
  obtain ⟨hleads, hall⟩ := (failure?_membership_standard_iff h hvalues kind).mp hok
  have hnull : .null ∉ others := fun hmem => hvalues (hothers hmem)
  apply (failure?_membership_standard_iff h hnull other).mpr ⟨hleads, _⟩
  intro value hmem
  apply hall value (hothers hmem)

/-- More operands find the rows that fewer do. -/
theorem verdict_anyOf_of_subset (h : batch.IsRectangular) (hvalues : .null ∉ values)
    {others : List Scalar} (hothers : others ⊆ values)
    (hok : batch.failure? ⟨Converter.standard dates, counts⟩
      ⟨path, .membership .anyOf, .list values⟩ = none) {row : Nat}
    (hverdict : batch.verdict ⟨Converter.standard dates, counts⟩ row
      ⟨path, .membership .anyOf, .list others⟩ = true) :
  batch.verdict ⟨Converter.standard dates, counts⟩ row ⟨path, .membership .anyOf, .list values⟩
    = true
  := by
  have hnull : .null ∉ others := fun hmem => hvalues (hothers hmem)
  have hfewer := failure?_membership_of_subset h hvalues hothers hok .anyOf
  rw [verdict_of_condition (condition_membership_eq h hnull hfewer)] at hverdict
  rw [verdict_of_condition (condition_membership_eq h hvalues hok)]
  obtain ⟨hrow, hany⟩ := hverdict
  obtain ⟨value, hmem, hfound⟩ := List.any_eq_true.mp hany
  exact ⟨hrow, List.any_eq_true.mpr ⟨value, hothers hmem, hfound⟩⟩

/-- With the standard converter, a membership among operands that are not null does not fail if and
only if its path leads to a field and none of the equalities with the operands fails.  Its mask is
then their disjunction row by row, or the opposite of that, also in the rows where the field is
null.  So it does not depend on the order of the operands or on how often one is given, and more
operands find more rows. -/
theorem condition_membership (h : batch.IsRectangular) (dates : DateFormats) (counts : Bool)
    (path : String) (values : List Scalar) (hvalues : .null ∉ values) (kind : Membership) :
  let coercion : Coercion := ⟨Converter.standard dates, counts⟩
  let equality (value : Scalar) : Comparison := ⟨path, .relation .eq, .scalar value⟩
  let membership (kind : Membership) (values : List Scalar) : Comparison :=
    ⟨path, .membership kind, .list values⟩
  (batch.failure? coercion (membership kind values) = none ↔
    (∃ field, batch.Leads (Path.segments path) field) ∧
    ∀ value ∈ values, batch.failure? coercion (equality value) = none) ∧
  (batch.failure? coercion (membership kind values) = none →
    (∀ value ∈ values, batch.condition coercion (equality value).expr
      = .ok (some (Mask.ofRows batch.rows fun row =>
          batch.verdict coercion row (equality value)))) ∧
    batch.condition coercion (membership kind values).expr
      = .ok (some (Mask.ofRows batch.rows fun row =>
          kind.holds (values.any fun value => batch.verdict coercion row (equality value)))) ∧
    (∀ others, (∀ value, value ∈ others ↔ value ∈ values) →
      batch.condition coercion (membership kind others).expr
        = batch.condition coercion (membership kind values).expr) ∧
    ∀ others ⊆ values,
      batch.failure? coercion (membership kind others) = none ∧
      ∀ row, batch.verdict coercion row (membership .anyOf others) = true →
        batch.verdict coercion row (membership .anyOf values) = true)
  := by
  intro coercion equality membership
  refine ⟨failure?_membership_standard_iff h hvalues kind, ?_⟩
  intro hok
  refine ⟨?equalities, condition_membership_eq h hvalues hok, ?same, ?more⟩
  case equalities =>
    obtain ⟨-, hall⟩ := (failure?_membership_standard_iff h hvalues kind).mp hok
    intro value hmem
    apply condition_of_failure? h (hall value hmem)
  case same =>
    intro others hmem
    have hothers : .null ∉ others := by rwa [hmem]
    have hok' := failure?_membership_of_subset h hvalues (fun value => (hmem value).mp) hok kind
    apply (condition_membership_eq h hothers hok').trans
    apply Eq.trans _ (condition_membership_eq h hvalues hok).symm
    congr 2
    apply Mask.ofRows_congr
    intro row _
    congr 1
    rw [Bool.eq_iff_iff, List.any_eq_true, List.any_eq_true]
    simp only [hmem]
  case more =>
    intro others hothers
    refine ⟨failure?_membership_of_subset h hvalues hothers hok kind, ?_⟩
    intro row
    apply verdict_anyOf_of_subset h hvalues hothers
    apply failure?_membership_of_subset h hvalues (List.Subset.refl values) hok

/-- Integers among operands of several kinds, of which one is given twice. -/
theorem condition_membership_mixed :
  let batch : Batch := ⟨4, [("n", .leaf (.int .w32)
    [some (.int 1), some (.int 2), some (.int 3), none])]⟩
  let coercion : Coercion := ⟨Converter.standard DateFormats.default, true⟩
  let values : List Scalar := [.text "2", .bool true, .number (.integer 1)]
  let condition (kind : Membership) (values : List Scalar) : Except FilterError (Option Mask) :=
    batch.condition coercion (Comparison.expr ⟨"n", .membership kind, .list values⟩)
  batch.IsRectangular ∧ .null ∉ values ∧
  condition .anyOf values = .ok (some [some true, some true, some false, some false]) ∧
  condition .noneOf values = .ok (some [some false, some false, some true, some true]) ∧
  condition .noneOf [.bool true, .number (.integer 1), .text "2", .bool true]
    = .ok (some [some false, some false, some true, some true]) ∧
  batch.failure? coercion ⟨"n", .membership .anyOf, .list [.text "2"]⟩ = none
  := by
  intro batch coercion values condition
  have hrect : batch.IsRectangular := ⟨rfl, trivial⟩
  have hvalues : .null ∉ values := by decide
  have hequalities : ∀ value ∈ values,
      batch.failure? coercion ⟨"n", .relation .eq, .scalar value⟩ = none := by
    simp only [values, List.forall_mem_cons]
    exact ⟨rfl, rfl, rfl, nofun⟩
  have hmembership := condition_membership hrect DateFormats.default true "n" values hvalues
  have hok (kind : Membership) := (hmembership kind).1.mpr ⟨⟨_, _, rfl, rfl⟩, hequalities⟩
  have hmask (kind : Membership) := ((hmembership kind).2 (hok kind)).2.1
  have hnone : condition .noneOf values
      = .ok (some [some false, some false, some true, some true]) :=
    (hmask .noneOf).trans (by rfl)
  refine ⟨hrect, hvalues, (hmask .anyOf).trans (by rfl), hnone, ?_, ?_⟩
  · refine (((hmembership .noneOf).2 (hok .noneOf)).2.2.1 _ ?_).trans hnone
    intro value
    simp only [values, List.mem_cons, List.not_mem_nil, or_false]
    grind
  · apply (((hmembership .anyOf).2 (hok .anyOf)).2.2.2 _ _).1
    intro value hmem
    obtain rfl := List.mem_singleton.mp hmem
    exact List.mem_cons_self

end Batch

end RowFilter
