import RowFilter.Proofs.Filter.Comparisons

/-!
# Flat expressions

An expression is flat when no group in it has a child that is a group of the same connective
(`FilterExpr.IsFlat`).  `FilterExpr.parts` are the conditions that an expression brings into a group
of a connective.  Joining two expressions makes a group of the parts of both where the first one
absorbs the second (`FilterExpr.Absorbs`), and a group within a group otherwise; so it is there that
flat expressions stay flat, and that three expressions may be joined in either order
(`FilterExpr.composition_flattens`).
-/

namespace RowFilter

namespace FilterExpr

/-- The connective of a group, nothing for any other expression. -/
def connective? : FilterExpr → Option Connective
  | .group op _ => some op
  | _ => none

mutual

/-- Whether no group in the expression has a child that is a group of the same connective. -/
def IsFlat : FilterExpr → Prop
  | .empty => True
  | .comparison _ _ _ => True
  | .group op children => AllFlatUnder op children
  | .negation child => child.IsFlat

/-- Whether all expressions of a list are flat and none is a group of a connective. -/
def AllFlatUnder (op : Connective) : List FilterExpr → Prop
  | [] => True
  | child :: rest => (child.connective? ≠ some op ∧ child.IsFlat) ∧ AllFlatUnder op rest

end

/-- The conditions that an expression brings into a group of a connective. -/
def parts (op : Connective) : FilterExpr → List FilterExpr
  | .empty => []
  | .group p children => if p = op then children else [.group p children]
  | expr => [expr]

/-- Whether joining two expressions leaves no group of the connective within another one: the first
is empty or such a group itself, or the second is no such group. -/
def Absorbs (op : Connective) (left right : FilterExpr) : Prop :=
  left = .empty ∨ left.connective? = some op ∨ right.connective? ≠ some op

variable {op : Connective} {left middle right expr : FilterExpr}

theorem connective?_eq_some_iff :
  expr.connective? = some op ↔ ∃ children, expr = .group op children
  := by
  cases expr <;> simp [connective?]

/-! ### Parts -/

theorem parts_group (op : Connective) (children : List FilterExpr) :
  parts op (.group op children) = children
  := by
  rw [parts, if_pos rfl]

theorem parts_of_ne (hempty : expr ≠ .empty) (h : expr.connective? ≠ some op) :
  parts op expr = [expr]
  := by
  cases expr with
  | empty => exact absurd rfl hempty
  | comparison path operator operand => rfl
  | group p children =>
      rw [parts, if_neg]
      rintro rfl
      exact h rfl
  | negation child => rfl

/-- A list does not have itself, grouped, for its only member. -/
theorem ne_singleton_group (children : List FilterExpr) :
  children ≠ [.group op children]
  := by
  intro h
  have hsize := congrArg sizeOf h
  simp only [List.cons.sizeOf_spec, List.nil.sizeOf_spec, group.sizeOf_spec] at hsize
  omega

/-- A condition is its own only part if and only if it is no group of the connective. -/
theorem parts_eq_singleton_iff (hempty : expr ≠ .empty) :
  parts op expr = [expr] ↔ expr.connective? ≠ some op
  := by
  constructor
  · intro hparts hgroup
    obtain ⟨children, rfl⟩ := connective?_eq_some_iff.mp hgroup
    rw [parts_group] at hparts
    exact ne_singleton_group children hparts
  · intro h
    exact parts_of_ne hempty h

/-- The only condition without parts is the group of nothing. -/
theorem parts_eq_nil_iff (hempty : expr ≠ .empty) :
  parts op expr = [] ↔ expr = .group op []
  := by
  by_cases hgroup : expr.connective? = some op
  · obtain ⟨children, rfl⟩ := connective?_eq_some_iff.mp hgroup
    rw [parts_group, group.injEq, and_iff_right rfl]
  · rw [parts_of_ne hempty hgroup]
    refine iff_of_false (List.cons_ne_nil _ _) ?_
    rintro rfl
    exact hgroup rfl

theorem allFlatUnder_append {first second : List FilterExpr} (hfirst : AllFlatUnder op first)
    (hsecond : AllFlatUnder op second) :
  AllFlatUnder op (first ++ second)
  := by
  induction first with
  | nil => exact hsecond
  | cons child rest ih =>
      obtain ⟨hchild, hrest⟩ := hfirst
      exact ⟨hchild, ih hrest⟩

/-- The parts of a flat expression are flat, and none is a group of the connective. -/
theorem IsFlat.allFlatUnder_parts (h : expr.IsFlat) :
  AllFlatUnder op (parts op expr)
  := by
  by_cases hempty : expr = .empty
  · subst hempty
    trivial
  · by_cases hgroup : expr.connective? = some op
    · obtain ⟨children, rfl⟩ := connective?_eq_some_iff.mp hgroup
      rw [parts_group]
      exact h
    · rw [parts_of_ne hempty hgroup]
      exact ⟨⟨hgroup, h⟩, trivial⟩

/-! ### Joining -/

theorem empty_join (op : Connective) (expr : FilterExpr) :
  FilterExpr.empty.join op expr = expr
  := rfl

theorem join_empty (op : Connective) (expr : FilterExpr) :
  expr.join op .empty = expr
  := by
  cases expr <;> rfl

/-- A group of the connective takes in the parts of what it is joined with. -/
theorem group_join (children : List FilterExpr) (hright : right ≠ .empty) :
  (group op children).join op right = .group op (children ++ parts op right)
  := by
  have hjoins := joins_join op (.group op children) right
  generalize join op (.group op children) right = joined at hjoins
  cases hjoins with
  | right_empty => exact absurd rfl hright
  | merged _ others => rw [parts_group]
  | added _ _ hgroup =>
      rw [parts_of_ne hright]
      rw [Ne, connective?_eq_some_iff, not_exists]
      exact hgroup
  | paired _ _ hgroup => exact absurd rfl (hgroup children)

/-- Any other condition makes a group of two with what it is joined with, be this a group of the
connective or not. -/
theorem join_of_ne (hleft : left ≠ .empty) (hright : right ≠ .empty)
    (h : left.connective? ≠ some op) :
  left.join op right = .group op [left, right]
  := by
  have hjoins := joins_join op left right
  generalize left.join op right = joined at hjoins
  cases hjoins with
  | left_empty => exact absurd rfl hleft
  | right_empty => exact absurd rfl hright
  | merged _ _ => exact absurd rfl h
  | added _ _ _ => exact absurd rfl h
  | paired _ _ _ => rfl

/-- Flat expressions are joined to a flat one if and only if the first absorbs the second. -/
theorem isFlat_join_iff (hleft : left.IsFlat) (hright : right.IsFlat) :
  (left.join op right).IsFlat ↔ Absorbs op left right
  := by
  by_cases hleftEmpty : left = .empty
  · subst hleftEmpty
    exact iff_of_true hright (Or.inl rfl)
  by_cases hrightEmpty : right = .empty
  · subst hrightEmpty
    rw [join_empty]
    exact iff_of_true hleft (Or.inr (Or.inr (by rintro ⟨⟩)))
  by_cases hgroup : left.connective? = some op
  · refine iff_of_true ?_ (Or.inr (Or.inl hgroup))
    obtain ⟨children, rfl⟩ := connective?_eq_some_iff.mp hgroup
    rw [group_join children hrightEmpty]
    exact allFlatUnder_append hleft hright.allFlatUnder_parts
  · rw [join_of_ne hleftEmpty hrightEmpty hgroup, Absorbs, or_iff_right hleftEmpty,
      or_iff_right hgroup]
    constructor
    · rintro ⟨_, ⟨hother, _⟩, _⟩
      exact hother
    · intro hother
      exact ⟨⟨hgroup, hleft⟩, ⟨hother, hright⟩, trivial⟩

/-! ### Joining three -/

/-- After a group of the connective, two conditions may be joined first if and only if the first of
them absorbs the second. -/
theorem group_join_assoc_iff (children : List FilterExpr) (hmiddle : middle ≠ .empty)
    (hright : right ≠ .empty) :
  ((group op children).join op middle).join op right
      = (group op children).join op (middle.join op right) ↔
    Absorbs op middle right
  := by
  rw [group_join children hmiddle, group_join _ hright]
  by_cases hgroup : middle.connective? = some op
  · refine iff_of_true ?_ (Or.inr (Or.inl hgroup))
    obtain ⟨others, rfl⟩ := connective?_eq_some_iff.mp hgroup
    rw [group_join others hright, group_join children (by rintro ⟨⟩), parts_group, parts_group,
      List.append_assoc]
  · rw [join_of_ne hmiddle hright hgroup, group_join children (by rintro ⟨⟩), parts_group,
      parts_of_ne hmiddle hgroup, List.append_assoc, group.injEq, and_iff_right rfl,
      List.append_cancel_left_eq, List.singleton_append, List.cons_inj_right,
      parts_eq_singleton_iff hright, Absorbs, or_iff_right hmiddle, or_iff_right hgroup]

/-- After any other condition, two conditions may be joined first if and only if they are groups of
the connective, the second one of nothing. -/
theorem join_assoc_iff_of_ne (hleft : left ≠ .empty) (h : left.connective? ≠ some op)
    (hmiddle : middle ≠ .empty) (hright : right ≠ .empty) :
  (left.join op middle).join op right = left.join op (middle.join op right) ↔
    middle.connective? = some op ∧ right = .group op []
  := by
  rw [join_of_ne hleft hmiddle h, group_join _ hright]
  by_cases hgroup : middle.connective? = some op
  · rw [and_iff_right hgroup, ← parts_eq_nil_iff hright]
    obtain ⟨others, rfl⟩ := connective?_eq_some_iff.mp hgroup
    rw [group_join others hright, join_of_ne hleft (by rintro ⟨⟩) h]
    simp
  · refine iff_of_false ?_ (fun hboth => hgroup hboth.1)
    rw [join_of_ne hmiddle hright hgroup, join_of_ne hleft (by rintro ⟨⟩) h, group.injEq,
      and_iff_right rfl, List.cons_append, List.cons_inj_right, List.singleton_append,
      List.cons.injEq]
    rintro ⟨hself, _⟩
    rw [hself] at hgroup
    exact hgroup rfl

/-- Three expressions are joined in either order to the same one if and only if one of them is
empty, or the first is a group of the connective and the second absorbs the third, or the second is
such a group and the third is such a group of nothing. -/
theorem join_assoc_iff :
  (left.join op middle).join op right = left.join op (middle.join op right) ↔
    left = .empty ∨ middle = .empty ∨ right = .empty ∨
      left.connective? = some op ∧ Absorbs op middle right ∨
      middle.connective? = some op ∧ right = .group op []
  := by
  by_cases hleft : left = .empty
  · subst hleft
    exact iff_of_true rfl (Or.inl rfl)
  by_cases hmiddle : middle = .empty
  · subst hmiddle
    rw [join_empty]
    exact iff_of_true rfl (Or.inr (Or.inl rfl))
  by_cases hright : right = .empty
  · subst hright
    rw [join_empty, join_empty]
    exact iff_of_true rfl (Or.inr (Or.inr (Or.inl rfl)))
  rw [or_iff_right hleft, or_iff_right hmiddle, or_iff_right hright]
  by_cases hgroup : left.connective? = some op
  · have habsorbs : middle.connective? = some op ∧ right = .group op [] →
        Absorbs op middle right :=
      fun hboth => Or.inr (Or.inl hboth.1)
    rw [and_iff_right hgroup, or_iff_left_of_imp habsorbs]
    obtain ⟨children, rfl⟩ := connective?_eq_some_iff.mp hgroup
    exact group_join_assoc_iff children hmiddle hright
  · have hother : ¬ (left.connective? = some op ∧ Absorbs op middle right) :=
      fun hboth => hgroup hboth.1
    rw [or_iff_right hother]
    exact join_assoc_iff_of_ne hleft hgroup hmiddle hright

/-- What holds of composing three expressions by a connective.  The empty expression changes nothing
on either side.  Flat expressions are composed to a flat one where the first absorbs the second, and
nowhere else; the three are composed in either order to the same one if one of them is empty, if the
first is a group of the connective and the second absorbs the third, or if the second is such a
group and the third is such a group of nothing, and not otherwise. -/
structure FlatteningLaws (op : Connective) (compose : FilterExpr → FilterExpr → FilterExpr)
    (left middle right : FilterExpr) : Prop where
  left_identity : compose .empty left = left
  right_identity : compose left .empty = left
  isFlat_iff (hleft : left.IsFlat) (hright : right.IsFlat) :
    (compose left right).IsFlat ↔ Absorbs op left right
  assoc_iff :
    compose (compose left middle) right = compose left (compose middle right) ↔
      left = .empty ∨ middle = .empty ∨ right = .empty ∨
        left.connective? = some op ∧ Absorbs op middle right ∨
        middle.connective? = some op ∧ right = .group op []

/-- The flattening laws hold of conjunctions and of disjunctions. -/
theorem composition_flattens (left middle right : FilterExpr) :
  FlatteningLaws .and FilterExpr.and left middle right ∧
  FlatteningLaws .or FilterExpr.or left middle right
  := by
  constructor
  · exact ⟨empty_join .and left, join_empty .and left, isFlat_join_iff, join_assoc_iff⟩
  · exact ⟨empty_join .or left, join_empty .or left, isFlat_join_iff, join_assoc_iff⟩

/-- Groups of one connective are composed to one group, in either order; a group is taken in by the
group before it, and not by a comparison. -/
theorem composition_flattens_groups :
  let first := FilterExpr.comparison "a" (.relation .eq) (.scalar .null)
  let second := FilterExpr.comparison "b" (.relation .eq) (.scalar .null)
  let both := FilterExpr.group .and [first, second]
  (both.IsFlat ∧ first.not.IsFlat) ∧
  ((both.and both).IsFlat ∧ ((both.or both).or first.not).IsFlat ∧ ¬ (first.not.and both).IsFlat) ∧
  ((both.and first).and second = both.and (first.and second) ∧
    (first.or both).or second ≠ first.or (both.or second))
  := by
  intro first second both
  have hboth : both.IsFlat := ⟨⟨by rintro ⟨⟩, trivial⟩, ⟨by rintro ⟨⟩, trivial⟩, trivial⟩
  have heither : (both.or both).IsFlat :=
    ((composition_flattens both both both).2.isFlat_iff hboth hboth).mpr
      (.inr (.inr (by rintro ⟨⟩)))
  have hnot : first.not.IsFlat := trivial
  refine ⟨⟨hboth, hnot⟩, ⟨?_, ?_, ?_⟩, ?_, ?_⟩
  · exact ((composition_flattens both both both).1.isFlat_iff hboth hboth).mpr (.inr (.inl rfl))
  · exact ((composition_flattens (both.or both) both first.not).2.isFlat_iff heither hnot).mpr
      (.inr (.inl rfl))
  · rw [(composition_flattens first.not both both).1.isFlat_iff hnot hboth]
    simp [Absorbs, first, both, FilterExpr.not, connective?]
  · exact (composition_flattens both first second).1.assoc_iff.mpr
      (.inr (.inr (.inr (.inl ⟨rfl, .inr (.inr (by rintro ⟨⟩))⟩))))
  · rw [Ne, (composition_flattens first both second).2.assoc_iff]
    simp [first, second, both, connective?]

/-- Three comparisons are composed from the left to a flat group, and from the right to a group
within a group. -/
theorem not_isFlat_compose :
  let first := FilterExpr.comparison "a" (.relation .eq) (.scalar .null)
  let second := FilterExpr.comparison "b" (.relation .eq) (.scalar .null)
  let third := FilterExpr.comparison "c" (.relation .eq) (.scalar .null)
  (first.IsFlat ∧ second.IsFlat ∧ third.IsFlat) ∧
  ((second.and third).IsFlat ∧ ¬ (first.and (second.and third)).IsFlat ∧
    (first.and second).and third ≠ first.and (second.and third)) ∧
  ((second.or third).IsFlat ∧ ¬ (first.or (second.or third)).IsFlat ∧
    (first.or second).or third ≠ first.or (second.or third))
  := by
  intro first second third
  have hpair (op : Connective) : (group op [second, third]).IsFlat :=
    ⟨⟨by rintro ⟨⟩, trivial⟩, ⟨by rintro ⟨⟩, trivial⟩, trivial⟩
  have hnested (op : Connective) : ¬ (group op [first, group op [second, third]]).IsFlat := by
    rintro ⟨_, ⟨hother, _⟩, _⟩
    exact hother rfl
  refine ⟨⟨trivial, trivial, trivial⟩, ⟨hpair .and, hnested .and, ?_⟩, hpair .or, hnested .or, ?_⟩
  · change group .and [first, second, third] ≠ group .and [first, group .and [second, third]]
    rintro ⟨⟩
  · change group .or [first, second, third] ≠ group .or [first, group .or [second, third]]
    rintro ⟨⟩

end FilterExpr

end RowFilter
