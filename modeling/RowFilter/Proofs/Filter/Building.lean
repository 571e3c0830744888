import RowFilter.Filter.Compile
import RowFilter.Filter.Explain
import RowFilter.Filter.Grammar
import RowFilter.Proofs.Filter.Comparisons
import RowFilter.Proofs.Grammar.Wire
import RowFilter.Proofs.Plan.Scope

/-!
# Expressions built step by step

A `FilterExpr.Step` reads an expression, makes a comparison, or joins or negates expressions that
were made before; `FilterExpr.build` performs steps one after the other.  Every expression that is
built is empty or wire-formed (`FilterExpr.IsSound`), and of the sound expressions it is the empty
one alone that compiles to no condition.  Composition loses no comparison and adds none
(`FilterExpr.HasBoth`).
-/

namespace RowFilter

namespace FilterExpr

/-! ### Steps -/

/-- A step that makes an expression.  What it starts from is named by a place among the expressions
made before; where there is none, it starts from the empty expression. -/
inductive Step where
  | read (text : Option String)
  | ofJson (value : Json)
  | comparison (path : String) (op : Operator) (operand : Operand)
  | join (op : Connective) (left right : Nat)
  | not (place : Nat)

/-- What a step makes, after some expressions. -/
def Step.perform (made : List FilterExpr) : Step → Except FilterError FilterExpr
  | .read text => FilterExpr.read text
  | .ofJson value => FilterExpr.ofJson value
  | .comparison path op operand => ofParts path op operand
  | .join .and left right => .ok ((made.getD left .empty).and (made.getD right .empty))
  | .join .or left right => .ok ((made.getD left .empty).or (made.getD right .empty))
  | .not place => .ok (made.getD place .empty).not

/-- The expressions after some steps, the new ones behind those made before.  A step that fails
makes none. -/
def build (made : List FilterExpr) : List Step → List FilterExpr
  | [] => made
  | step :: rest =>
    match step.perform made with
    | .ok expr => build (made ++ [expr]) rest
    | .error _ => build made rest

/-! ### Soundness -/

/-- Whether the expression is empty or wire-formed. -/
def IsSound (expr : FilterExpr) : Prop :=
  expr = .empty ∨ expr.IsWireFormed

theorem allWireFormed_append {left right : List FilterExpr} (hleft : AllWireFormed left)
    (hright : AllWireFormed right) :
  AllWireFormed (left ++ right)
  := by
  induction left with
  | nil => apply hright
  | cons child rest ih =>
      obtain ⟨hchild, hrest⟩ := hleft
      exact ⟨hchild, ih hrest⟩

/-- A sound expression that is not empty is wire-formed. -/
theorem IsSound.isWireFormed {expr : FilterExpr} (h : expr.IsSound) (hempty : expr ≠ .empty) :
  expr.IsWireFormed
  := by
  apply h.resolve_left hempty

/-- Sound expressions stay sound when they are joined. -/
theorem Joins.isSound {op : Connective} {left right joined : FilterExpr}
    (h : Joins op left right joined) (hleft : left.IsSound) (hright : right.IsSound) :
  joined.IsSound
  := by
  cases h with
  | left_empty => apply hright
  | right_empty => apply hleft
  | merged left right =>
      obtain ⟨hsize, hleft⟩ := hleft.isWireFormed (by rintro ⟨⟩)
      obtain ⟨_, hright⟩ := hright.isWireFormed (by rintro ⟨⟩)
      right
      constructor
      · rw [List.length_append]
        omega
      · apply allWireFormed_append hleft hright
  | added left hempty =>
      obtain ⟨hsize, hleft⟩ := hleft.isWireFormed (by rintro ⟨⟩)
      right
      constructor
      · rw [List.length_append]
        omega
      · exact allWireFormed_append hleft ⟨hright.isWireFormed hempty, trivial⟩
  | paired hleftEmpty hrightEmpty =>
      right
      exact ⟨Nat.le_refl 2, hleft.isWireFormed hleftEmpty, hright.isWireFormed hrightEmpty, trivial⟩

/-- The opposite of a sound expression is sound. -/
theorem IsSound.not {expr : FilterExpr} (h : expr.IsSound) :
  expr.not.IsSound
  := by
  obtain rfl | hformed := h
  · apply Or.inl rfl
  · cases expr with
    | empty => apply Or.inl rfl
    | comparison path op operand => apply Or.inr hformed
    | group op children => apply Or.inr hformed
    | negation child => apply Or.inr hformed

/-- What is read from a JSON value is sound. -/
theorem isSound_of_ofJson {value : Json} {expr : FilterExpr} (h : ofJson value = .ok expr) :
  expr.IsSound
  := by
  apply Or.inr (ofJson_eq_ok_iff.mp h).isWireFormed

/-- What is read from a text is sound. -/
theorem isSound_of_read {text : Option String} {expr : FilterExpr} (h : read text = .ok expr) :
  expr.IsSound
  := by
  rw [read.eq_def] at h
  split at h
  · cases h
    apply Or.inl rfl
  · split at h
    · cases h
      apply Or.inl rfl
    · split at h
      · cases h
      · apply isSound_of_ofJson h

/-- A comparison whose operand has the right shape is sound. -/
theorem isSound_of_ofParts {path : String} {op : Operator} {operand : Operand} {expr : FilterExpr}
    (h : ofParts path op operand = .ok expr) :
  expr.IsSound
  := by
  by_cases hshape : operand.isList = op.takesList
  · rw [ofParts_eq_ok hshape] at h
    cases h
    apply Or.inr hshape
  · rw [ofParts.eq_def] at h
    cases operand with
    | scalar value =>
        cases hop : op.takesList with
        | true =>
            rw [hop] at h
            cases h
        | false => exact absurd hop.symm hshape
    | list values =>
        cases hop : op.takesList with
        | true => exact absurd hop.symm hshape
        | false =>
            rw [hop] at h
            cases h

/-- A place among sound expressions holds a sound one, or none. -/
theorem isSound_getD {made : List FilterExpr} (h : ∀ expr ∈ made, expr.IsSound) (place : Nat) :
  (made.getD place .empty).IsSound
  := by
  rw [List.getD_eq_getElem?_getD]
  cases hfound : made[place]? with
  | none => apply Or.inl rfl
  | some expr => apply h expr (List.mem_of_getElem? hfound)

/-- After sound expressions, a step makes a sound one. -/
theorem Step.isSound_perform {made : List FilterExpr} (h : ∀ expr ∈ made, expr.IsSound) {step : Step}
    {expr : FilterExpr} (hstep : step.perform made = .ok expr) :
  expr.IsSound
  := by
  cases step with
  | read text => apply isSound_of_read hstep
  | ofJson value => apply isSound_of_ofJson hstep
  | comparison path op operand => apply isSound_of_ofParts hstep
  | join op left right =>
      have hjoined (op : Connective) := (joins_join op (made.getD left .empty)
        (made.getD right .empty)).isSound (isSound_getD h left) (isSound_getD h right)
      cases op with
      | and =>
          cases hstep
          apply hjoined .and
      | or =>
          cases hstep
          apply hjoined .or
  | not place =>
      cases hstep
      apply (isSound_getD h place).not

/-- After sound expressions, steps make sound ones. -/
theorem isSound_of_mem_build {made : List FilterExpr} (h : ∀ expr ∈ made, expr.IsSound)
    (steps : List Step) :
  ∀ expr ∈ build made steps, expr.IsSound
  := by
  induction steps generalizing made with
  | nil => apply h
  | cons step rest ih =>
      rw [build]
      split
      · next found hfound =>
          apply ih
          rw [List.forall_mem_append]
          exact ⟨h, List.forall_mem_singleton.mpr (step.isSound_perform h hfound)⟩
      · apply ih h

/-! ### Contents -/

mutual

/-- The paths of an expression are those of its comparisons. -/
theorem paths_eq :
  ∀ expr : FilterExpr, expr.paths = expr.comparisons.map Comparison.path
  | .empty => rfl
  | .comparison _ _ _ => rfl
  | .group _ children => allPaths_eq children
  | .negation child => paths_eq child

/-- The paths of a list of expressions are those of their comparisons. -/
theorem allPaths_eq :
  ∀ children : List FilterExpr,
    allPaths children = (allComparisons children).map Comparison.path
  | [] => rfl
  | child :: rest => by
      rw [allPaths, paths_eq child, allPaths_eq rest, allComparisons, List.map_append]

end

theorem mem_insertName {path name : String} {names : List String} :
  path ∈ insertName name names ↔ path = name ∨ path ∈ names
  := by
  induction names with
  | nil => rw [insertName, List.mem_singleton, or_iff_left List.not_mem_nil]
  | cons other rest ih =>
      rw [insertName]
      split
      · next hsame =>
          subst hsame
          rw [List.mem_cons]
          simp
      · split
        · rw [List.mem_cons]
        · rw [List.mem_cons, ih, List.mem_cons]
          apply or_left_comm

/-- The paths that an expression needs are those of its comparisons. -/
theorem mem_requiredFields {path : String} {expr : FilterExpr} :
  path ∈ expr.requiredFields ↔ ∃ comparison ∈ expr.comparisons, comparison.path = path
  := by
  rw [← List.mem_map, ← paths_eq, requiredFields]
  induction expr.paths with
  | nil => rfl
  | cons name rest ih => rw [List.foldr_cons, mem_insertName, ih, List.mem_cons]

/-- Whether an expression has the comparisons of two others, one after the other, and so as many as
both together and their paths. -/
structure HasBoth (left right joined : FilterExpr) : Prop where
  comparisons_eq : joined.comparisons = left.comparisons ++ right.comparisons
  count_eq : joined.comparisonCount = left.comparisonCount + right.comparisonCount
  mem_fields : ∀ path, path ∈ joined.requiredFields ↔
    path ∈ left.requiredFields ∨ path ∈ right.requiredFields

/-- Two expressions joined have what both have. -/
theorem Joins.hasBoth {op : Connective} {left right joined : FilterExpr}
    (h : Joins op left right joined) :
  HasBoth left right joined
  := by
  refine ⟨h.comparisons_eq, ?_, ?_⟩
  · rw [← length_comparisons, h.comparisons_eq, List.length_append, length_comparisons,
      length_comparisons]
  · intro path
    rw [mem_requiredFields, mem_requiredFields, mem_requiredFields, h.comparisons_eq]
    simp only [List.mem_append, or_and_right, exists_or]

/-- A wire-formed expression has a comparison. -/
theorem comparisonCount_pos :
  ∀ expr : FilterExpr, expr.IsWireFormed → 0 < expr.comparisonCount
  | .comparison _ _ _, _ => Nat.one_pos
  | .negation child, h => comparisonCount_pos child h
  | .group _ (child :: _), ⟨_, hchild, _⟩ => Nat.add_pos_left (comparisonCount_pos child hchild) _
  | .group _ [], ⟨hsize, _⟩ => by cases hsize

/-- Of the sound expressions, the empty one is that without comparisons. -/
theorem IsSound.comparisonCount_eq_zero_iff {expr : FilterExpr} (h : expr.IsSound) :
  expr.comparisonCount = 0 ↔ expr = .empty
  := by
  constructor
  · intro hzero
    obtain hempty | hformed := h
    · apply hempty
    · apply absurd (comparisonCount_pos expr hformed)
      rw [hzero]
      apply Nat.lt_irrefl
  · rintro rfl
    rfl

end FilterExpr

/-! ### Compilation -/

namespace Compiler

open Plan

variable {Field Predicate : Type}

theorem opposite_yields (condition : Option Predicate) :
  (opposite condition : Plan Field Predicate (Option Predicate)).Yields fun found =>
    found = none ↔ condition = none
  := by
  cases condition with
  | none => apply Iff.rfl
  | some condition =>
      intro answer
      exact ⟨by rintro ⟨⟩, by rintro ⟨⟩⟩

theorem joined_yields (op : Connective) (left right : Option Predicate) :
  (joined op left right : Plan Field Predicate (Option Predicate)).Yields fun found =>
    found = none ↔ left = none ∧ right = none
  := by
  cases right with
  | none => apply (and_iff_left rfl).symm
  | some right =>
      cases left with
      | none => apply (and_iff_right rfl).symm
      | some left =>
          intro answer
          exact ⟨by rintro ⟨⟩, by rintro ⟨⟨⟩, _⟩⟩

variable (compiler : Compiler Field)

mutual

/-- An expression compiles to no condition if and only if it has no comparison. -/
theorem compile_yields :
  ∀ expr : FilterExpr,
    (compiler.compile expr : Plan Field Predicate (Option Predicate)).Yields fun found =>
      found = none ↔ expr.comparisonCount = 0
  | .empty => by
      rw [compile]
      exact ⟨fun _ => rfl, fun _ => rfl⟩
  | .comparison path op operand => by
      rw [compile]
      apply (yields_true _).bind
      intro condition _
      exact ⟨by rintro ⟨⟩, by rintro ⟨⟩⟩
  | .group op children => by
      rw [compile]
      apply Yields.mono (compileAll_yields op none children)
      intro found h
      apply h.trans (and_iff_right rfl)
  | .negation child => by
      rw [compile]
      apply (compile_yields child).bind
      intro condition hcondition
      apply Yields.mono (opposite_yields condition)
      intro found h
      apply h.trans hcondition

/-- The conditions of a group compile to none if and only if they have no comparison and nothing
stands before them. -/
theorem compileAll_yields (op : Connective) (before : Option Predicate) :
  ∀ children : List FilterExpr,
    (compiler.compileAll op before children : Plan Field Predicate (Option Predicate)).Yields
      fun found => found = none ↔ before = none ∧ FilterExpr.comparisonCounts children = 0
  | [] => by
      rw [compileAll]
      apply (and_iff_left rfl).symm
  | child :: rest => by
      rw [compileAll]
      apply (compile_yields child).bind
      intro condition hcondition
      apply (joined_yields op before condition).bind
      intro both hboth
      apply Yields.mono (compileAll_yields op both rest)
      intro found h
      rw [h, hboth, hcondition, FilterExpr.comparisonCounts, Nat.add_eq_zero_iff, and_assoc]

end

/-- A sound expression compiles to no condition on a store if and only if it is empty. -/
theorem outcome_compile_eq_none_iff {expr : FilterExpr} (h : expr.IsSound)
    (store : Store Field Predicate) (before : List (Made Field Predicate)) :
  (compiler.compile expr).outcome store before = .ok none ↔ expr.isEmpty = true
  := by
  constructor
  · intro hnone
    have hcount := ((compiler.compile_yields expr).of_outcome hnone).mp rfl
    rw [h.comparisonCount_eq_zero_iff.mp hcount]
    rfl
  · intro hempty
    cases expr with
    | empty =>
        rw [compile]
        rfl
    | _ => cases hempty

end Compiler

namespace FilterExpr

open Plan

/-- Every expression that steps build is empty or wire-formed, and it is the empty one if and only
if it compiles to no condition, whatever the store.  Two expressions joined have the comparisons of
the first and then those of the second, and so as many as both and the fields of both; the opposite
of an expression has its comparisons. -/
theorem build_sound (steps : List Step) :
  (∀ expr ∈ build [] steps, (expr = .empty ∨ expr.IsWireFormed) ∧
    ∀ {Field Predicate : Type} (compiler : Compiler Field) (store : Store Field Predicate),
      (compiler.compile expr).outcome store [] = .ok none ↔ expr.isEmpty = true) ∧
  (∀ left right : FilterExpr,
    HasBoth left right (left.and right) ∧ HasBoth left right (left.or right)) ∧
  ∀ expr : FilterExpr,
    expr.not.comparisons = expr.comparisons ∧
    expr.not.comparisonCount = expr.comparisonCount ∧
    expr.not.requiredFields = expr.requiredFields
  := by
  refine ⟨?built, ?joined, ?opposite⟩
  case built =>
    intro expr hmem
    have hsound : expr.IsSound :=
      isSound_of_mem_build (fun _ hnone => absurd hnone List.not_mem_nil) steps expr hmem
    refine ⟨hsound, ?_⟩
    intro Field Predicate compiler store
    apply compiler.outcome_compile_eq_none_iff hsound
  case joined =>
    intro left right
    exact ⟨(joins_join .and left right).hasBoth, (joins_join .or left right).hasBoth⟩
  case opposite =>
    intro expr
    refine ⟨comparisons_not expr, ?_, ?_⟩
    · rw [← length_comparisons, comparisons_not, length_comparisons]
    · rw [requiredFields, requiredFields, paths_eq, paths_eq, comparisons_not]

/-- A comparison is made and another one is read; they are joined, the second is added once more, a
comparison with the wrong operand fails, and the opposite of the group is joined with nothing. -/
theorem build_sound_group :
  let steps : List Step :=
    [.comparison "b" (.relation .eq) (.scalar .null),
     .ofJson (.array [.string "a", .string "<>", .null]),
     .join .and 0 1, .join .and 2 1, .comparison "c" (.relation .eq) (.list []),
     .not 3, .join .or 4 7]
  let isNull := comparison "b" (.relation .eq) (.scalar .null)
  let notNull := comparison "a" (.relation .ne) (.scalar .null)
  let last := negation (group .and [isNull, notNull, notNull])
  let store : Store DescribedField String :=
    .ofBackend (Schema.explain [("a", .boolean), ("b", .boolean)] none)
  let compiler : Compiler DescribedField :=
    ⟨DescribedField.type, Converter.standard DateFormats.default, true⟩
  (build [] steps = [isNull, notNull, group .and [isNull, notNull],
    group .and [isNull, notNull, notNull], last, last]) ∧
  last.IsWireFormed ∧ last.requiredFields = ["a", "b"] ∧
  (compiler.compile last).outcome store [] ≠ .ok none
  := by
  intro steps isNull notNull last store compiler
  have hbuilt : build [] steps = [isNull, notNull, group .and [isNull, notNull],
      group .and [isNull, notNull, notNull], last, last] := rfl
  have hmem : last ∈ build [] steps := by
    rw [hbuilt]
    simp only [List.mem_cons, true_or, or_true]
  obtain ⟨hlast, _⟩ := build_sound steps
  obtain ⟨hsound, hcompiled⟩ := hlast last hmem
  refine ⟨hbuilt, hsound.resolve_left nofun, by decide +kernel, ?_⟩
  rw [ne_eq, hcompiled compiler store]
  rintro ⟨⟩

end FilterExpr

end RowFilter
