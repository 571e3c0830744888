import RowFilter.Filter.Compile
import RowFilter.Filter.Explain
import RowFilter.Proofs.Filter.Comparisons
import RowFilter.Proofs.Plan.Scope

/-!
# Failing fast

Compilation ends with the first thing that fails, and asks nothing more of the data store after it
(`Compiler.compile_failFast`).  `FilterExpr.within` puts frames around a part of an expression, and
`Compiler.opening` is the plan of all that stands before the part: an expression whose part fails
makes the calls of the opening, those of the part and no others.
-/

namespace RowFilter

namespace FilterExpr

/-- What stands around a part of an expression: a negation, or a group with the conditions before
the part and those after it. -/
inductive Frame where
  | negation
  | group (op : Connective) (earlier later : List FilterExpr)

/-- An expression with frames around it, the outermost first. -/
def within : List Frame → FilterExpr → FilterExpr
  | [], part => part
  | .negation :: frames, part => .negation (within frames part)
  | .group op earlier later :: frames, part => .group op (earlier ++ within frames part :: later)

end FilterExpr

namespace Comparison

/-- Whether an error is one that compiling a comparison comes upon by itself: the path leads to no
field, the operand has the wrong shape, the converter refuses it, the values of the field are in
no order, or the operator has no meaning for null. -/
inductive IsOwnError (comparison : Comparison) : FilterError → Prop where
  | unknownField (segment : String) :
    comparison.IsOwnError (.unknownField comparison.path segment)
  | operandRefused :
    comparison.IsOwnError
      (.grammar (.operandRefused comparison.op comparison.path comparison.operand))
  | conversion (value : String) (type : DataType) (message : String) :
    comparison.IsOwnError (.conversion value type (.refused message))
  | notComparable (type : DataType) :
    comparison.IsOwnError (.notComparable comparison.path type)
  | nullOperand :
    comparison.IsOwnError (.unsupportedOperand (.null comparison.op comparison.path))

end Comparison

open Plan

variable {Field Predicate : Type}

/-! ### Comparisons -/

/-- Following segments asks only for fields, and gives up only at a segment without one. -/
theorem Path.within_descend {errors : FilterError → Prop} {path : String}
    (h : ∀ segment, errors (.unknownField path segment)) :
  ∀ (segments : List String) (field : Field),
    (Path.descend path segments field : Plan Field Predicate Field).Within (· ≠ .predicate) errors
  | [], _ => trivial
  | segment :: rest, field => by
      rw [Path.descend]
      constructor
      · rintro ⟨⟩
      · intro answer
        cases answer with
        | none => apply h
        | some child => apply within_descend h rest child

/-- Following a path asks only for fields, and gives up only at a segment without one. -/
theorem Path.within_resolve {errors : FilterError → Prop} {path : String}
    (h : ∀ segment, errors (.unknownField path segment)) (typeOf : Field → DataType) :
  (Path.resolve typeOf path : Plan Field Predicate Field).Within (· ≠ .predicate) errors
  := by
  rw [Path.resolve]
  split
  · apply h
  · next first rest _ =>
      constructor
      · rintro ⟨⟩
      · intro answer
        cases answer with
        | none => apply h
        | some field =>
            apply (within_descend h rest field).bind
            intro found
            trivial

namespace Coercion

/-- A literal that is not made of an operand is one that the converter refuses. -/
theorem literal_eq_error {coercion : Coercion} {type : DataType} {scalar : Scalar}
    {error : FilterError} (h : coercion.literal type scalar = .error error) :
  ∃ value message, error = .conversion value type (.refused message)
  := by
  cases scalar with
  | text s =>
      rw [literal] at h
      split at h
      · cases h
      · next message _ =>
          cases h
          exact ⟨s, message, rfl⟩
  | null => cases h
  | bool b => cases h
  | number n => cases h

/-- Literals that are not made of operands are ones of which the converter refuses the first. -/
theorem literals_eq_error {coercion : Coercion} {type : DataType} {error : FilterError} :
  ∀ {scalars : List Scalar}, coercion.literals type scalars = .error error →
    ∃ value message, error = .conversion value type (.refused message)
  | [], h => by cases h
  | scalar :: rest, h => by
      rw [literals] at h
      cases hfirst : coercion.literal type scalar with
      | error other =>
          rw [hfirst] at h
          cases h
          apply literal_eq_error hfirst
      | ok first =>
          cases hrest : coercion.literals type rest with
          | error other =>
              rw [hfirst, hrest] at h
              cases h
              apply literals_eq_error hrest
          | ok others =>
              rw [hfirst, hrest] at h
              cases h

end Coercion

namespace Compiler

variable (compiler : Compiler Field)

/-- Putting a field in lower case asks for no condition. -/
theorem within_folded (errors : FilterError → Prop) (field : Field) :
  (compiler.folded field : Plan Field Predicate Field).Within (· ≠ .predicate) errors
  := by
  rw [folded]
  split
  · constructor
    · rintro ⟨⟩
    · intro answer
      trivial
  · trivial

/-- An operator on a literal is refused before anything is asked. -/
theorem givesUpEarly_applyLiteral {comparison : Comparison}
    (h : comparison.op.takesList = false) (type : DataType) (field : Field) (literal : Literal) :
  (applyLiteral comparison.path type field comparison.op literal :
    Plan Field Predicate Predicate).GivesUpEarly comparison.IsOwnError
  := by
  rw [applyLiteral.eq_def]
  split
  · apply givesUpEarly_fail (.notComparable type)
  · split
    · apply givesUpEarly_fail .nullOperand
    · split
      · intro store before hgivesUp
        apply absurd hgivesUp (not_givesUp_predicate _)
      · intro store before hgivesUp
        apply absurd hgivesUp (not_givesUp_predicate _)
      · next hop =>
          rw [hop] at h
          cases h

/-- A membership on literals is not refused. -/
theorem not_givesUp_applyLiterals {store : Store Field Predicate}
    {before : List (Made Field Predicate)} (field : Field) (op : Operator)
    (literals : List Literal) :
  ¬ (applyLiterals field op literals).GivesUp store before
  := by
  rw [applyLiterals, givesUp_bind_iff]
  rintro (hasked | ⟨found, _, hopposed⟩)
  · apply not_givesUp_predicate _ hasked
  · split at hopposed
    · apply not_givesUp_predicate _ hopposed
    · apply hopposed

/-- A comparison that fails by itself has an error of its own, and has not asked for a condition. -/
theorem givesUpEarly_comparison (comparison : Comparison) :
  (compiler.comparison comparison.path comparison.op comparison.operand :
    Plan Field Predicate Predicate).GivesUpEarly comparison.IsOwnError
  := by
  rw [Compiler.comparison]
  apply (Path.within_resolve Comparison.IsOwnError.unknownField compiler.typeOf).bind_givesUpEarly
  intro resolved
  apply (compiler.within_folded comparison.IsOwnError resolved).bind_givesUpEarly
  intro field
  split
  · next hscalar =>
      apply Within.bind_givesUpEarly
      · apply within_ofExcept
        intro error herror
        obtain ⟨value, message, rfl⟩ := Coercion.literal_eq_error herror
        apply Comparison.IsOwnError.conversion
      · apply givesUpEarly_applyLiteral hscalar
  · apply Within.bind_givesUpEarly
    · apply within_ofExcept
      intro error herror
      obtain ⟨value, message, rfl⟩ := Coercion.literals_eq_error herror
      apply Comparison.IsOwnError.conversion
    · intro literals store before hgivesUp
      apply absurd hgivesUp (not_givesUp_applyLiterals _ _ _)
  · apply givesUpEarly_fail
    apply Comparison.IsOwnError.operandRefused

/-! ### Expressions -/

/-- The plan of what stands before the part that some frames are put around. -/
def opening : List FilterExpr.Frame → Plan Field Predicate Unit
  | [] => .done ()
  | .negation :: frames => opening frames
  | .group op earlier _ :: frames =>
    (compiler.compileAll op none earlier).bind fun _ => opening frames

/-- The conditions of two lists are compiled one after the other. -/
theorem compileAll_append (op : Connective) (left right : List FilterExpr)
    (before : Option Predicate) :
  compiler.compileAll op before (left ++ right)
    = (compiler.compileAll op before left).bind fun both => compiler.compileAll op both right
  := by
  induction left generalizing before with
  | nil => rfl
  | cons child rest ih =>
      rw [List.cons_append, compileAll, compileAll, bind_assoc]
      congr 1
      funext condition
      rw [bind_assoc]
      congr 1
      funext both
      apply ih

variable {compiler} {store : Store Field Predicate}

/-- An expression whose part fails makes the calls of the opening and those of the part, and has
the error of the part. -/
theorem fails_within {part : FilterExpr} {error : FilterError} :
  ∀ {frames : List FilterExpr.Frame} {before : List (Made Field Predicate)},
    (compiler.opening frames).outcome store before = .ok () →
    (compiler.compile part).outcome store (before ++ (compiler.opening frames).made store before)
      = .error error →
    (compiler.compile (FilterExpr.within frames part)).outcome store before = .error error ∧
    (compiler.compile (FilterExpr.within frames part)).made store before
      = (compiler.opening frames).made store before
        ++ (compiler.compile part).made store
            (before ++ (compiler.opening frames).made store before)
  | [], before, _, hpart => by
      rw [opening, made, List.append_nil] at hpart
      rw [FilterExpr.within, opening, made, List.append_nil, List.nil_append]
      exact ⟨hpart, rfl⟩
  | .negation :: frames, before, hopening, hpart => by
      rw [opening] at hopening hpart
      obtain ⟨houtcome, hmade⟩ := fails_within hopening hpart
      rw [FilterExpr.within, compile]
      constructor
      · rw [outcome_bind, houtcome]
        rfl
      · rw [made_bind_of_error _ houtcome]
        apply hmade
  | .group op earlier later :: frames, before, hopening, hpart => by
      rw [opening, outcome_bind] at hopening
      obtain ⟨condition, hcondition, hopening⟩ := Except.bind_eq_ok_iff.mp hopening
      rw [opening, made_bind_of_ok _ hcondition, ← List.append_assoc] at hpart
      obtain ⟨houtcome, hmade⟩ := fails_within hopening hpart
      rw [FilterExpr.within, compile, compileAll_append, opening, made_bind_of_ok _ hcondition]
      -- The conditions after the part are in what follows its error, which is dropped as a whole.
      constructor
      · rw [outcome_bind, hcondition]
        apply Eq.trans (outcome_bind _ _ _)
        rw [houtcome]
        rfl
      · rw [made_bind_of_ok _ hcondition, compileAll, made_bind_of_error _ houtcome, hmade]
        simp only [List.append_assoc]

/-- Compiling an expression ends with the first call that fails, whatever the store: if the call of
some number is made to fail, then the calls up to that one are made, in the same order and no others,
and the error is the one of that call.  A comparison, anywhere in an expression, that fails although
the store has answered all of its calls has an error of its own; the calls are those of what stands
before it and then its own, none of which asks for a condition, and nothing that stands after it is
asked for. -/
theorem compile_failFast (compiler : Compiler Field) (store : Store Field Predicate) :
  (∀ (expr : FilterExpr) (number : Nat) (error : FilterError),
    let plan : Plan Field Predicate (Option Predicate) := compiler.compile expr
    0 < number → number ≤ (plan.made store []).length →
      plan.outcome (store.failAt number error) [] = .error error ∧
      plan.made (store.failAt number error) [] = (plan.made store []).take number) ∧
  (∀ (frames : List FilterExpr.Frame) (comparison : Comparison),
    let plan : Plan Field Predicate (Option Predicate) :=
      compiler.compile (FilterExpr.within frames comparison.expr)
    let leaf : Plan Field Predicate Predicate :=
      compiler.comparison comparison.path comparison.op comparison.operand
    let early := (compiler.opening frames).made store []
    (compiler.opening frames).outcome store [] = .ok () → leaf.GivesUp store early →
      ∃ error, plan.outcome store [] = .error error ∧ comparison.IsOwnError error ∧
        plan.made store [] = early ++ leaf.made store early ∧
        ∀ call ∈ leaf.made store early, call.1 ≠ .predicate)
  := by
  refine ⟨?stopped, ?refused⟩
  case stopped =>
    intro expr number error plan hpositive hnumber
    rw [← Nat.zero_add (plan.made store []).length] at hnumber
    exact ⟨outcome_failAt error hpositive hnumber, made_failAt error hpositive hnumber⟩
  case refused =>
    intro frames comparison plan leaf early hopening hgivesUp
    obtain ⟨hquiet, error, herror, hown⟩ :=
      compiler.givesUpEarly_comparison comparison store early hgivesUp
    have hexpr : (compiler.compile comparison.expr : Plan Field Predicate (Option Predicate))
        = leaf.bind fun condition => .done (some condition) := by
      rw [Comparison.expr, compile]
    have hpart : (compiler.compile comparison.expr).outcome store early = .error error := by
      rw [hexpr, outcome_bind, herror]
      rfl
    obtain ⟨houtcome, hmade⟩ := fails_within hopening hpart
    refine ⟨error, houtcome, hown, ?_, hquiet⟩
    apply hmade.trans
    rw [hexpr]
    apply congrArg (early ++ ·) (made_bind_of_error _ herror)

/-- Of three comparisons, the first is answered and the second is refused, as a group of fields is
in no order; or the first one is not answered. -/
theorem compile_failFast_refused :
  let schema : Schema := [("a", .boolean), ("s", .struct [])]
  let store : Store DescribedField String := .ofBackend (schema.explain none)
  let compiler : Compiler DescribedField :=
    ⟨DescribedField.type, Converter.standard DateFormats.default, true⟩
  let isTrue := FilterExpr.comparison "a" (.relation .eq) (.scalar (.bool true))
  let isGreater : Comparison := ⟨"s", .relation .gt, .scalar (.bool true)⟩
  let around : List FilterExpr.Frame := [.group .and [isTrue] [isTrue], .negation]
  let plan : Plan DescribedField String (Option String) :=
    compiler.compile (FilterExpr.within around isGreater.expr)
  let asked : List (Made DescribedField String) :=
    [⟨.lookup, .root "a"⟩, ⟨.predicate, .compare .eq ⟨"a", .boolean⟩ (.bool true)⟩]
  (plan.made store [] = asked ++ [⟨.lookup, .root "s"⟩] ∧
    ∃ error, plan.outcome store [] = .error error ∧ isGreater.IsOwnError error) ∧
  (plan.made (store.failAt 2 (.backend (.injected "eq"))) [] = asked ∧
    plan.outcome (store.failAt 2 (.backend (.injected "eq"))) []
      = .error (.backend (.injected "eq")))
  := by
  intro schema store compiler isTrue isGreater around plan asked
  obtain ⟨hstopped, hrefused⟩ := compile_failFast compiler store
  obtain ⟨error, herror, hown, hmade, _⟩ :=
    hrefused around ⟨"s", .relation .gt, .scalar (.bool true)⟩ rfl trivial
  have hcalls : plan.made store [] = asked ++ [⟨.lookup, .root "s"⟩] := hmade
  obtain ⟨houtcome, htaken⟩ :=
    hstopped (FilterExpr.within around isGreater.expr) 2 (.backend (.injected "eq")) (by decide)
      (by rw [show _ = _ from hcalls]; decide)
  refine ⟨⟨hcalls, error, herror, hown⟩, ?_, houtcome⟩
  apply htaken.trans
  rw [show _ = _ from hcalls]
  rfl

end Compiler

end RowFilter
