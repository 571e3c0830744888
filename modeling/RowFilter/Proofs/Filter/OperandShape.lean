import RowFilter.Filter.Explain
import RowFilter.Proofs.Filter.Building
import RowFilter.Proofs.Filter.FailFast

/-!
# Shapes of operands

The operand of a comparison has the right shape when it is a list exactly if the operator takes one
(`Comparison.IsShaped`).  All comparisons of a sound expression are shaped.  Compiling gives up with
a grammar fault only at a comparison that is not, and then because its operand is refused
(`Compiler.compile_within`); so an expression that was read or built step by step compiles without
any grammar fault, and that a list is needed is never found out too late
(`Compiler.compile_shaped`).
-/

namespace RowFilter

/-- Whether the operand is a list exactly if the operator takes one. -/
def Comparison.IsShaped (comparison : Comparison) : Prop :=
  comparison.operand.isList = comparison.op.takesList

namespace FilterExpr

mutual

/-- The comparisons of a wire-formed expression are shaped. -/
theorem isShaped_of_isWireFormed :
  ∀ expr : FilterExpr, expr.IsWireFormed → ∀ comparison ∈ expr.comparisons, comparison.IsShaped
  | .comparison _ _ _, h => by
      rw [comparisons, List.forall_mem_singleton]
      exact h
  | .group _ children, ⟨_, h⟩ => isShaped_of_allWireFormed children h
  | .negation child, h => isShaped_of_isWireFormed child h

/-- The comparisons of wire-formed expressions are shaped. -/
theorem isShaped_of_allWireFormed :
  ∀ children : List FilterExpr, AllWireFormed children →
    ∀ comparison ∈ allComparisons children, comparison.IsShaped
  | [], _ => by
      rw [allComparisons]
      exact fun _ hnone => absurd hnone List.not_mem_nil
  | child :: rest, ⟨hchild, hrest⟩ => by
      rw [allComparisons, List.forall_mem_append]
      exact ⟨isShaped_of_isWireFormed child hchild, isShaped_of_allWireFormed rest hrest⟩

end

/-- The comparisons of a sound expression are shaped. -/
theorem IsSound.isShaped {expr : FilterExpr} (h : expr.IsSound) :
  ∀ comparison ∈ expr.comparisons, comparison.IsShaped
  := by
  obtain rfl | hformed := h
  · rw [comparisons]
    exact fun _ hnone => absurd hnone List.not_mem_nil
  · exact isShaped_of_isWireFormed expr hformed

end FilterExpr

/-- Whether an error is a grammar fault. -/
def FilterError.IsGrammar (error : FilterError) : Prop :=
  ∃ fault, error = .grammar fault

/-- Whether an error, if it is a grammar fault, refuses the operand of one of some comparisons,
which is not shaped. -/
def FilterError.BlamesShape (comparisons : List Comparison) (error : FilterError) : Prop :=
  ∀ fault, error = .grammar fault →
    ∃ comparison ∈ comparisons, ¬ comparison.IsShaped ∧
      fault = .operandRefused comparison.op comparison.path comparison.operand

namespace Compiler

open Plan

variable {Field Predicate : Type} {errors : FilterError → Prop}

/-! ### Comparisons -/

/-- An operator for a single literal gives up only where the field is in no order or the literal is
null. -/
theorem within_applyLiteral {path : String} {type : DataType} {op : Operator}
    (hop : op.takesList = false) (hordering : errors (.notComparable path type))
    (hnull : errors (.unsupportedOperand (.null op path))) (field : Field) (literal : Literal) :
  (applyLiteral path type field op literal : Plan Field Predicate Predicate).Within
    (fun _ => True) errors
  := by
  rw [applyLiteral.eq_def]
  split
  · exact hordering
  · split
    · exact hnull
    · cases op with
      | relation relation => exact ⟨trivial, fun _ => trivial⟩
      | textMatch kind => exact ⟨trivial, fun _ => trivial⟩
      | membership kind => cases hop

/-- A membership does not give up. -/
theorem within_applyLiterals (field : Field) (op : Operator) (literals : List Literal) :
  (applyLiterals field op literals : Plan Field Predicate Predicate).Within (fun _ => True) errors
  := by
  have hasked (request : Call Field Predicate .predicate) :
      (predicate request : Plan Field Predicate Predicate).Within (fun _ => True) errors :=
    ⟨trivial, fun _ => trivial⟩
  rw [applyLiterals]
  apply (hasked (.isIn field literals)).bind
  intro found
  split
  · exact hasked (.not found)
  · trivial

/-- Compiling a comparison gives up with a grammar fault only if the operand has the wrong shape. -/
theorem comparison_within (compiler : Compiler Field) (comparison : Comparison) :
  (compiler.comparison comparison.path comparison.op comparison.operand :
    Plan Field Predicate Predicate).Within (fun _ => True) (FilterError.BlamesShape [comparison])
  := by
  obtain ⟨path, op, operand⟩ := comparison
  have hunknown (segment : String) :
      FilterError.BlamesShape [⟨path, op, operand⟩] (.unknownField path segment) := by
    rintro fault ⟨⟩
  have hconversion (value : String) (type : DataType) (cause : ConversionCause) :
      FilterError.BlamesShape [⟨path, op, operand⟩] (.conversion value type cause) := by
    rintro fault ⟨⟩
  rw [comparison]
  apply ((Path.within_resolve hunknown compiler.typeOf).mono (fun _ _ => trivial) fun _ => id).bind
  intro resolved
  apply ((compiler.within_folded _ resolved).mono (fun _ _ => trivial) fun _ => id).bind
  intro field
  split
  · next value hop =>
      apply Within.bind
      · apply within_ofExcept
        intro error herror
        obtain ⟨text, message, rfl⟩ := Coercion.literal_eq_error herror
        apply hconversion
      · intro literal
        exact within_applyLiteral hop (by rintro fault ⟨⟩) (by rintro fault ⟨⟩) field literal
  · next values hop =>
      apply Within.bind
      · apply within_ofExcept
        intro error herror
        obtain ⟨text, message, rfl⟩ := Coercion.literals_eq_error herror
        apply hconversion
      · intro literals
        exact within_applyLiterals field op literals
  · next hscalar hlist =>
      rintro fault ⟨⟩
      refine ⟨⟨path, op, operand⟩, List.mem_singleton.mpr rfl, ?_, rfl⟩
      intro hshape
      cases operand with
      | scalar value => exact hscalar value rfl hshape.symm
      | list values => exact hlist values rfl hshape.symm

/-! ### Expressions -/

theorem within_opposite (condition : Option Predicate) :
  (opposite condition : Plan Field Predicate (Option Predicate)).Within (fun _ => True) errors
  := by
  cases condition with
  | none => trivial
  | some condition => exact ⟨trivial, fun _ => trivial⟩

theorem within_joined (op : Connective) (left right : Option Predicate) :
  (joined op left right : Plan Field Predicate (Option Predicate)).Within (fun _ => True) errors
  := by
  cases right with
  | none => trivial
  | some right =>
      cases left with
      | none => trivial
      | some left => exact ⟨trivial, fun _ => trivial⟩

variable {compiler : Compiler Field}

mutual

/-- Compiling an expression gives up only where compiling one of its comparisons does. -/
theorem within_compile :
  ∀ expr : FilterExpr,
    (∀ comparison ∈ expr.comparisons,
      (compiler.comparison comparison.path comparison.op comparison.operand :
        Plan Field Predicate Predicate).Within (fun _ => True) errors) →
    (compiler.compile expr : Plan Field Predicate (Option Predicate)).Within (fun _ => True) errors
  | .empty, _ => by
      rw [compile]
      trivial
  | .comparison path op operand, h => by
      rw [FilterExpr.comparisons, List.forall_mem_singleton] at h
      rw [compile]
      exact h.bind fun _ => trivial
  | .group op children, h => by
      rw [compile]
      exact within_compileAll op none children h
  | .negation child, h => by
      rw [compile]
      exact (within_compile child h).bind within_opposite

/-- Compiling the conditions of a group gives up only where compiling one of their comparisons
does. -/
theorem within_compileAll (op : Connective) (before : Option Predicate) :
  ∀ children : List FilterExpr,
    (∀ comparison ∈ FilterExpr.allComparisons children,
      (compiler.comparison comparison.path comparison.op comparison.operand :
        Plan Field Predicate Predicate).Within (fun _ => True) errors) →
    (compiler.compileAll op before children : Plan Field Predicate (Option Predicate)).Within
      (fun _ => True) errors
  | [], _ => by
      rw [compileAll]
      trivial
  | child :: rest, h => by
      rw [FilterExpr.allComparisons, List.forall_mem_append] at h
      rw [compileAll]
      apply (within_compile child h.1).bind
      intro condition
      apply (within_joined op before condition).bind
      intro both
      exact within_compileAll op both rest h.2

end

/-- Compiling an expression gives up with a grammar fault only at a comparison whose operand has the
wrong shape, whatever the answers. -/
theorem compile_within (compiler : Compiler Field) (expr : FilterExpr) :
  (compiler.compile expr : Plan Field Predicate (Option Predicate)).Within (fun _ => True)
    (FilterError.BlamesShape expr.comparisons)
  := by
  apply within_compile
  intro comparison hmem
  apply (compiler.comparison_within comparison).mono (fun _ => id)
  intro error hblames fault hfault
  obtain ⟨other, hother, hshape⟩ := hblames fault hfault
  rw [List.mem_singleton] at hother
  subst hother
  exact ⟨other, hmem, hshape⟩

/-- Every expression that steps build, by reading, by making comparisons and by composing them,
compiles without giving up with a grammar fault, whatever the answers; so on a store that answers no
call with such a fault it never ends with one.  Any expression whatsoever gives up with a grammar
fault only where the operand of a comparison has the wrong shape and is refused for it; never does
an operator for a list come to be applied to a single literal. -/
theorem compile_shaped :
  (∀ steps : List FilterExpr.Step, ∀ expr ∈ FilterExpr.build [] steps,
    ∀ {Field Predicate : Type} (compiler : Compiler Field),
      (compiler.compile expr : Plan Field Predicate (Option Predicate)).Within (fun _ => True)
        (fun error => ¬ error.IsGrammar) ∧
      ∀ store : Store Field Predicate,
        (∀ calls kind call error, (store calls).answer kind call = .error error →
          ¬ error.IsGrammar) →
        ∀ before fault, (compiler.compile expr).outcome store before ≠ .error (.grammar fault)) ∧
  ∀ (expr : FilterExpr) {Field Predicate : Type} (compiler : Compiler Field),
    (compiler.compile expr : Plan Field Predicate (Option Predicate)).Within (fun _ => True)
      (fun error => error.BlamesShape expr.comparisons ∧
        ∀ op path, error ≠ .grammar (.listNeeded op path))
  := by
  constructor
  case left =>
    intro steps expr hmem Field Predicate compiler
    have hsound : expr.IsSound :=
      FilterExpr.isSound_of_mem_build (fun _ hnone => absurd hnone List.not_mem_nil) steps expr hmem
    have hwithin : (compiler.compile expr : Plan Field Predicate (Option Predicate)).Within
        (fun _ => True) fun error => ¬ error.IsGrammar := by
      apply (compiler.compile_within expr).mono (fun _ => id)
      rintro error hblames ⟨fault, hfault⟩
      obtain ⟨comparison, hcomparison, hshape, _⟩ := hblames fault hfault
      exact hshape (hsound.isShaped comparison hcomparison)
    refine ⟨hwithin, ?_⟩
    intro store hstore before fault houtcome
    obtain hown | ⟨calls, kind, call, hanswer⟩ := hwithin.of_outcome_error houtcome
    · exact hown ⟨fault, rfl⟩
    · exact hstore calls kind call _ hanswer ⟨fault, rfl⟩
  case right =>
    intro expr Field Predicate compiler
    apply (compiler.compile_within expr).mono (fun _ => id)
    intro error hblames
    refine ⟨hblames, ?_⟩
    rintro op path rfl
    obtain ⟨_, _, _, hrefused⟩ := hblames _ rfl
    cases hrefused

/-- A conjunction that is built of a comparison and its opposite ends on a store without a grammar
fault; a comparison that is put together with an operand of the wrong shape ends with the refusal of
the operand. -/
theorem compile_shaped_steps :
  let store : Store DescribedField String :=
    .ofBackend (Schema.explain [("a", .boolean)] (some "and"))
  let compiler : Compiler DescribedField :=
    ⟨DescribedField.type, Converter.standard DateFormats.default, true⟩
  let isTrue := FilterExpr.comparison "a" (.relation .eq) (.scalar (.bool true))
  let steps : List FilterExpr.Step :=
    [.comparison "a" (.relation .eq) (.scalar (.bool true)), .not 0, .join .and 0 1]
  let isAny := FilterExpr.comparison "a" (.membership .anyOf) (.scalar .null)
  (isTrue.and isTrue.not ∈ FilterExpr.build [] steps ∧
    (∀ calls kind call error, (store calls).answer kind call = .error error →
      ¬ error.IsGrammar) ∧
    ∀ fault, (compiler.compile (isTrue.and isTrue.not)).outcome store []
      ≠ .error (.grammar fault)) ∧
  ((compiler.compile isAny).outcome store []
      = .error (.grammar (.operandRefused (.membership .anyOf) "a" (.scalar .null))) ∧
    ∀ op path, (FilterError.grammar (.operandRefused (.membership .anyOf) "a" (.scalar .null)))
      ≠ .grammar (.listNeeded op path))
  := by
  intro store compiler isTrue steps isAny
  obtain ⟨hbuilt, hany⟩ := compile_shaped
  have hmem : isTrue.and isTrue.not ∈ FilterExpr.build [] steps :=
    List.mem_cons_of_mem _ (List.mem_cons_of_mem _ List.mem_cons_self)
  have hstore : ∀ calls kind call error, (store calls).answer kind call = .error error →
      ¬ error.IsGrammar := by
    rintro calls kind call error hanswer ⟨fault, rfl⟩
    change (if _ then _ else _) = _ at hanswer
    split at hanswer
    · cases hanswer
    · cases hanswer
  have hrefused : (compiler.compile isAny).outcome store []
      = .error (.grammar (.operandRefused (.membership .anyOf) "a" (.scalar .null))) :=
    rfl
  refine ⟨⟨hmem, hstore, ?_⟩, hrefused, ?_⟩
  · exact (hbuilt steps _ hmem compiler).2 store hstore []
  · obtain ⟨_, hlisted⟩ | ⟨calls, kind, call, hanswer⟩ :=
      (hany isAny compiler).of_outcome_error hrefused
    · exact hlisted
    · exact absurd ⟨_, rfl⟩ (hstore calls kind call _ hanswer)

end Compiler

end RowFilter
