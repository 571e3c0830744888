import RowFilter.Filter.Compile
import RowFilter.Proofs.Plan.Correspondence

/-!
# Compilation on corresponding stores

Compilation learns nothing of a field but its type, and nothing of a condition.  So two compilers
that see the same types in fields that stand for each other, and make the same literals, compile
every expression to corresponding plans (`Compiler.Agree.plans_compile`).
-/

namespace RowFilter

variable {Field Predicate Other Condition : Type}
  {alike : Correspondence Field Predicate Other Condition}

namespace Compiler

/-- Whether two compilers make the same literals, and see the same types in fields that stand for
each other. -/
structure Agree (alike : Correspondence Field Predicate Other Condition)
    (first : Compiler Field) (second : Compiler Other) : Prop where
  coercion_eq : first.coercion = second.coercion
  type_eq (field : Field) (other : Other) :
    alike.fields field other → first.typeOf field = second.typeOf other

variable {first : Compiler Field} {second : Compiler Other}

/-! ### Comparisons -/

/-- Following segments from fields that stand for each other leads to such fields. -/
theorem plans_descend (path : String) :
  ∀ (segments : List String) {field : Field} {other : Other}, alike.fields field other →
    alike.Plans alike.fields (Path.descend path segments field) (Path.descend path segments other)
  | [], _, _, h => .done h
  | segment :: rest, field, other, h => by
      rw [Path.descend, Path.descend]
      apply Correspondence.Plans.ask (.nested h segment)
      intro answer reply hanswer
      cases hanswer with
      | none => apply Correspondence.Plans.fail
      | some hchild => apply plans_descend path rest hchild

/-- Following a path leads to fields that stand for each other. -/
theorem Agree.plans_resolve (h : Agree alike first second) (path : String) :
  alike.Plans alike.fields (Path.resolve first.typeOf path) (Path.resolve second.typeOf path)
  := by
  rw [Path.resolve, Path.resolve]
  split
  · apply Correspondence.Plans.fail
  · next segment rest _ =>
      apply Correspondence.Plans.ask (.root segment)
      intro answer reply hanswer
      cases hanswer with
      | none => apply Correspondence.Plans.fail
      | some hfield =>
          apply (plans_descend path rest hfield).bind
          intro found other hfound
          rw [h.type_eq found other hfound]
          apply Correspondence.Plans.note
          apply Correspondence.Plans.done hfound

/-- Fields that stand for each other do so in the letter case in which they are compared. -/
theorem Agree.plans_folded (h : Agree alike first second) {field : Field} {other : Other}
    (hfield : alike.fields field other) :
  alike.Plans alike.fields (first.folded field) (second.folded other)
  := by
  rw [folded, folded, h.coercion_eq, h.type_eq field other hfield]
  split
  · apply Correspondence.Plans.ask (.lower hfield)
    intro answer reply hanswer
    apply Correspondence.Plans.done hanswer
  · apply Correspondence.Plans.done hfield

theorem calls_relate {field : Field} {other : Other} (h : alike.fields field other)
    (relation : Relation) (literal : Literal) :
  alike.Calls .predicate (relate field relation literal) (relate other relation literal)
  := by
  rw [relate.eq_def, relate.eq_def]
  split
  · apply Correspondence.Calls.isNull h
  · apply Correspondence.Calls.notNull h
  · apply Correspondence.Calls.compare relation h

theorem calls_find {field : Field} {other : Other} (h : alike.fields field other)
    (kind : TextMatch) (literal : Literal) :
  alike.Calls .predicate (find field kind literal) (find other kind literal)
  := by
  cases kind with
  | notContains => apply Correspondence.Calls.notLike h
  | _ => apply Correspondence.Calls.like h

/-- An operator on a literal stands for the same condition on fields that stand for each other. -/
theorem plans_applyLiteral {field : Field} {other : Other} (h : alike.fields field other)
    (path : String) (type : DataType) (op : Operator) (literal : Literal) :
  alike.Plans alike.predicates (applyLiteral path type field op literal)
    (applyLiteral path type other op literal)
  := by
  rw [applyLiteral.eq_def, applyLiteral.eq_def]
  split
  · apply Correspondence.Plans.fail
  · split
    · apply Correspondence.Plans.fail
    · cases op with
      | relation relation => apply Correspondence.plans_predicate (calls_relate h relation literal)
      | textMatch kind => apply Correspondence.plans_predicate (calls_find h kind literal)
      | membership kind => apply Correspondence.Plans.fail

/-- A membership stands for the same condition on fields that stand for each other. -/
theorem plans_applyLiterals {field : Field} {other : Other} (h : alike.fields field other)
    (op : Operator) (literals : List Literal) :
  alike.Plans alike.predicates (applyLiterals field op literals) (applyLiterals other op literals)
  := by
  rw [applyLiterals, applyLiterals]
  apply (Correspondence.plans_predicate (.isIn h literals)).bind
  intro found reply hfound
  split
  · apply Correspondence.plans_predicate (.not hfound)
  · apply Correspondence.Plans.done hfound

/-- Comparisons are compiled to corresponding plans. -/
theorem Agree.plans_comparison (h : Agree alike first second) (path : String) (op : Operator)
    (operand : Operand) :
  alike.Plans alike.predicates (first.comparison path op operand)
    (second.comparison path op operand)
  := by
  rw [comparison, comparison]
  apply (h.plans_resolve path).bind
  intro resolved other hresolved
  apply (h.plans_folded hresolved).bind
  intro field lowered hfield
  rw [h.coercion_eq, h.type_eq resolved other hresolved]
  split
  · apply (Correspondence.plans_ofExcept _).bind
    rintro literal _ rfl
    apply plans_applyLiteral hfield
  · apply (Correspondence.plans_ofExcept _).bind
    rintro literals _ rfl
    apply plans_applyLiterals hfield
  · apply Correspondence.Plans.fail

/-! ### Expressions -/

theorem plans_opposite {condition : Option Predicate} {other : Option Condition}
    (h : Option.Rel alike.predicates condition other) :
  alike.Plans (Option.Rel alike.predicates) (opposite condition) (opposite other)
  := by
  cases h with
  | none => apply Correspondence.Plans.done .none
  | some hcondition =>
      apply Correspondence.Plans.ask (.not hcondition)
      intro answer reply hanswer
      apply Correspondence.Plans.done (.some hanswer)

theorem plans_joined (op : Connective) {left right : Option Predicate}
    {first second : Option Condition} (hleft : Option.Rel alike.predicates left first)
    (hright : Option.Rel alike.predicates right second) :
  alike.Plans (Option.Rel alike.predicates) (joined op left right) (joined op first second)
  := by
  cases hright with
  | none => apply Correspondence.Plans.done hleft
  | some hright =>
      cases hleft with
      | none => apply Correspondence.Plans.done (.some hright)
      | some hleft =>
          apply Correspondence.Plans.ask (.join op hleft hright)
          intro answer reply hanswer
          apply Correspondence.Plans.done (.some hanswer)

mutual

/-- Expressions are compiled to corresponding plans. -/
theorem Agree.plans_compile (h : Agree alike first second) :
  ∀ expr : FilterExpr,
    alike.Plans (Option.Rel alike.predicates) (first.compile expr) (second.compile expr)
  | .empty => by
      rw [compile, compile]
      apply Correspondence.Plans.done .none
  | .comparison path op operand => by
      rw [compile, compile]
      apply (h.plans_comparison path op operand).bind
      intro condition other hcondition
      apply Correspondence.Plans.done (.some hcondition)
  | .group op children => by
      rw [compile, compile]
      apply h.plans_compileAll op children .none
  | .negation child => by
      rw [compile, compile]
      apply (h.plans_compile child).bind
      intro condition other hcondition
      apply plans_opposite hcondition

/-- The conditions of a group are compiled to corresponding plans, on top of conditions that stand
for each other. -/
theorem Agree.plans_compileAll (h : Agree alike first second) (op : Connective) :
  ∀ (children : List FilterExpr) {before : Option Predicate} {earlier : Option Condition},
    Option.Rel alike.predicates before earlier →
      alike.Plans (Option.Rel alike.predicates) (first.compileAll op before children)
        (second.compileAll op earlier children)
  | [], _, _, hbefore => by
      rw [compileAll, compileAll]
      apply Correspondence.Plans.done hbefore
  | child :: rest, _, _, hbefore => by
      rw [compileAll, compileAll]
      apply (h.plans_compile child).bind
      intro condition other hcondition
      apply (plans_joined op hbefore hcondition).bind
      intro both reply hboth
      apply h.plans_compileAll op rest hboth

end

end Compiler

end RowFilter
