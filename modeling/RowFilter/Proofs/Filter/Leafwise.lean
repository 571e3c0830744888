import Mathlib.Data.List.Forall2
import RowFilter.Proofs.Filter.Meaning

/-!
# Expressions comparison by comparison

Two outcomes are alike when both have related results or both have related errors
(`Except.Alike`).  What an expression stands for on a batch is alike what another one stands for on
another batch, if the two are built in the same way of comparisons of which this holds
(`FilterExpr.Corresponds.condition`).  It holds of comparisons whose paths lead to fields that
answer alike, and whose operands become the same literals (`Compiler.comparison_alike`).
-/

namespace Except

variable {ε ε' α α' β β' : Type}

/-- Whether two computations both have related results or both have related errors. -/
inductive Alike (errors : ε → ε' → Prop) (results : α → α' → Prop) :
    Except ε α → Except ε' α' → Prop where
  | ok {result : α} {other : α'} (h : results result other) :
    Alike errors results (.ok result) (.ok other)
  | error {error : ε} {other : ε'} (h : errors error other) :
    Alike errors results (.error error) (.error other)

variable {errors : ε → ε' → Prop} {results : α → α' → Prop} {first : Except ε α}
  {second : Except ε' α'}

/-- Computations that are alike, followed by ones that are alike after related results, are
alike. -/
theorem Alike.bind {lasts : β → β' → Prop} {next : α → Except ε β} {after : α' → Except ε' β'}
    (h : first.Alike errors results second)
    (hnext : ∀ result other, results result other →
      (next result).Alike errors lasts (after other)) :
  (first >>= next).Alike errors lasts (second >>= after)
  := by
  cases h with
  | ok h => apply hnext _ _ h
  | error h => apply Alike.error h

/-- Computations that are alike are so for all relations that hold more often. -/
theorem Alike.mono {others : ε → ε' → Prop} {lasts : α → α' → Prop}
    (h : first.Alike errors results second)
    (herrors : ∀ error other, errors error other → others error other)
    (hresults : ∀ result other, results result other → lasts result other) :
  first.Alike others lasts second
  := by
  cases h with
  | ok h => apply Alike.ok (hresults _ _ h)
  | error h => apply Alike.error (herrors _ _ h)

/-- A computation is alike itself. -/
theorem Alike.refl {errors : ε → ε → Prop} {results : α → α → Prop}
    (herrors : ∀ error, errors error error) (hresults : ∀ result, results result result)
    (outcome : Except ε α) :
  outcome.Alike errors results outcome
  := by
  cases outcome with
  | ok result => apply Alike.ok (hresults result)
  | error error => apply Alike.error (herrors error)

/-- Computations that are alike up to equality are equal. -/
theorem Alike.eq {outcome other : Except ε α} (h : outcome.Alike Eq Eq other) :
  outcome = other
  := by
  cases h with
  | ok h => rw [h]
  | error h => rw [h]

end Except

namespace RowFilter

/-! ### Expressions -/

namespace FilterExpr

mutual

/-- Whether two expressions are built in the same way of comparisons that stand for each other. -/
inductive Corresponds (leaves : Comparison → Comparison → Prop) :
    FilterExpr → FilterExpr → Prop where
  | empty : Corresponds leaves .empty .empty
  | comparison {path otherPath : String} {op otherOp : Operator} {operand otherOperand : Operand}
      (h : leaves ⟨path, op, operand⟩ ⟨otherPath, otherOp, otherOperand⟩) :
    Corresponds leaves (.comparison path op operand)
      (.comparison otherPath otherOp otherOperand)
  | group (op : Connective) {children others : List FilterExpr}
      (h : AllCorrespond leaves children others) :
    Corresponds leaves (.group op children) (.group op others)
  | negation {child other : FilterExpr} (h : Corresponds leaves child other) :
    Corresponds leaves (.negation child) (.negation other)

/-- Whether two lists of expressions are built in the same way, one by one. -/
inductive AllCorrespond (leaves : Comparison → Comparison → Prop) :
    List FilterExpr → List FilterExpr → Prop where
  | nil : AllCorrespond leaves [] []
  | cons {child other : FilterExpr} {rest others : List FilterExpr}
      (hchild : Corresponds leaves child other) (hrest : AllCorrespond leaves rest others) :
    AllCorrespond leaves (child :: rest) (other :: others)

end

variable {leaves : Comparison → Comparison → Prop}

mutual

/-- An expression corresponds to itself if its comparisons do. -/
theorem corresponds_self :
  ∀ {expr : FilterExpr}, (∀ comparison ∈ expr.comparisons, leaves comparison comparison) →
    Corresponds leaves expr expr
  | .empty, _ => .empty
  | .comparison _ _ _, h => .comparison (h _ (List.mem_singleton.mpr rfl))
  | .group op _, h => .group op (allCorrespond_self h)
  | .negation _, h => .negation (corresponds_self h)

/-- A list of expressions corresponds to itself if their comparisons do. -/
theorem allCorrespond_self :
  ∀ {children : List FilterExpr},
    (∀ comparison ∈ allComparisons children, leaves comparison comparison) →
      AllCorrespond leaves children children
  | [], _ => .nil
  | _ :: _, h => by
      rw [allComparisons, List.forall_mem_append] at h
      exact .cons (corresponds_self h.1) (allCorrespond_self h.2)

end

end FilterExpr

variable {batch other : Batch} {coercion second : Coercion}
  {errors : FilterError → FilterError → Prop}

namespace Compiler

/-- Batches take the opposite of a condition in the same way. -/
theorem run_opposite_eq (batch other : Batch) (condition : Option Mask) :
  (opposite condition : Plan ColumnField Mask (Option Mask)).run batch.backend
    = (opposite condition).run other.backend
  := by
  cases condition <;> rfl

/-- Batches join conditions in the same way. -/
theorem run_joined_eq (batch other : Batch) (op : Connective) (left right : Option Mask) :
  (joined op left right : Plan ColumnField Mask (Option Mask)).run batch.backend
    = (joined op left right).run other.backend
  := by
  cases right with
  | none => cases left <;> rfl
  | some right =>
      cases left with
      | none => rfl
      | some left =>
          rw [joined, Plan.run_ask, Plan.run_ask]
          cases op <;> rfl

end Compiler

namespace FilterExpr

variable {leaves : Comparison → Comparison → Prop}

mutual

/-- Expressions stand for alike conditions on two batches if their comparisons do. -/
theorem Corresponds.condition (hrefl : ∀ error, errors error error)
    (hleaves : ∀ comparison reply, leaves comparison reply →
      (batch.condition coercion comparison.expr).Alike errors Eq
        (other.condition second reply.expr)) :
  ∀ {expr reply : FilterExpr}, Corresponds leaves expr reply →
    (batch.condition coercion expr).Alike errors Eq (other.condition second reply)
  | _, _, .empty => .ok rfl
  | _, _, .comparison h => by apply hleaves _ _ h
  | _, _, .group op h => by
      rw [Batch.condition, Batch.condition, Compiler.compile, Compiler.compile]
      apply h.run_compileAll hrefl hleaves
  | _, _, .negation h => by
      rw [Batch.condition, Batch.condition, Compiler.compile, Compiler.compile, Plan.run_bind,
        Plan.run_bind]
      apply (h.condition hrefl hleaves).bind
      rintro condition _ rfl
      rw [Compiler.run_opposite_eq batch other]
      apply Except.Alike.refl hrefl fun _ => rfl

/-- Groups stand for alike conditions on two batches, on top of one condition, if their comparisons
do. -/
theorem AllCorrespond.run_compileAll (hrefl : ∀ error, errors error error)
    (hleaves : ∀ comparison reply, leaves comparison reply →
      (batch.condition coercion comparison.expr).Alike errors Eq
        (other.condition second reply.expr))
    (op : Connective) :
  ∀ {children replies : List FilterExpr} (before : Option Mask),
    AllCorrespond leaves children replies →
    ((Compiler.compileAll ⟨ColumnField.type, coercion⟩ op before children).run
        batch.backend).Alike errors Eq
      ((Compiler.compileAll ⟨ColumnField.type, second⟩ op before replies).run other.backend)
  | _, _, before, .nil => .ok rfl
  | _, _, before, .cons hchild hrest => by
      rw [Compiler.compileAll, Compiler.compileAll, Plan.run_bind, Plan.run_bind]
      apply (hchild.condition hrefl hleaves).bind
      rintro condition _ rfl
      rw [Plan.run_bind, Plan.run_bind, Compiler.run_joined_eq batch other]
      apply (Except.Alike.refl hrefl (fun _ => rfl) _).bind
      rintro both _ rfl
      apply hrest.run_compileAll hrefl hleaves op both

end

end FilterExpr

/-- An expression stands for alike conditions on two batches if each of its comparisons does. -/
theorem Batch.condition_alike (hrefl : ∀ error, errors error error) {expr : FilterExpr}
    (h : ∀ comparison ∈ expr.comparisons,
      (batch.condition coercion comparison.expr).Alike errors Eq
        (other.condition second comparison.expr)) :
  (batch.condition coercion expr).Alike errors Eq (other.condition second expr)
  := by
  let leaves (comparison reply : Comparison) : Prop :=
    comparison = reply ∧ comparison ∈ expr.comparisons
  have hself : FilterExpr.Corresponds leaves expr expr := by
    apply FilterExpr.corresponds_self
    intro comparison hmem
    exact ⟨rfl, hmem⟩
  apply hself.condition hrefl
  rintro comparison _ ⟨rfl, hmem⟩
  apply h comparison hmem

/-! ### Paths -/

namespace Path

variable {fields : List String → ColumnField → ColumnField → Prop} {path : String}

/-- Segments lead from related fields to related fields, if each of them does.  The relation may
depend on the segments that are left. -/
theorem descend_alike (hrefl : ∀ error, errors error error)
    (hnested : ∀ field found name rest, fields (name :: rest) field found →
      (field.nested name).Alike errors (Option.Rel (fields rest)) (found.nested name)) :
  ∀ {segments : List String} {field found : ColumnField}, fields segments field found →
    ((descend path segments field).run batch.backend).Alike errors (fields [])
      ((descend path segments found).run other.backend)
  | [], _, _, h => .ok h
  | segment :: rest, field, found, h => by
      rw [descend, descend, Plan.run_ask, Plan.run_ask]
      apply Except.Alike.bind (hnested field found segment rest h)
      intro answer reply hanswer
      cases hanswer with
      | none => exact .error (hrefl _)
      | some hchild => apply descend_alike hrefl hnested hchild

/-- A path leads to related fields in two batches, if each of its segments does. -/
theorem resolve_alike (fields : List String → ColumnField → ColumnField → Prop)
    (hrefl : ∀ error, errors error error)
    (hroot : ∀ name rest, segments path = name :: rest →
      Option.Rel (fields rest) (batch.field? name) (other.field? name))
    (hnested : ∀ field found name rest, fields (name :: rest) field found →
      (field.nested name).Alike errors (Option.Rel (fields rest)) (found.nested name)) :
  ((resolve ColumnField.type path).run batch.backend).Alike errors (fields [])
    ((resolve ColumnField.type path).run other.backend)
  := by
  rw [resolve]
  split
  · exact .error (hrefl _)
  · next first rest hsegments =>
      rw [Plan.run_ask, Plan.run_ask]
      apply Except.Alike.bind (Except.Alike.ok (hroot first rest hsegments))
      intro answer reply hanswer
      cases hanswer with
      | none => exact .error (hrefl _)
      | some hfield =>
          dsimp only
          rw [Plan.run_bind, Plan.run_bind]
          apply (descend_alike hrefl hnested hfield).bind
          intro field found h
          exact .ok h

end Path

/-! ### Comparisons -/

namespace ColumnField

/-- Whether two fields answer everything alike that is asked of a field in a comparison. -/
structure AnswersAlike (errors : FilterError → FilterError → Prop) (field found : ColumnField) :
    Prop where
  rows_eq : field.column.rows = found.column.rows
  nulls_eq : field.column.nulls = found.column.nulls
  texts_eq : field.column.texts = found.column.texts
  relate (relation : Relation) (literal : Literal) :
    (field.relate relation literal).Alike errors Eq (found.relate relation literal)

/-- A field answers as itself. -/
theorem AnswersAlike.refl (hrefl : ∀ error, errors error error) (field : ColumnField) :
  AnswersAlike errors field field
  := by
  refine ⟨rfl, rfl, rfl, ?_⟩
  intro relation literal
  apply Except.Alike.refl hrefl fun _ => rfl

variable {field found : ColumnField}

/-- Fields that answer alike have alike masks of a membership. -/
theorem AnswersAlike.isInOr (hrefl : ∀ error, errors error error)
    (h : AnswersAlike errors field found) :
  ∀ (literals : List Literal) (before : Mask),
    (field.isInOr before literals).Alike errors Eq (found.isInOr before literals)
  | [], _ => .ok rfl
  | literal :: rest, before => by
      rw [ColumnField.isInOr, ColumnField.isInOr]
      apply (h.relate .eq literal).bind
      rintro equal _ rfl
      apply (Except.Alike.refl hrefl (fun _ => rfl) _).bind
      rintro mask _ rfl
      apply h.isInOr hrefl rest mask

/-- Fields that answer alike have the same mask of a pattern. -/
theorem AnswersAlike.like_eq (h : AnswersAlike errors field found) (pattern : String)
    (expected : Bool) :
  field.like pattern expected = found.like pattern expected
  := by
  rw [like, like, h.texts_eq]

end ColumnField

namespace Compiler

variable {field found : ColumnField}

/-- The field to compare is the field itself, or its texts in lower case. -/
theorem run_folded_eq (batch : Batch) (coercion : Coercion) (field : ColumnField) :
  (folded ⟨ColumnField.type, coercion⟩ field).run batch.backend
    = if coercion.foldsCase field.type then field.lower else .ok field
  := by
  rw [folded]
  split
  · apply Plan.run_field
  · rfl

/-- Fields that answer alike stand in a relation to a literal alike. -/
theorem relate_alike (h : field.AnswersAlike errors found) (relation : Relation)
    (literal : Literal) :
  (batch.answer .predicate (relate field relation literal)).Alike errors Eq
    (other.answer .predicate (relate found relation literal))
  := by
  rw [relate.eq_def, relate.eq_def]
  split
  · rw [Batch.answer, Batch.answer, h.nulls_eq]
    apply Except.Alike.ok rfl
  · rw [Batch.answer, Batch.answer, h.nulls_eq]
    apply Except.Alike.ok rfl
  · apply h.relate

/-- Fields that answer alike hold a text alike. -/
theorem find_alike (hrefl : ∀ error, errors error error)
    (h : field.AnswersAlike errors found) (kind : TextMatch) (literal : Literal) :
  (batch.answer .predicate (find field kind literal)).Alike errors Eq
    (other.answer .predicate (find found kind literal))
  := by
  have hlike (pattern : String) (expected : Bool) :
      (field.like pattern expected).Alike errors Eq (found.like pattern expected) := by
    rw [h.like_eq]
    apply Except.Alike.refl hrefl fun _ => rfl
  cases kind <;> apply hlike

/-- Operators on a literal come out alike on fields that answer alike, if the types are in order
alike. -/
theorem applyLiteral_alike (hrefl : ∀ error, errors error error)
    (h : field.AnswersAlike errors found) {path : String} {type otherType : DataType}
    (horder : type.isOrderable = otherType.isOrderable)
    (hunordered : errors (.notComparable path type) (.notComparable path otherType))
    (op : Operator) (literal : Literal) :
  ((applyLiteral path type field op literal).run batch.backend).Alike errors Eq
    ((applyLiteral path otherType found op literal).run other.backend)
  := by
  rw [applyLiteral.eq_def, applyLiteral.eq_def, ← horder]
  split
  · apply Except.Alike.error hunordered
  · split
    · apply Except.Alike.error (hrefl _)
    · cases op with
      | relation relation =>
          dsimp only
          rw [Plan.run_predicate, Plan.run_predicate]
          apply relate_alike h
      | textMatch kind =>
          dsimp only
          rw [Plan.run_predicate, Plan.run_predicate]
          apply find_alike hrefl h
      | membership kind => apply Except.Alike.error (hrefl _)

/-- Memberships come out alike on fields that answer alike. -/
theorem applyLiterals_alike (hrefl : ∀ error, errors error error)
    (h : field.AnswersAlike errors found) (op : Operator) (literals : List Literal) :
  ((applyLiterals field op literals).run batch.backend).Alike errors Eq
    ((applyLiterals found op literals).run other.backend)
  := by
  rw [applyLiterals, applyLiterals, Plan.run_bind, Plan.run_bind, Plan.run_predicate,
    Plan.run_predicate]
  have hisIn : (batch.answer .predicate (.isIn field literals)).Alike errors Eq
      (other.answer .predicate (.isIn found literals)) := by
    rw [Batch.answer, Batch.answer, h.rows_eq]
    apply h.isInOr hrefl
  apply hisIn.bind
  rintro mask _ rfl
  split
  · exact .ok rfl
  · exact .ok rfl

end Compiler

/-- Whether two operands have the same shape and are made of scalars that stand for each other. -/
inductive Operand.Corresponds (scalars : Scalar → Scalar → Prop) : Operand → Operand → Prop where
  | scalar {value reply : Scalar} (h : scalars value reply) :
    Corresponds scalars (.scalar value) (.scalar reply)
  | list {values replies : List Scalar} (h : List.Forall₂ scalars values replies) :
    Corresponds scalars (.list values) (.list replies)

/-- An operand corresponds to itself if every scalar does. -/
theorem Operand.Corresponds.refl {scalars : Scalar → Scalar → Prop}
    (h : ∀ value, scalars value value) (operand : Operand) :
  Corresponds scalars operand operand
  := by
  cases operand with
  | scalar value => apply Corresponds.scalar (h value)
  | list values =>
      apply Corresponds.list
      rw [List.forall₂_same]
      intro value _
      apply h value

/-- Operands that correspond do so for all relations that hold more often. -/
theorem Operand.Corresponds.mono {scalars others : Scalar → Scalar → Prop}
    {operand answer : Operand} (h : operand.Corresponds scalars answer)
    (hscalars : ∀ value reply, scalars value reply → others value reply) :
  operand.Corresponds others answer
  := by
  cases h with
  | scalar hvalue => exact .scalar (hscalars _ _ hvalue)
  | list hvalues => exact .list (hvalues.imp hscalars)

/-- Lists of operands that become alike literals one by one do so together. -/
theorem Coercion.literals_alike {type otherType : DataType} {values replies : List Scalar}
    (h : List.Forall₂ (fun value reply =>
      (coercion.literal type value).Alike errors Eq (second.literal otherType reply))
        values replies) :
  (coercion.literals type values).Alike errors Eq (second.literals otherType replies)
  := by
  induction h with
  | nil => exact .ok rfl
  | cons hfirst hrest ih =>
      rw [literals, literals]
      apply hfirst.bind
      rintro literal _ rfl
      apply ih.bind
      rintro others _ rfl
      exact .ok rfl

namespace Compiler

/-- Whether two comparisons are read alike once their paths have led to fields: the fields answer
alike in the letter case in which they are compared, and the operands become alike literals. -/
structure ReadAlike (errors : FilterError → FilterError → Prop) (batch other : Batch)
    (coercion second : Coercion) (comparison reply : Comparison) (field found : ColumnField) :
    Prop where
  folded :
    ((folded ⟨ColumnField.type, coercion⟩ field).run batch.backend).Alike errors
      (ColumnField.AnswersAlike errors)
      ((folded ⟨ColumnField.type, second⟩ found).run other.backend)
  orderable_eq : field.type.isOrderable = found.type.isOrderable
  unordered :
    errors (.notComparable comparison.path field.type) (.notComparable reply.path found.type)
  operand :
    comparison.operand.Corresponds (fun value scalar =>
      (coercion.literal field.type value).Alike errors Eq (second.literal found.type scalar))
      reply.operand
  refused :
    errors (.grammar (.operandRefused comparison.op comparison.path comparison.operand))
      (.grammar (.operandRefused reply.op reply.path reply.operand))

/-- Comparisons of one path by one operator come out alike on two batches, if the path leads to
fields for which they are read alike. -/
theorem comparison_alike (hrefl : ∀ error, errors error error)
    {fields : ColumnField → ColumnField → Prop} {path : String} {op : Operator}
    {operand answer : Operand}
    (hresolve : ((Path.resolve ColumnField.type path).run batch.backend).Alike errors fields
      ((Path.resolve ColumnField.type path).run other.backend))
    (hread : ∀ field found,
      (Path.resolve ColumnField.type path).run batch.backend = .ok field →
      (Path.resolve ColumnField.type path).run other.backend = .ok found → fields field found →
        ReadAlike errors batch other coercion second ⟨path, op, operand⟩ ⟨path, op, answer⟩
          field found) :
  (batch.condition coercion (.comparison path op operand)).Alike errors Eq
    (other.condition second (.comparison path op answer))
  := by
  rw [Batch.condition, Batch.condition, compile, compile, Plan.run_bind, Plan.run_bind]
  suffices hcompared :
      ((comparison ⟨ColumnField.type, coercion⟩ path op operand).run batch.backend).Alike errors Eq
        ((comparison ⟨ColumnField.type, second⟩ path op answer).run other.backend) by
    apply hcompared.bind
    rintro mask _ rfl
    exact .ok rfl
  rw [Compiler.comparison, Compiler.comparison, Plan.run_bind, Plan.run_bind]
  generalize hfirst : (Path.resolve ColumnField.type path).run batch.backend = first at hresolve ⊢
  generalize hlast : (Path.resolve ColumnField.type path).run other.backend = last at hresolve ⊢
  cases hresolve with
  | error h => exact .error h
  | @ok field found h =>
      obtain ⟨hfolded, horder, hunordered, hoperand, hrefused⟩ := hread field found hfirst hlast h
      apply Eq.subst (motive := fun outcome => Except.Alike errors Eq outcome _)
        (Plan.run_bind _ _ _).symm
      apply Eq.subst (motive := fun outcome => Except.Alike errors Eq _ outcome)
        (Plan.run_bind _ _ _).symm
      apply hfolded.bind
      intro lowered reply hanswers
      cases hoperand with
      | scalar hvalue =>
          cases htakes : op.takesList with
          | true => exact .error hrefused
          | false =>
              dsimp only
              rw [Plan.run_bind, Plan.run_bind, Plan.run_ofExcept, Plan.run_ofExcept]
              apply hvalue.bind
              rintro literal _ rfl
              apply applyLiteral_alike hrefl hanswers horder hunordered
      | list hvalues =>
          cases htakes : op.takesList with
          | true =>
              dsimp only
              rw [Plan.run_bind, Plan.run_bind, Plan.run_ofExcept, Plan.run_ofExcept]
              apply (Coercion.literals_alike hvalues).bind
              rintro literals _ rfl
              apply applyLiterals_alike hrefl hanswers
          | false => exact .error hrefused

end Compiler

end RowFilter
