import RowFilter.Proofs.Batch.Recased
import RowFilter.Proofs.Filter.Mirrored
import RowFilter.Proofs.Plan.Calls

/-!
# Letter case

Whether letter case counts matters for comparisons with texts only: the plans of others are the same
(`Compiler.sameOn_comparison`, `Compiler.sameOn_compile`).  Where it does not count, texts that are
the same in lower case are interchangeable, in columns and in operands
(`FilterExpr.Corresponds.condition_recased`).  `FilterExpr.condition_letterCase` states both.
-/

namespace RowFilter

variable {Field Predicate : Type}

/-! ### Fields without texts -/

namespace Coercion

theorem foldsCase_of_not_isTextual (coercion : Coercion) {type : DataType}
    (h : type.isTextual = false) :
  coercion.foldsCase type = false
  := by
  rw [foldsCase, h, Bool.and_false]

/-- Where fields are not put in lower case, literals are not either. -/
theorem fold_of_not_foldsCase {coercion : Coercion} {type : DataType}
    (h : coercion.foldsCase type = false) (literal : Literal) :
  coercion.fold type literal = literal
  := by
  cases literal with
  | text s => rw [fold, h, if_neg Bool.false_ne_true]
  | _ => rfl

/-- The literal of an operand depends on whether letter case counts for types of texts only. -/
theorem literal_eq_of_not_isTextual {converter : Converter} {type : DataType}
    (h : type.isTextual = false) (counts other : Bool) (scalar : Scalar) :
  literal ⟨converter, counts⟩ type scalar = literal ⟨converter, other⟩ type scalar
  := by
  cases scalar with
  | text s =>
      simp only [literal]
      cases converter s type with
      | ok converted =>
          dsimp only
          rw [fold_of_not_foldsCase (foldsCase_of_not_isTextual _ h),
            fold_of_not_foldsCase (foldsCase_of_not_isTextual _ h)]
      | error message => rfl
  | _ => rfl

theorem literals_eq_of_not_isTextual {converter : Converter} {type : DataType}
    (h : type.isTextual = false) (counts other : Bool) (scalars : List Scalar) :
  literals ⟨converter, counts⟩ type scalars = literals ⟨converter, other⟩ type scalars
  := by
  induction scalars with
  | nil => rfl
  | cons scalar rest ih => rw [literals, literals, literal_eq_of_not_isTextual h counts other, ih]

end Coercion

namespace Compiler

variable {compiler : Compiler Field} {backend : Backend Field Predicate}
  {typeOf : Field → DataType} {converter : Converter}

/-- A field without texts is compared itself. -/
theorem folded_of_not_isTextual {field : Field} (h : (typeOf field).isTextual = false)
    (counts : Bool) :
  (folded ⟨typeOf, ⟨converter, counts⟩⟩ field : Plan Field Predicate Field) = .done field
  := by
  rw [folded, Coercion.foldsCase_of_not_isTextual _ h, if_neg Bool.false_ne_true]

/-- The plan of a comparison whose path leads to no texts does not depend on whether letter case
counts. -/
theorem sameOn_comparison {path : String} {op : Operator} {operand : Operand}
    (h : ∀ field, (Path.resolve typeOf path).run backend = .ok field →
      (typeOf field).isTextual = false) (counts other : Bool) :
  (comparison ⟨typeOf, ⟨converter, counts⟩⟩ path op operand).SameOn backend
    (comparison ⟨typeOf, ⟨converter, other⟩⟩ path op operand)
  := by
  rw [comparison, comparison]
  apply Plan.SameOn.bind (Plan.SameOn.refl _)
  intro resolved hresolved
  have htextual := h resolved hresolved
  simp only [folded_of_not_isTextual htextual,
    Coercion.literal_eq_of_not_isTextual htextual counts other,
    Coercion.literals_eq_of_not_isTextual htextual counts other]
  apply Plan.SameOn.refl

variable {second : Compiler Field}

mutual

/-- Two plans of an expression make the same calls, and come out the same, if those of its
comparisons do. -/
theorem sameOn_compile :
  ∀ {expr : FilterExpr},
    (∀ leaf ∈ expr.comparisons, (compiler.comparison leaf.path leaf.op leaf.operand).SameOn backend
      (second.comparison leaf.path leaf.op leaf.operand)) →
    (compiler.compile expr).SameOn backend (second.compile expr)
  | .empty, _ => .refl _
  | .comparison path op operand, h => by
      rw [compile, compile]
      apply (h ⟨path, op, operand⟩ (List.mem_singleton.mpr rfl)).bind
      intro condition _
      apply Plan.SameOn.refl
  | .group op _, h => by
      rw [compile, compile]
      apply sameOn_compileAll h op none
  | .negation child, h => by
      have hchild : ∀ leaf ∈ child.comparisons,
          (compiler.comparison leaf.path leaf.op leaf.operand).SameOn backend
            (second.comparison leaf.path leaf.op leaf.operand) := h
      rw [compile, compile]
      apply (sameOn_compile hchild).bind
      intro condition _
      apply Plan.SameOn.refl

/-- Two plans of a group make the same calls, and come out the same, if those of its comparisons
do. -/
theorem sameOn_compileAll :
  ∀ {children : List FilterExpr},
    (∀ leaf ∈ FilterExpr.allComparisons children,
      (compiler.comparison leaf.path leaf.op leaf.operand).SameOn backend
        (second.comparison leaf.path leaf.op leaf.operand)) →
    ∀ (op : Connective) (before : Option Predicate),
      (compiler.compileAll op before children).SameOn backend
        (second.compileAll op before children)
  | [], _, _, _ => .refl _
  | child :: rest, h, op, before => by
      rw [FilterExpr.allComparisons, List.forall_mem_append] at h
      rw [compileAll, compileAll]
      apply (sameOn_compile h.1).bind
      intro condition _
      apply (Plan.SameOn.refl _).bind
      intro both _
      apply sameOn_compileAll h.2 op both

end

end Compiler

/-! ### Recased operands -/

/-- Whether an operand is another one, or both are texts that are the same in lower case. -/
inductive Scalar.Recased : Scalar → Scalar → Prop where
  | same (value : Scalar) : Recased value value
  | text {s t : String} (h : lowerText s = lowerText t) : Recased (.text s) (.text t)

/-- Whether two errors are the same, or refuse recased operands. -/
inductive FilterError.Recased : FilterError → FilterError → Prop where
  | same (error : FilterError) : Recased error error
  | refused (op : Operator) (path : String) {operand answer : Operand}
      (h : operand.Corresponds Scalar.Recased answer) :
    Recased (.grammar (.operandRefused op path operand)) (.grammar (.operandRefused op path answer))

/-- Texts stay as they are for a type of texts. -/
theorem Converter.standard_of_isTextual (dates : DateFormats) (text : String) :
  ∀ type : DataType, type.isTextual = true → standard dates text type = .ok (.text text)
  | .text _, _ => by rw [standard]
  | .dictionary _ value, h => by
      rw [standard]
      apply standard_of_isTextual dates text value h

/-- Recased operands become the same literal of a type of texts, where letter case does not
count. -/
theorem Coercion.literal_recased (dates : DateFormats) {type : DataType}
    (h : type.isTextual = true) {value answer : Scalar} (hrecased : value.Recased answer) :
  literal ⟨Converter.standard dates, false⟩ type value
    = literal ⟨Converter.standard dates, false⟩ type answer
  := by
  cases hrecased with
  | same => rfl
  | @text s t hlower =>
      have hfolds : foldsCase ⟨Converter.standard dates, false⟩ type = true := by
        rw [foldsCase, h]
        rfl
      simp only [literal, Converter.standard_of_isTextual dates _ type h, fold, hfolds, if_true,
        hlower]

/-! ### Recased batches -/

namespace ColumnField

/-- Whether the column of a field is that of another one with texts replaced. -/
structure Recased (field found : ColumnField) : Prop where
  path_eq : field.path = found.path
  column : Column.Recased field.column found.column

variable {field found : ColumnField}

theorem Recased.type_eq (h : Recased field found) :
  field.type = found.type
  := h.column.type_eq

/-- Inside recased fields, names lead to recased fields. -/
theorem Recased.nested (h : Recased field found) (name : String) :
  (field.nested name).Alike FilterError.Recased (Option.Rel Recased) (found.nested name)
  := by
  obtain ⟨path, column⟩ := field
  obtain ⟨_, other⟩ := found
  obtain ⟨⟨⟩, hcolumn⟩ := h
  cases hcolumn with
  | same =>
      apply Except.Alike.refl FilterError.Recased.same
      intro child
      cases child with
      | none => exact .none
      | some child => exact .some ⟨rfl, .same _⟩
  | texts hholds hother htype hrows hdatum =>
      rw [nested_of_not_isStruct hholds.isStruct_eq, nested_of_not_isStruct hother.isStruct_eq]
      exact .ok .none
  | dictionary key keys h => exact .ok .none
  | record valid rows hfields =>
      have hlookup := hfields.lookup name
      simp only [ColumnField.nested]
      generalize List.lookup name _ = child at hlookup
      generalize List.lookup name _ = inner at hlookup
      cases hlookup with
      | none => exact .ok .none
      | some hchild =>
          have hinside := hchild.under valid
          dsimp only
          generalize Column.under valid _ = inside at hinside
          generalize Column.under valid _ = reply at hinside
          cases hinside with
          | none => exact .error (.same _)
          | some hinside => exact .ok (.some ⟨rfl, hinside.unpack⟩)

/-- The field in lower case holds its texts in lower case. -/
theorem lower_eq_map (field : ColumnField) :
  field.lower
    = (orFault field.column.lowerTexts).map fun lowered =>
        ⟨field.path, .leaf (.text .short) (lowered.map (Option.map Cell.text))⟩
  := by
  rw [lower, Column.lowerTexts]
  cases field.column.texts with
  | error fault => rfl
  | ok written =>
      have hlowered :
          (written.map fun text => text.map fun s => Cell.text (lowerText s))
            = (written.map (Option.map lowerText)).map (Option.map Cell.text) := by
        rw [List.map_map]
        apply List.map_congr_left
        intro text _
        cases text <;> rfl
      apply congrArg fun cells => Except.ok (mk field.path (.leaf (.text .short) cells))
      apply hlowered

/-- Recased fields are the same in lower case. -/
theorem Recased.lower_eq (h : Recased field found) :
  field.lower = found.lower
  := by
  rw [lower_eq_map, lower_eq_map, h.column.lowerTexts_eq, h.path_eq]

end ColumnField

/-- Whether a batch is another one with texts replaced by ones that are the same in lower case. -/
structure Batch.Recased (batch other : Batch) : Prop where
  rows_eq : batch.rows = other.rows
  columns : Column.FieldsRecased batch.columns other.columns

variable {batch other : Batch}

/-- At the root of recased batches, names lead to recased fields. -/
theorem Batch.Recased.field? (h : batch.Recased other) (name : String) :
  Option.Rel ColumnField.Recased (batch.field? name) (other.field? name)
  := by
  have hlookup := h.columns.lookup name
  rw [Batch.field?, Batch.field?]
  generalize batch.columns.lookup name = column at hlookup
  generalize other.columns.lookup name = found at hlookup
  cases hlookup with
  | none => exact .none
  | some hcolumn => exact .some ⟨rfl, hcolumn.unpack⟩

/-- In recased batches, paths lead to recased fields. -/
theorem Batch.Recased.resolve (h : batch.Recased other) (path : String) :
  ((Path.resolve ColumnField.type path).run batch.backend).Alike FilterError.Recased
    ColumnField.Recased ((Path.resolve ColumnField.type path).run other.backend)
  := by
  apply Path.resolve_alike (fun _ => ColumnField.Recased) FilterError.Recased.same
  · intro name rest _
    apply h.field? name
  · intro field found name rest hfield
    apply hfield.nested name

/-! ### Recased comparisons -/

/-- Whether a comparison on a batch is another one, or both compare a field of texts, of one path
and by one operator, with recased operands. -/
inductive Comparison.Recased (batch : Batch) : Comparison → Comparison → Prop where
  | same (comparison : Comparison) : Recased batch comparison comparison
  | operand {path : String} (op : Operator) {operand answer : Operand}
      (htextual : ∀ field, batch.Leads (Path.segments path) field → field.type.isTextual = true)
      (h : operand.Corresponds Scalar.Recased answer) :
    Recased batch ⟨path, op, operand⟩ ⟨path, op, answer⟩

/-- Recased comparisons are of the same path and operator. -/
theorem Comparison.Recased.same_path {comparison reply : Comparison}
    (h : comparison.Recased batch reply) :
  comparison.path = reply.path ∧ comparison.op = reply.op
  := by
  cases h with
  | same => exact ⟨rfl, rfl⟩
  | operand op htextual h => exact ⟨rfl, rfl⟩

namespace Compiler

variable {dates : DateFormats} {field found : ColumnField}

/-- Recased fields are compared alike, where letter case does not count. -/
theorem folded_recased (h : field.Recased found) :
  ((folded ⟨ColumnField.type, Converter.standard dates, false⟩ field).run batch.backend).Alike
    FilterError.Recased (ColumnField.AnswersAlike FilterError.Recased)
    ((folded ⟨ColumnField.type, Converter.standard dates, false⟩ found).run other.backend)
  := by
  rw [run_folded_eq, run_folded_eq, ← h.type_eq]
  split
  · rw [h.lower_eq]
    apply Except.Alike.refl FilterError.Recased.same
    apply ColumnField.AnswersAlike.refl FilterError.Recased.same
  · next hfolds =>
      have htextual : field.column.type.isTextual = false := by
        rw [← Bool.not_eq_true]
        apply hfolds
      apply Except.Alike.ok
      constructor
      · apply h.column.rows_eq
      · apply h.column.nulls_eq htextual
      · apply h.column.texts_eq htextual
      · intro relation literal
        rw [ColumnField.relate, ColumnField.relate, ← h.path_eq, h.column.relate_eq htextual]
        apply Except.Alike.refl FilterError.Recased.same fun _ => rfl

/-- Recased comparisons are read alike for recased fields, where letter case does not count. -/
theorem readAlike_recased {comparison reply : Comparison} (h : comparison.Recased batch reply)
    (hleads : batch.Leads (Path.segments comparison.path) field) (hfield : field.Recased found) :
  ReadAlike FilterError.Recased batch other ⟨Converter.standard dates, false⟩
    ⟨Converter.standard dates, false⟩ comparison reply field found
  := by
  constructor
  case folded => apply folded_recased hfield
  case orderable_eq => rw [hfield.type_eq]
  case unordered =>
    rw [← hfield.type_eq]
    cases h with
    | same => exact .same _
    | operand op htextual hoperand => exact .same _
  case operand =>
    rw [← hfield.type_eq]
    cases h with
    | same =>
        apply Operand.Corresponds.refl
        intro value
        apply Except.Alike.refl FilterError.Recased.same fun _ => rfl
    | operand op htextual hoperand =>
        apply hoperand.mono
        intro value reply hrecased
        rw [Coercion.literal_recased dates (htextual field hleads) hrecased]
        apply Except.Alike.refl FilterError.Recased.same fun _ => rfl
  case refused =>
    cases h with
    | same => exact .same _
    | operand op htextual hoperand => exact .refused op _ hoperand

end Compiler

namespace FilterExpr

/-- Recased expressions stand for the same condition on recased batches, where letter case does not
count, or have errors that refuse recased operands. -/
theorem Corresponds.condition_recased (dates : DateFormats) (hbatch : batch.Recased other)
    {expr reply : FilterExpr} (h : expr.Corresponds (Comparison.Recased batch) reply) :
  (batch.condition ⟨Converter.standard dates, false⟩ expr).Alike FilterError.Recased Eq
    (other.condition ⟨Converter.standard dates, false⟩ reply)
  := by
  apply h.condition FilterError.Recased.same
  rintro ⟨path, op, operand⟩ ⟨otherPath, otherOp, answer⟩ hleaf
  obtain ⟨rfl, rfl⟩ := hleaf.same_path
  apply Compiler.comparison_alike FilterError.Recased.same (hbatch.resolve path)
  intro field found hfield _ hrecased
  apply Compiler.readAlike_recased hleaf _ hrecased
  apply Path.resolve_eq_ok_iff.mp hfield

/-- Letter case counts for texts only.  Where no path of an expression leads to texts, the plan
makes the same calls, and comes out the same, whether letter case counts or not; so it does where
this holds of each comparison with texts.  Where letter case does not count, texts that are the same
in lower case are interchangeable, in the columns of a batch and in the operands that are compared
with texts. -/
theorem condition_letterCase :
  (∀ (Field Predicate : Type) (typeOf : Field → DataType) (backend : Backend Field Predicate)
    (converter : Converter) (expr : FilterExpr),
    let counting (counts : Bool) : Compiler Field := ⟨typeOf, converter, counts⟩
    ((∀ path ∈ expr.paths, ∀ field, (Path.resolve typeOf path).run backend = .ok field →
      (typeOf field).isTextual = false) →
      ((counting true).compile expr).SameOn backend ((counting false).compile expr)) ∧
    ((∀ leaf ∈ expr.comparisons, ∀ field,
      (Path.resolve typeOf leaf.path).run backend = .ok field → (typeOf field).isTextual = true →
      ((counting true).comparison leaf.path leaf.op leaf.operand).SameOn backend
        ((counting false).comparison leaf.path leaf.op leaf.operand)) →
      ((counting true).compile expr).SameOn backend ((counting false).compile expr))) ∧
  ∀ (dates : DateFormats) (batch other : Batch) (expr reply : FilterExpr), batch.Recased other →
    expr.Corresponds (Comparison.Recased batch) reply →
    (batch.condition ⟨Converter.standard dates, false⟩ expr).Alike FilterError.Recased Eq
      (other.condition ⟨Converter.standard dates, false⟩ reply)
  := by
  refine ⟨?counting, ?recased⟩
  case counting =>
    intro Field Predicate typeOf backend converter expr counting
    constructor
    · intro h
      apply Compiler.sameOn_compile
      intro leaf hleaf
      apply Compiler.sameOn_comparison
      apply h leaf.path
      rw [paths_eq]
      apply List.mem_map_of_mem hleaf
    · intro h
      apply Compiler.sameOn_compile
      intro leaf hleaf
      by_cases htextual : ∃ field, (Path.resolve typeOf leaf.path).run backend = .ok field ∧
        (typeOf field).isTextual = true
      · obtain ⟨field, hfield, htextual⟩ := htextual
        apply h leaf hleaf field hfield htextual
      · apply Compiler.sameOn_comparison
        intro field hfield
        rw [← Bool.not_eq_true]
        intro hfalse
        apply htextual ⟨field, hfield, hfalse⟩
  case recased =>
    intro dates batch other expr reply hbatch h
    apply h.condition_recased dates hbatch

/-- Texts in a dictionary inside a record, compared with a list in other letters, and a number. -/
theorem condition_letterCase_nested :
  let holding (text : String) : Batch := ⟨2,
    [("s", .record (some [true, false])
      [("t", .dictionary (.int .w32) [some 0, some 0]
        (.leaf (.text .short) [some (.text text)]))] 2),
     ("n", .leaf (.int .w64) [some (.int 8), some (.int 3)])]⟩
  let large : FilterExpr := .negation (.comparison "n" (.relation .le) (.scalar (.text " 5 ")))
  let among (text : String) : FilterExpr :=
    .group .and [.comparison "s.t" (.membership .anyOf) (.list [.null, .text text]), large]
  let coercion (counts : Bool) : Coercion := ⟨Converter.standard DateFormats.default, counts⟩
  ((Path.resolve ColumnField.type "n").run (holding "Ab").backend
      = .ok ⟨"n", .leaf (.int .w64) [some (.int 8), some (.int 3)]⟩ ∧
    (Compiler.compile ⟨ColumnField.type, coercion true⟩ large).SameOn (holding "Ab").backend
      (Compiler.compile ⟨ColumnField.type, coercion false⟩ large)) ∧
  (holding "Ab").Recased (holding "aB") ∧
  (among "AB").Corresponds (Comparison.Recased (holding "Ab")) (among "ab") ∧
  (holding "Ab").condition (coercion false) (among "AB") = .ok (some [some true, some false]) ∧
  (holding "aB").condition (coercion false) (among "ab") = .ok (some [some true, some false])
  := by
  intro holding large among coercion
  have hresolve : (Path.resolve ColumnField.type "n").run (holding "Ab").backend
      = .ok ⟨"n", .leaf (.int .w64) [some (.int 8), some (.int 3)]⟩ := rfl
  have hcell : lowerText "Ab" = lowerText "aB" :=
    calc lowerText "Ab" = "ab" := rfl
      _ = lowerText "aB" := rfl
  have hoperand : lowerText "AB" = lowerText "ab" :=
    calc lowerText "AB" = "ab" := rfl
      _ = lowerText "ab" := rfl
  have hbatch : (holding "Ab").Recased (holding "aB") := by
    refine ⟨rfl, .cons "s" (.record _ _ (.cons "t" (.dictionary _ _ ?_) .nil))
      (.cons "n" (.same _) .nil)⟩
    refine .texts ?_ ?_ rfl rfl ?_
    · exact ⟨.short, rfl⟩
    · exact ⟨.short, rfl⟩
    · intro row
      cases row with
      | zero => exact congrArg some hcell
      | succ row => rfl
  have hexpr : (among "AB").Corresponds (Comparison.Recased (holding "Ab")) (among "ab") := by
    apply FilterExpr.Corresponds.group
    apply FilterExpr.AllCorrespond.cons
    · apply FilterExpr.Corresponds.comparison
      apply Comparison.Recased.operand
      · rintro field ⟨_, ⟨⟩, _, ⟨⟩, rfl⟩
        rfl
      · exact .list (.cons (.same .null) (.cons (.text hoperand) .nil))
    · apply FilterExpr.AllCorrespond.cons _ .nil
      apply FilterExpr.corresponds_self
      intro comparison _
      exact .same comparison
  have hcondition : (holding "Ab").condition (coercion false) (among "AB")
      = .ok (some [some true, some false]) := rfl
  obtain ⟨hcounting, hrecased⟩ := condition_letterCase
  refine ⟨⟨hresolve, ?_⟩, hbatch, hexpr, hcondition, ?_⟩
  · apply (hcounting _ _ ColumnField.type (holding "Ab").backend (coercion true).converter large).1
    intro path hpath field hfield
    obtain rfl := List.mem_singleton.mp hpath
    cases hresolve.symm.trans hfield
    rfl
  · have halike := hrecased DateFormats.default (holding "Ab") (holding "aB") _ _ hbatch hexpr
    rw [hcondition] at halike
    generalize (holding "aB").condition _ (among "ab") = outcome at halike ⊢
    cases halike with
    | ok h => rw [← h]

end FilterExpr

end RowFilter
