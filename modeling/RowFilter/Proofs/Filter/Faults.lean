import RowFilter.Proofs.Batch.Faults
import RowFilter.Proofs.Filter.FailFast
import RowFilter.Proofs.Filter.Selection
import RowFilter.Proofs.Grammar.Reading

/-!
# Faults of filters

A filter that fails is to blame itself unless its first failing comparison is one that the batch
does not answer (`Batch.Unanswered`): its path leads to a field that is not to be had, or the values
of its field are not compared with its operand, or have no texts (`Filter.apply_faults_iff`).
-/

namespace RowFilter

/-! ### Unanswered comparisons -/

namespace ColumnField

/-- Whether segments lead from a field to another one. -/
def Leads : ColumnField → List String → ColumnField → Prop
  | field, [], found => found = field
  | field, name :: rest, found =>
    ∃ child, field.nested name = .ok (some child) ∧ child.Leads rest found

/-- Whether segments lead from a field to one that is not to be had. -/
def IsBlocked : ColumnField → List String → Prop
  | _, [] => False
  | field, name :: rest =>
    field.Blocks name ∨ ∃ child, field.nested name = .ok (some child) ∧ child.IsBlocked rest

/-- Whether an operator with an operand is not answered for a field, although there is nothing wrong
with the operand. -/
inductive Unanswered (coercion : Coercion) (field : ColumnField) : Operator → Operand → Prop where
  /-- The operand has a cell in the type of the field, but the values are not compared. -/
  | relation (relation : Relation) {scalar : Scalar} {literal : Literal}
      (hliteral : coercion.literal field.type scalar = .ok literal)
      (hnull : literal.isNull = false)
      (horder : relation.isOrdering = true → field.type.isOrderable = true)
      (h : field.type.Uncomparable literal) :
    Unanswered coercion field (.relation relation) (.scalar scalar)
  /-- A text is looked for in values that have none. -/
  | textMatch (kind : TextMatch) {scalar : Scalar} {literal : Literal} {fault : CastFault}
      (hliteral : coercion.literal field.type scalar = .ok literal)
      (hnull : literal.isNull = false) (h : field.column.texts = .error fault) :
    Unanswered coercion field (.textMatch kind) (.scalar scalar)
  /-- One of the operands has a cell in the type of the field, but the values are not compared. -/
  | membership (kind : Membership) {scalars : List Scalar} {earlier later : List Literal}
      {literal : Literal}
      (hliterals : coercion.literals field.type scalars = .ok (earlier ++ literal :: later))
      (hearlier : ∀ other ∈ earlier, ∃ mask, field.relate .eq other = .ok mask)
      (h : field.type.Uncomparable literal) :
    Unanswered coercion field (.membership kind) (.list scalars)

/-- Whether a field may be compared in place of a resolved one: it is that one, or both are of
texts. -/
def ReplacedBy (resolved field : ColumnField) : Prop :=
  field = resolved ∨ resolved.type.isTextual = true ∧ field.type.isTextual = true

variable {resolved field : ColumnField}

theorem ReplacedBy.uncomparable_iff (h : resolved.ReplacedBy field) {literal : Literal} :
  field.type.Uncomparable literal ↔ resolved.type.Uncomparable literal
  := by
  obtain rfl | ⟨hresolved, hfield⟩ := h
  · rfl
  · apply iff_of_false
    · apply Column.not_uncomparable_of_isTextual hfield
    · apply Column.not_uncomparable_of_isTextual hresolved

theorem ReplacedBy.eq_of_uncomparable (h : resolved.ReplacedBy field) {literal : Literal}
    (huncomparable : resolved.type.Uncomparable literal) :
  field = resolved
  := by
  obtain rfl | ⟨hresolved, _⟩ := h
  · rfl
  · cases Column.not_uncomparable_of_isTextual hresolved literal huncomparable

theorem ReplacedBy.texts_iff (h : resolved.ReplacedBy field) :
  (∃ fault, field.column.texts = .error fault) ↔ ∃ fault, resolved.column.texts = .error fault
  := by
  obtain rfl | ⟨hresolved, hfield⟩ := h
  · rfl
  · obtain ⟨written, hwritten⟩ := Column.texts_of_isTextual hfield
    obtain ⟨texts, htexts⟩ := Column.texts_of_isTextual hresolved
    rw [hwritten, htexts]
    apply iff_of_false <;> rintro ⟨fault, ⟨⟩⟩

end ColumnField

namespace Batch

/-- Whether segments lead from the root of a batch to a field. -/
def Leads (batch : Batch) : List String → ColumnField → Prop
  | [], _ => False
  | name :: rest, found => ∃ field, batch.field? name = some field ∧ field.Leads rest found

/-- Whether segments lead from the root of a batch to a field that is not to be had. -/
def IsBlocked (batch : Batch) : List String → Prop
  | [] => False
  | name :: rest => ∃ field, batch.field? name = some field ∧ field.IsBlocked rest

/-- Whether a comparison is not answered: the field is not to be had, or does not answer it. -/
def Unanswered (batch : Batch) (coercion : Coercion) (comparison : Comparison) : Prop :=
  batch.IsBlocked (Path.segments comparison.path) ∨
  ∃ field, batch.Leads (Path.segments comparison.path) field ∧
    field.Unanswered coercion comparison.op comparison.operand

end Batch

/-! ### Paths -/

variable {batch : Batch}

/-- Following segments from a field finds what they lead to. -/
theorem Path.descend_eq_ok_iff {path : String} :
  ∀ {segments : List String} {field found : ColumnField},
    (descend path segments field).run batch.backend = .ok found ↔ field.Leads segments found
  | [], field, found => by
      rw [descend, Plan.run_done, ColumnField.Leads, Except.ok.injEq, eq_comm]
  | segment :: rest, field, found => by
      rw [descend, Plan.run_ask, Except.bind_eq_ok_iff, ColumnField.Leads]
      constructor
      · rintro ⟨answer, hanswer, hfound⟩
        cases answer with
        | none => cases hfound
        | some child => exact ⟨child, hanswer, descend_eq_ok_iff.mp hfound⟩
      · rintro ⟨child, hchild, hfound⟩
        exact ⟨some child, hchild, descend_eq_ok_iff.mpr hfound⟩

/-- Following segments from a field faults if and only if they lead to one that is not to be had. -/
theorem Path.faults_descend_iff {path : String} :
  ∀ {segments : List String} {field : ColumnField},
    Faults ((descend path segments field).run batch.backend) ↔ field.IsBlocked segments
  | [], field => by
      apply iff_of_false (not_faults_ok field)
      apply id
  | segment :: rest, field => by
      rw [descend, Plan.run_ask, faults_bind_iff, ColumnField.IsBlocked]
      apply or_congr ColumnField.faults_nested_iff
      constructor
      · rintro ⟨answer, hanswer, hfaults⟩
        cases answer with
        | none => obtain ⟨fault, ⟨⟩⟩ := hfaults
        | some child => exact ⟨child, hanswer, faults_descend_iff.mp hfaults⟩
      · rintro ⟨child, hchild, hfaults⟩
        exact ⟨some child, hchild, faults_descend_iff.mpr hfaults⟩

/-- Following a path finds the field that its segments lead to. -/
theorem Path.resolve_eq_ok_iff {path : String} {found : ColumnField} :
  (resolve ColumnField.type path).run batch.backend = .ok found
    ↔ batch.Leads (segments path) found
  := by
  rw [resolve]
  split
  · next hsegments =>
      rw [hsegments]
      apply iff_of_false
      · rintro ⟨⟩
      · apply id
  · next first rest hsegments =>
      rw [hsegments, Plan.run_ask, Except.bind_eq_ok_iff, Batch.Leads]
      constructor
      · rintro ⟨answer, hanswer, hfound⟩
        cases answer with
        | none => cases hfound
        | some field =>
            dsimp only at hfound
            rw [Plan.run_bind] at hfound
            obtain ⟨between, hbetween, ⟨⟩⟩ := Except.bind_eq_ok_iff.mp hfound
            exact ⟨field, Except.ok.inj hanswer, descend_eq_ok_iff.mp hbetween⟩
      · rintro ⟨field, hfield, hfound⟩
        refine ⟨some field, congrArg Except.ok hfield, ?_⟩
        dsimp only
        rw [Plan.run_bind, descend_eq_ok_iff.mpr hfound]
        rfl

/-- Following a path faults if and only if it leads to a field that is not to be had. -/
theorem Path.faults_resolve_iff {path : String} :
  Faults ((resolve ColumnField.type path).run batch.backend)
    ↔ batch.IsBlocked (segments path)
  := by
  rw [resolve]
  split
  · next hsegments =>
      rw [hsegments]
      apply iff_of_false
      · rintro ⟨fault, ⟨⟩⟩
      · apply id
  · next first rest hsegments =>
      rw [hsegments, Plan.run_ask, faults_bind_iff, Batch.IsBlocked]
      constructor
      · rintro (⟨fault, ⟨⟩⟩ | ⟨answer, hanswer, hfaults⟩)
        cases answer with
        | none => obtain ⟨fault, ⟨⟩⟩ := hfaults
        | some field =>
            dsimp only at hfaults
            rw [Plan.run_bind, faults_bind_iff] at hfaults
            obtain hfaults | ⟨found, _, ⟨fault, ⟨⟩⟩⟩ := hfaults
            exact ⟨field, Except.ok.inj hanswer, faults_descend_iff.mp hfaults⟩
      · rintro ⟨field, hfield, hfaults⟩
        refine Or.inr ⟨some field, congrArg Except.ok hfield, ?_⟩
        dsimp only
        rw [Plan.run_bind, faults_bind_iff]
        apply Or.inl (faults_descend_iff.mpr hfaults)

/-! ### Comparisons -/

namespace Coercion

/-- Making a literal does not fault. -/
theorem not_faults_literal (coercion : Coercion) (type : DataType) (scalar : Scalar) :
  ¬ Faults (coercion.literal type scalar)
  := by
  rintro ⟨fault, h⟩
  obtain ⟨value, message, ⟨⟩⟩ := literal_eq_error h

theorem not_faults_literals (coercion : Coercion) (type : DataType) (scalars : List Scalar) :
  ¬ Faults (coercion.literals type scalars)
  := by
  rintro ⟨fault, h⟩
  obtain ⟨value, message, ⟨⟩⟩ := literals_eq_error h

end Coercion

namespace Compiler

/-- A field is compared itself, or texts are compared in its place. -/
theorem run_folded (coercion : Coercion) (resolved : ColumnField) :
  ∃ field, (folded ⟨ColumnField.type, coercion⟩ resolved).run batch.backend = .ok field ∧
    resolved.ReplacedBy field
  := by
  rw [folded]
  split
  · next hfolds =>
      rw [Coercion.foldsCase, Bool.and_eq_true] at hfolds
      obtain ⟨lowered, hlowered, htextual⟩ := ColumnField.lower_of_isTextual hfolds.2
      refine ⟨lowered, ?_, .inr ⟨hfolds.2, htextual⟩⟩
      apply Eq.trans (Plan.run_field _ _) hlowered
  · exact ⟨resolved, rfl, .inl rfl⟩

/-- A relation to a literal that is not null is a comparison. -/
theorem relate_of_isNull_eq_false {field : ColumnField} {relation : Relation} {literal : Literal}
    (h : literal.isNull = false) :
  (relate field relation literal : Call ColumnField Mask .predicate)
    = .compare relation field literal
  := by
  cases literal with
  | null => cases h
  | _ => cases relation <;> rfl

/-- A relation faults if and only if the values of the field are not compared with the literal,
which is not null. -/
theorem faults_relation_iff {path : String} {type : DataType} {field : ColumnField}
    {relation : Relation} {literal : Literal} :
  Faults ((applyLiteral path type field (.relation relation) literal).run batch.backend)
    ↔ literal.isNull = false ∧ (relation.isOrdering = true → type.isOrderable = true) ∧
      field.type.Uncomparable literal
  := by
  rw [applyLiteral.eq_def]
  split
  · next hunordered =>
      rw [Bool.and_eq_true] at hunordered
      obtain ⟨hordering, hunordered⟩ := hunordered
      apply iff_of_false
      · rintro ⟨fault, ⟨⟩⟩
      · rintro ⟨_, horder, _⟩
        rw [horder hordering] at hunordered
        cases hunordered
  · next hordered =>
      have horder : relation.isOrdering = true → type.isOrderable = true := by
        intro hordering
        cases horderable : type.isOrderable with
        | true => rfl
        | false =>
            refine absurd ?_ hordered
            rw [Bool.and_eq_true]
            exact ⟨hordering, by rw [horderable]; rfl⟩
      rw [and_iff_right horder]
      cases hnull : literal.isNull with
      | true =>
          apply iff_of_false _ (by rintro ⟨⟨⟩, _⟩)
          cases literal with
          | null => cases relation <;> (rintro ⟨fault, ⟨⟩⟩)
          | _ => cases hnull
      | false =>
          rw [and_iff_right rfl, Bool.false_and, if_neg Bool.false_ne_true]
          dsimp only
          rw [Plan.run_predicate, relate_of_isNull_eq_false hnull]
          apply Column.faults_relate_iff

/-- Looking for a text faults if and only if the literal is not null and the values of the field
have no texts. -/
theorem faults_textMatch_iff {path : String} {type : DataType} {field : ColumnField}
    {kind : TextMatch} {literal : Literal} :
  Faults ((applyLiteral path type field (.textMatch kind) literal).run batch.backend)
    ↔ literal.isNull = false ∧ ∃ fault, field.column.texts = .error fault
  := by
  cases hnull : literal.isNull with
  | true =>
      apply iff_of_false
      · rw [applyLiteral.eq_def, hnull]
        rintro ⟨fault, ⟨⟩⟩
      · rintro ⟨⟨⟩, _⟩
  | false =>
      have hplan : (applyLiteral path type field (.textMatch kind) literal :
          Plan ColumnField Mask Mask) = .predicate (find field kind literal) := by
        rw [applyLiteral.eq_def, hnull]
        rfl
      rw [and_iff_right rfl, hplan, Plan.run_predicate]
      cases kind <;> apply ColumnField.faults_like_iff

/-- A membership faults if and only if the values of the field are not compared with one of the
literals, and are with those before it. -/
theorem faults_applyLiterals_iff {field : ColumnField} (h : field.column.Fits batch.rows)
    {op : Operator} {literals : List Literal} :
  Faults ((applyLiterals field op literals).run batch.backend)
    ↔ ∃ earlier literal later, literals = earlier ++ literal :: later ∧
      (∀ other ∈ earlier, ∃ mask, field.relate .eq other = .ok mask) ∧
      field.type.Uncomparable literal
  := by
  have hnowhere :
      (Mask.ofBools (List.replicate field.column.rows false)).IsDefinite batch.rows := by
    apply Mask.isDefinite_ofBools
    rw [List.length_replicate, h.rows_eq]
  rw [applyLiterals, Plan.run_bind, Plan.run_predicate,
    ← ColumnField.faults_isInOr_iff h hnowhere]
  apply faults_bind_iff.trans
  apply or_iff_left
  rintro ⟨found, _, hfaults⟩
  split at hfaults
  · rw [Plan.run_predicate] at hfaults
    obtain ⟨fault, ⟨⟩⟩ := hfaults
  · obtain ⟨fault, ⟨⟩⟩ := hfaults

variable {coercion : Coercion} {resolved field : ColumnField}

/-- A relation to an operand faults if and only if it is unanswered. -/
theorem faults_relation_scalar_iff (h : resolved.ReplacedBy field) {path : String}
    {relation : Relation} {scalar : Scalar} :
  Faults (((Plan.ofExcept (coercion.literal resolved.type scalar)).bind
      (applyLiteral path resolved.type field (.relation relation))).run batch.backend)
    ↔ resolved.Unanswered coercion (.relation relation) (.scalar scalar)
  := by
  rw [Plan.run_bind, Plan.run_ofExcept, faults_bind_iff,
    or_iff_right (coercion.not_faults_literal _ _)]
  constructor
  · rintro ⟨literal, hliteral, hfaults⟩
    obtain ⟨hnull, horder, huncomparable⟩ := faults_relation_iff.mp hfaults
    exact .relation relation hliteral hnull horder (h.uncomparable_iff.mp huncomparable)
  · intro hunanswered
    cases hunanswered with
    | relation _ hliteral hnull horder huncomparable =>
        refine ⟨_, hliteral, faults_relation_iff.mpr ⟨hnull, horder, ?_⟩⟩
        apply h.uncomparable_iff.mpr huncomparable

/-- Looking for an operand in texts faults if and only if it is unanswered. -/
theorem faults_textMatch_scalar_iff (h : resolved.ReplacedBy field) {path : String}
    {kind : TextMatch} {scalar : Scalar} :
  Faults (((Plan.ofExcept (coercion.literal resolved.type scalar)).bind
      (applyLiteral path resolved.type field (.textMatch kind))).run batch.backend)
    ↔ resolved.Unanswered coercion (.textMatch kind) (.scalar scalar)
  := by
  rw [Plan.run_bind, Plan.run_ofExcept, faults_bind_iff,
    or_iff_right (coercion.not_faults_literal _ _)]
  constructor
  · rintro ⟨literal, hliteral, hfaults⟩
    obtain ⟨hnull, htexts⟩ := faults_textMatch_iff.mp hfaults
    obtain ⟨fault, hfault⟩ := h.texts_iff.mp htexts
    exact .textMatch kind hliteral hnull hfault
  · intro hunanswered
    cases hunanswered with
    | textMatch _ hliteral hnull hfault =>
        refine ⟨_, hliteral, faults_textMatch_iff.mpr ⟨hnull, ?_⟩⟩
        apply h.texts_iff.mpr ⟨_, hfault⟩

/-- A membership in operands faults if and only if it is unanswered. -/
theorem faults_membership_list_iff (h : resolved.ReplacedBy field)
    (hfits : field.column.Fits batch.rows) {kind : Membership} {scalars : List Scalar} :
  Faults (((Plan.ofExcept (coercion.literals resolved.type scalars)).bind
      (applyLiterals field (.membership kind))).run batch.backend)
    ↔ resolved.Unanswered coercion (.membership kind) (.list scalars)
  := by
  rw [Plan.run_bind, Plan.run_ofExcept, faults_bind_iff,
    or_iff_right (coercion.not_faults_literals _ _)]
  constructor
  · rintro ⟨literals, hliterals, hfaults⟩
    obtain ⟨earlier, literal, later, rfl, hearlier, huncomparable⟩ :=
      (faults_applyLiterals_iff hfits).mp hfaults
    have huncomparable := h.uncomparable_iff.mp huncomparable
    obtain rfl := h.eq_of_uncomparable huncomparable
    exact .membership kind hliterals hearlier huncomparable
  · intro hunanswered
    cases hunanswered with
    | membership _ hliterals hearlier huncomparable =>
        obtain rfl := h.eq_of_uncomparable huncomparable
        refine ⟨_, hliterals, (faults_applyLiterals_iff hfits).mpr ?_⟩
        exact ⟨_, _, _, rfl, hearlier, huncomparable⟩

/-- A comparison on a rectangular batch faults if and only if it is unanswered. -/
theorem faults_comparison_iff (h : batch.IsRectangular) (coercion : Coercion)
    (comparison : Comparison) :
  Faults ((Compiler.comparison ⟨ColumnField.type, coercion⟩ comparison.path comparison.op
      comparison.operand).run batch.backend)
    ↔ batch.Unanswered coercion comparison
  := by
  rw [Compiler.comparison, Plan.run_bind, faults_bind_iff]
  apply or_congr Path.faults_resolve_iff
  apply exists_congr
  intro resolved
  rw [← Path.resolve_eq_ok_iff]
  apply and_congr_right
  intro hresolved
  dsimp only
  rw [Plan.run_bind]
  -- Putting the field in lower case succeeds, so that only the operator is left to fault.
  obtain ⟨field, hfield, hreplaced⟩ := @run_folded batch coercion resolved
  have hfits := fits_folded (Path.fits_resolve h hresolved) hfield
  rw [hfield]
  obtain ⟨path, op, operand⟩ := comparison
  cases op with
  | relation relation =>
      cases operand with
      | scalar scalar => apply faults_relation_scalar_iff hreplaced
      | list scalars => apply iff_of_false (by rintro ⟨fault, ⟨⟩⟩) (by rintro ⟨⟩)
  | textMatch kind =>
      cases operand with
      | scalar scalar => apply faults_textMatch_scalar_iff hreplaced
      | list scalars => apply iff_of_false (by rintro ⟨fault, ⟨⟩⟩) (by rintro ⟨⟩)
  | membership kind =>
      cases operand with
      | scalar scalar => apply iff_of_false (by rintro ⟨fault, ⟨⟩⟩) (by rintro ⟨⟩)
      | list scalars => apply faults_membership_list_iff hreplaced hfits

end Compiler

namespace Batch

/-- A comparison on its own faults if and only if it is unanswered. -/
theorem faults_condition_iff (h : batch.IsRectangular) {coercion : Coercion}
    {comparison : Comparison} :
  Faults (batch.condition coercion comparison.expr) ↔ batch.Unanswered coercion comparison
  := by
  rw [← Compiler.faults_comparison_iff h, condition, Comparison.expr, Compiler.compile,
    Plan.run_bind, faults_bind_iff]
  apply or_iff_left
  rintro ⟨mask, _, fault, ⟨⟩⟩

end Batch

/-! ### Filters -/

namespace Filter

/-- A filter that cannot be read is to blame. -/
theorem isClientError_of_read {text : Option String} {error : FilterError}
    (h : Filter.read text = .error error) :
  error.isClientError = true
  := by
  have hread : FilterExpr.read text = .error error := by
    cases hexpr : FilterExpr.read text with
    | ok expr =>
        rw [Filter.read, hexpr] at h
        cases h
    | error other =>
        rw [Filter.read, hexpr] at h
        cases h
        rfl
  rw [FilterExpr.read.eq_def] at hread
  split at hread
  · cases hread
  · split at hread
    · cases hread
    · split at hread
      · cases hread
        rfl
      · next value _ =>
          have hrefusal := FilterExpr.ofJson_meets value
          rw [hread] at hrefusal
          cases error with
          | backend fault => cases hrefusal
          | _ => rfl

/-- A filter that cannot be read is to blame itself.  One that cannot be applied to a rectangular
batch is not if and only if its first failing comparison is unanswered: it leads to a field that is
not to be had, or the values of its field are not compared with its operand, or have no texts. -/
theorem apply_faults_iff {batch : Batch} (h : batch.IsRectangular) (filter : Filter)
    (otherwise : FilterConfig) :
  let coercion := filter.coercion (filter.config otherwise)
  (∀ text error, Filter.read text = .error error → error.isClientError = true) ∧
  ((∃ error, filter.apply otherwise batch = .error error ∧ error.isClientError = false) ↔
    ∃ before comparison after, filter.expr.comparisons = before ++ comparison :: after ∧
      (∀ earlier ∈ before, ∃ found, batch.condition coercion earlier.expr = .ok found) ∧
      batch.Unanswered coercion comparison)
  := by
  intro coercion
  refine ⟨?read, ?applied⟩
  case read =>
    intro text error
    apply isClientError_of_read
  case applied =>
    constructor
    · rintro ⟨error, herror, hfault⟩
      have hmask := (apply_eq_error_iff h).mp herror
      obtain ⟨before, comparison, after, hsplit, hbefore, hfails⟩ :=
        (Batch.condition_eq_error_iff h).mp hmask
      refine ⟨before, comparison, after, hsplit, hbefore, ?_⟩
      rw [← Batch.faults_condition_iff h, hfails, faults_error_iff]
      apply hfault
    · rintro ⟨before, comparison, after, hsplit, hbefore, hunanswered⟩
      obtain ⟨fault, hfault⟩ := (Batch.faults_condition_iff h).mpr hunanswered
      refine ⟨.backend fault, (apply_eq_error_iff h).mpr ?_, rfl⟩
      apply (Batch.condition_eq_error_iff h).mpr
      exact ⟨before, comparison, after, hsplit, hbefore, hfault⟩

/-- A field without values is not to be had in a record that is null. -/
theorem apply_faults_iff_blocked :
  let batch : Batch := ⟨1, [("s", .record (some [false]) [("n", .leaf .null [none])] 1)]⟩
  let isNull : Comparison := ⟨"s.n", .relation .eq, .scalar .null⟩
  let filter := Filter.ofExpr isNull.expr
  batch.IsRectangular ∧ batch.Unanswered (filter.coercion ⟨true⟩) isNull ∧
  ∃ error, filter.apply ⟨true⟩ batch = .error error ∧ error.isClientError = false
  := by
  intro batch isNull filter
  have hrect : batch.IsRectangular := by
    refine ⟨⟨rfl, ?_, rfl, trivial⟩, trivial⟩
    rintro flags ⟨⟩
    rfl
  have hunanswered : batch.Unanswered (filter.coercion ⟨true⟩) isNull := by
    have hsegments : Path.segments isNull.path = ["s", "n"] := by decide
    left
    rw [hsegments]
    exact ⟨_, rfl, .inl ⟨[false], _, 1, .leaf .null [none], rfl, rfl, by decide, rfl⟩⟩
  obtain ⟨_, happlied⟩ := apply_faults_iff hrect filter ⟨true⟩
  refine ⟨hrect, hunanswered, happlied.mpr ⟨[], isNull, [], rfl, ?_, hunanswered⟩⟩
  rintro earlier ⟨⟩

/-- Not every filter that fails is to blame: a number is looked for in records, which have no
texts. -/
theorem not_isClientError_contains :
  let batch : Batch := ⟨1, [("s", .record none [("a", .leaf (.int .w32) [some (.int 1)])] 1)]⟩
  batch.IsRectangular ∧
  ∃ filter error, Filter.read (some "[\"s\", \"contains\", 5]") = .ok filter ∧
    filter.apply ⟨true⟩ batch = .error error ∧ error.isClientError = false
  := by
  intro batch
  have hfails : (match Filter.read (some "[\"s\", \"contains\", 5]") with
      | .ok filter =>
        match filter.apply ⟨true⟩ batch with
        | .ok _ => true
        | .error error => error.isClientError
      | .error _ => true) = false := by
    decide +kernel
  refine ⟨⟨⟨rfl, by rintro flags ⟨⟩, rfl, trivial⟩, trivial⟩, ?_⟩
  split at hfails
  · next filter hread =>
      split at hfails
      · cases hfails
      · next error happlied => exact ⟨filter, error, hread, happlied, hfails⟩
  · cases hfails

end Filter

end RowFilter
