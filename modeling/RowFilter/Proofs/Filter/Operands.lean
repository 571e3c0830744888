import Mathlib.Data.Int.Order.Basic
import Mathlib.Order.Compare
import Mathlib.Order.Lattice
import RowFilter.Proofs.Filter.Verdicts

/-!
# Operands and values

A field answers an operand if that becomes a literal to which the values of the field are related,
row by row (`ColumnField.Answers`), and refuses it if there is no such literal or no value of the
field is compared with it (`ColumnField.Refuses`).  What a relation to an operand and a membership
among several come out as follows from what the field says to each of them:
`Batch.outcome_of_takes` and `Batch.outcome_of_takes_all`, for fields that answer by cells.
-/

namespace List.Forall₂

variable {α β : Type} {related : α → β → Prop} {entries : List α} {others : List β}

/-- An entry on the left is related to one on the right. -/
theorem exists_right (h : Forall₂ related entries others) {entry : α} (hmem : entry ∈ entries) :
  ∃ other ∈ others, related entry other
  := by
  induction h with
  | nil => cases hmem
  | cons hfirst hrest ih =>
      rcases List.mem_cons.mp hmem with rfl | hmem
      · exact ⟨_, List.mem_cons_self, hfirst⟩
      · obtain ⟨other, hother, hrelated⟩ := ih hmem
        exact ⟨other, List.mem_cons_of_mem _ hother, hrelated⟩

/-- An entry on the right is related to one on the left. -/
theorem exists_left (h : Forall₂ related entries others) {other : β} (hmem : other ∈ others) :
  ∃ entry ∈ entries, related entry other
  := by
  have hflip : Forall₂ (fun other entry => related entry other) others entries := h.flip
  exact hflip.exists_right hmem

end List.Forall₂

namespace RowFilter

/-- Whether two numbers stand in a relation. -/
def Relation.Relates {α : Type} [LT α] [LE α] (relation : Relation) (a b : α) : Prop :=
  match relation with
  | .eq => a = b
  | .ne => a ≠ b
  | .gt => b < a
  | .ge => b ≤ a
  | .lt => a < b
  | .le => a ≤ b

instance {α : Type} [LinearOrder α] (relation : Relation) (a b : α) :
    Decidable (relation.Relates a b) :=
  match relation with
  | .eq => inferInstanceAs (Decidable (a = b))
  | .ne => inferInstanceAs (Decidable (a ≠ b))
  | .gt => inferInstanceAs (Decidable (b < a))
  | .ge => inferInstanceAs (Decidable (b ≤ a))
  | .lt => inferInstanceAs (Decidable (a < b))
  | .le => inferInstanceAs (Decidable (a ≤ b))

/-- A relation holds of how two numbers compare if and only if they stand in it. -/
theorem Relation.holds_compare_iff {α : Type} [LinearOrder α] (relation : Relation) (a b : α) :
  relation.holds (compare a b) = true ↔ relation.Relates a b
  := by
  cases relation with
  | eq => rw [holds, beq_iff_eq, compare_eq_iff_eq, Relates]
  | ne => rw [holds, bne_iff_ne, Ne, compare_eq_iff_eq, Relates]
  | gt => rw [holds, beq_iff_eq, compare_gt_iff_gt, Relates]
  | ge => rw [holds, bne_iff_ne, compare_ge_iff_ge, Relates]
  | lt => rw [holds, beq_iff_eq, compare_lt_iff_lt, Relates]
  | le => rw [holds, bne_iff_ne, compare_le_iff_le, Relates]

/-- Whether the values of a type are compared as they are, one by one, and are in order. -/
structure DataType.IsPlain (type : DataType) : Prop where
  isOrderable : type.isOrderable = true
  isNested : type.isNested = false
  isTextual : type.isTextual = false
  losesZone : Column.losesZone type = false

theorem DataType.isPlain_of_isInteger {type : DataType} (h : type.isInteger = true) :
  type.IsPlain
  := by
  cases type with
  | int size => exact ⟨rfl, rfl, rfl, rfl⟩
  | uint size => exact ⟨rfl, rfl, rfl, rfl⟩
  | _ => cases h

/-- Whether an operand could not be converted to the type of a field. -/
def FilterError.isConversion : FilterError → Bool
  | .conversion _ _ _ => true
  | _ => false

variable {batch : Batch} {coercion : Coercion} {path : String} {field : ColumnField} {row : Nat}
  {value : Scalar} {error : FilterError}

namespace Coercion

variable {type : DataType} {text : String}

/-- A text that is converted to a type that is not of texts is the literal that it is converted
to. -/
theorem literal_of_converter (htype : type.isTextual = false) {literal : Literal}
    (h : coercion.converter text type = .ok literal) :
  coercion.literal type (.text text) = .ok literal
  := by
  have hfold : coercion.fold type literal = literal := by
    cases literal with
    | text s => rw [fold, foldsCase, htype, Bool.and_false, if_neg Bool.false_ne_true]
    | _ => rfl
  rw [Coercion.literal, h]
  exact congrArg Except.ok hfold

/-- A text that is not converted is refused with the message of the converter. -/
theorem literal_of_converter_error {message : String}
    (h : coercion.converter text type = .error message) :
  coercion.literal type (.text text) = .error (.conversion text type (.refused message))
  := by
  rw [Coercion.literal, h]

end Coercion

namespace ColumnField

/-- A field whose type is neither that of a dictionary nor that of a record is a leaf. -/
theorem eq_leaf (hdictionary : field.type.isDictionary = false)
    (hstruct : field.type.isStruct = false) :
  ∃ cells, field.column = .leaf field.type cells
  := Column.eq_leaf hdictionary hstruct

/-- Whether an operand becomes a literal to which a field is related by some verdicts on rows. -/
def Answers (field : ColumnField) (coercion : Coercion) (value : Scalar)
    (verdict : Relation → Nat → Bool) : Prop :=
  ∃ literal, coercion.literal field.type value = .ok literal ∧ literal.isNull = false ∧
    ∀ relation, field.relate relation literal
      = .ok (Mask.ofRows field.column.rows (verdict relation))

/-- Whether an operand becomes no literal, or one with which a field is not compared. -/
def Refuses (field : ColumnField) (coercion : Coercion) (value : Scalar) (error : FilterError) :
    Prop :=
  coercion.literal field.type value = .error error ∨
  ∃ literal, coercion.literal field.type value = .ok literal ∧ literal.isNull = false ∧
    ∀ relation, field.relate relation literal = .error error

/-- A field answers an operand by the values that it and the literal are compared by. -/
theorem answers_of_operands {literal : Literal} {type : DataType} {cells : List (Option Cell)}
    {cell : Cell} (hliteral : coercion.literal field.type value = .ok literal)
    (hnull : literal.isNull = false)
    (hoperands : field.column.operands literal = .ok (type, cells, some cell))
    (hcells : cells.length = field.column.rows) (htype : type.IsPlain) :
  field.Answers coercion value fun relation row =>
    ((Column.leaf type cells).datum row).relates relation cell
  := by
  refine ⟨literal, hliteral, hnull, ?_⟩
  intro relation
  rw [← hcells]
  apply Column.relate_of_operands hoperands htype.isNested htype.losesZone

/-- A leaf answers an operand that becomes a literal with a cell in its type. -/
theorem answers_of_toCell {literal : Literal} {type : DataType} {cells : List (Option Cell)}
    {cell : Cell} (hcolumn : field.column = .leaf type cells)
    (hliteral : coercion.literal type value = .ok literal) (hnull : literal.isNull = false)
    (hoperands : field.column.operands literal = Column.castBeside literal type cells)
    (hcell : literal.toCell type = .ok (some cell)) (htype : type.IsPlain) :
  field.Answers coercion value fun relation row =>
    (field.column.datum row).relates relation cell
  := by
  rw [hcolumn]
  apply answers_of_operands _ hnull _ _ htype
  · rw [ColumnField.type, hcolumn]
    exact hliteral
  · rw [hoperands, Column.castBeside, hcell]
  · rw [hcolumn, Column.rows]

/-- A leaf refuses an operand that becomes a literal without a cell in its type. -/
theorem refuses_of_toCell {literal : Literal} {type : DataType} {cells : List (Option Cell)}
    {fault : CastFault} (hcolumn : field.column = .leaf type cells)
    (hliteral : coercion.literal type value = .ok literal) (hnull : literal.isNull = false)
    (hoperands : field.column.operands literal = Column.castBeside literal type cells)
    (hcell : literal.toCell type = .error fault) :
  field.Refuses coercion value (.conversion literal.toText type (.cast fault))
  := by
  refine .inr ⟨literal, ?_, hnull, ?_⟩
  · rw [ColumnField.type, hcolumn]
    exact hliteral
  · intro relation
    rw [relate, Column.relate, hoperands, Column.castBeside, hcell]

/-- A field that answers an operand is related to the literal that the operand becomes. -/
theorem Answers.relate_eq {verdict : Relation → Nat → Bool} {literal : Literal}
    (h : field.Answers coercion value verdict)
    (hliteral : coercion.literal field.type value = .ok literal) (relation : Relation) :
  field.relate relation literal = .ok (Mask.ofRows field.column.rows (verdict relation))
  := by
  obtain ⟨_, hok, _, hrelate⟩ := h
  cases hliteral.symm.trans hok
  apply hrelate

/-- A field that refuses an operand is not related to the literal that the operand becomes. -/
theorem Refuses.relate_eq {literal : Literal} (h : field.Refuses coercion value error)
    (hliteral : coercion.literal field.type value = .ok literal) (relation : Relation) :
  field.relate relation literal = .error error
  := by
  obtain herror | ⟨_, hok, _, hrelate⟩ := h
  · cases hliteral.symm.trans herror
  · cases hliteral.symm.trans hok
    apply hrelate

/-- An operand that becomes no literal is refused for that reason. -/
theorem Refuses.eq_of_literal {other : FilterError} (h : field.Refuses coercion value error)
    (hliteral : coercion.literal field.type value = .error other) :
  other = error
  := by
  obtain herror | ⟨_, hok, _⟩ := h
  · cases hliteral.symm.trans herror
    rfl
  · cases hliteral.symm.trans hok

/-- Whether a field is compared with the cell of an operand, or refuses it as one that cannot be
converted if it has no cell. -/
def Takes (field : ColumnField) (coercion : Coercion) (value : Scalar) : Option Cell → Prop
  | some cell => field.Answers coercion value fun relation row =>
      (field.column.datum row).relates relation cell
  | none => ∃ error, error.isConversion = true ∧ field.Refuses coercion value error

/-- A leaf takes an operand that becomes a literal by the cell of the literal in its type. -/
theorem takes_of_toCell {literal : Literal} {type : DataType} {cells : List (Option Cell)}
    {cell : Option Cell} (hcolumn : field.column = .leaf type cells)
    (hliteral : coercion.literal type value = .ok literal) (hnull : literal.isNull = false)
    (hoperands : field.column.operands literal = Column.castBeside literal type cells)
    (hcell : ∃ fault, literal.toCell type = cell.elim (.error fault) fun c => .ok (some c))
    (htype : type.IsPlain) :
  field.Takes coercion value cell
  := by
  obtain ⟨fault, hcell⟩ := hcell
  cases cell with
  | some cell => exact answers_of_toCell hcolumn hliteral hnull hoperands hcell htype
  | none => exact ⟨_, rfl, refuses_of_toCell hcolumn hliteral hnull hoperands hcell⟩

/-- A field that takes all of some operands by cells answers them by these cells. -/
theorem forall₂_answers_of_takes {α : Type} {cell : α → Option Cell} {values : List Scalar}
    {entries : List α}
    (h : List.Forall₂ (fun value entry => field.Takes coercion value (cell entry)) values entries)
    (hcells : entries.all (fun entry => (cell entry).isSome) = true) :
  List.Forall₂ (fun value entry => field.Answers coercion value fun relation row =>
    (cell entry).any fun found => (field.column.datum row).relates relation found) values entries
  := by
  induction h with
  | nil => exact .nil
  | cons hfirst hrest ih =>
      rw [List.all_cons, Bool.and_eq_true] at hcells
      obtain ⟨found, hfound⟩ := Option.isSome_iff_exists.mp hcells.1
      refine .cons ?_ (ih hcells.2)
      rw [hfound] at hfirst ⊢
      exact hfirst

/-! ### Memberships -/

/-- A membership among literals fails, with an error of a kind, if one of them is not answered, and
none is but with an error of that kind. -/
theorem isInOr_of_refuses {errors : FilterError → Prop} {literals : List Literal}
    {before : Nat → Bool}
    (hall : ∀ literal ∈ literals,
      (∃ verdict, field.relate .eq literal = .ok (Mask.ofRows field.column.rows verdict)) ∨
      ∃ error, errors error ∧ field.relate .eq literal = .error error)
    (hsome : ∃ literal ∈ literals, ∃ error, field.relate .eq literal = .error error) :
  ∃ error, errors error ∧
    field.isInOr (Mask.ofRows field.column.rows before) literals = .error error
  := by
  induction literals generalizing before with
  | nil =>
      obtain ⟨_, hmem, _⟩ := hsome
      cases hmem
  | cons literal rest ih =>
      rw [List.forall_mem_cons] at hall
      rcases hall.1 with ⟨verdict, hok⟩ | ⟨error, hkind, herror⟩
      · rw [isInOr_cons hok]
        apply ih hall.2
        obtain ⟨refused, hmem, error, herror⟩ := hsome
        rcases List.mem_cons.mp hmem with rfl | hmem
        · cases hok.symm.trans herror
        · exact ⟨refused, hmem, error, herror⟩
      · refine ⟨error, hkind, ?_⟩
        rw [isInOr, herror]
        rfl

end ColumnField

/-- A list of operands becomes the literals of its elements, or fails as one of them does. -/
theorem Coercion.literals_cases (coercion : Coercion) (type : DataType) :
  ∀ values : List Scalar,
    (∃ literals, coercion.literals type values = .ok literals ∧
      (∀ literal ∈ literals, ∃ value ∈ values, coercion.literal type value = .ok literal) ∧
      ∀ value ∈ values, ∃ literal ∈ literals, coercion.literal type value = .ok literal) ∨
    ∃ value ∈ values, ∃ error, coercion.literal type value = .error error ∧
      coercion.literals type values = .error error
  | [] => .inl ⟨[], rfl, by simp, by simp⟩
  | value :: rest => by
      rw [literals]
      cases hvalue : coercion.literal type value with
      | error error => exact .inr ⟨value, List.mem_cons_self, error, hvalue, rfl⟩
      | ok literal =>
          rcases literals_cases coercion type rest with
            ⟨others, hothers, hsource, htarget⟩ | ⟨refused, hmem, error, herror, hrest⟩
          · refine .inl ⟨literal :: others, ?_, ?_, ?_⟩
            · rw [hothers]
              rfl
            · rw [List.forall_mem_cons]
              refine ⟨⟨value, List.mem_cons_self, hvalue⟩, ?_⟩
              intro other hother
              obtain ⟨source, hmem, hsame⟩ := hsource other hother
              exact ⟨source, List.mem_cons_of_mem _ hmem, hsame⟩
            · rw [List.forall_mem_cons]
              refine ⟨⟨literal, List.mem_cons_self, hvalue⟩, ?_⟩
              intro other hother
              obtain ⟨target, hmem, hsame⟩ := htarget other hother
              exact ⟨target, List.mem_cons_of_mem _ hmem, hsame⟩
          · refine .inr ⟨refused, List.mem_cons_of_mem _ hmem, error, herror, ?_⟩
            rw [hrest]
            rfl

namespace Compiler

/-- A field that is not of texts is compared as it is. -/
theorem run_folded_of_isPlain (batch : Batch) (coercion : Coercion) (htype : field.type.IsPlain) :
  (folded ⟨ColumnField.type, coercion⟩ field).run batch.backend = .ok field
  := by
  rw [run_folded_eq, Coercion.foldsCase, htype.isTextual, Bool.and_false,
    if_neg Bool.false_ne_true]

/-- A relation to an operand comes out as the field answers it. -/
theorem run_relation (hleads : batch.Leads (Path.segments path) field)
    (htype : field.type.IsPlain) {verdict : Relation → Nat → Bool}
    (h : field.Answers coercion value verdict) (relation : Relation) :
  (comparison ⟨ColumnField.type, coercion⟩ path (.relation relation) (.scalar value)).run
      batch.backend
    = .ok (Mask.ofRows field.column.rows (verdict relation))
  := by
  obtain ⟨literal, hliteral, hnull, hrelate⟩ := h
  rw [run_comparison_scalar hleads rfl, run_folded_of_isPlain batch coercion htype, hliteral,
    ← hrelate]
  apply run_applyLiteral_relation (fun _ => htype.isOrderable) hnull

/-- A relation to an operand fails as the field refuses it. -/
theorem run_relation_error (hleads : batch.Leads (Path.segments path) field)
    (htype : field.type.IsPlain) (h : field.Refuses coercion value error) (relation : Relation) :
  (comparison ⟨ColumnField.type, coercion⟩ path (.relation relation) (.scalar value)).run
      batch.backend
    = .error error
  := by
  rw [run_comparison_scalar hleads rfl, run_folded_of_isPlain batch coercion htype]
  obtain herror | ⟨literal, hliteral, hnull, hrelate⟩ := h
  · rw [herror]
    rfl
  · rw [hliteral, ← hrelate relation]
    apply run_applyLiteral_relation (fun _ => htype.isOrderable) hnull

/-- A membership among operands comes out as the field answers them. -/
theorem run_membership (hleads : batch.Leads (Path.segments path) field)
    (htype : field.type.IsPlain) {α : Type} {verdict : α → Relation → Nat → Bool}
    {values : List Scalar} {entries : List α}
    (h : List.Forall₂ (fun value entry => field.Answers coercion value (verdict entry))
      values entries) (kind : Membership) :
  (comparison ⟨ColumnField.type, coercion⟩ path (.membership kind) (.list values)).run
      batch.backend
    = .ok (Mask.ofRows field.column.rows fun row =>
        kind.holds (entries.any fun entry => verdict entry .eq row))
  := by
  rw [run_comparison_list hleads rfl, run_folded_of_isPlain batch coercion htype]
  obtain ⟨literals, hliterals, hanswers⟩ : ∃ literals,
      coercion.literals field.type values = .ok literals ∧
      List.Forall₂ (fun literal entry =>
        field.relate .eq literal = .ok (Mask.ofRows field.column.rows (verdict entry .eq)))
        literals entries := by
    induction h with
    | nil => exact ⟨[], rfl, .nil⟩
    | cons hfirst hrest ih =>
        obtain ⟨literal, hliteral, _, hrelate⟩ := hfirst
        obtain ⟨literals, hliterals, hall⟩ := ih
        refine ⟨literal :: literals, ?_, .cons (hrelate .eq) hall⟩
        rw [Coercion.literals, hliteral, hliterals]
        rfl
  rw [hliterals]
  apply (run_applyLiterals_eq field kind literals).trans
  rw [ColumnField.isInOr_of_answers hanswers]
  cases kind with
  | anyOf => rfl
  | noneOf => exact congrArg Except.ok (Mask.not_ofRows _)

/-- A membership among operands fails, with an error of a kind, if the field refuses one of them,
and none but with an error of that kind. -/
theorem run_membership_error (hleads : batch.Leads (Path.segments path) field)
    (htype : field.type.IsPlain) {errors : FilterError → Prop} {values : List Scalar}
    (hall : ∀ value ∈ values, (∃ verdict, field.Answers coercion value verdict) ∨
      ∃ error, errors error ∧ field.Refuses coercion value error)
    (hsome : ∃ value ∈ values, ∃ error, field.Refuses coercion value error) (kind : Membership) :
  ∃ error, errors error ∧
    (comparison ⟨ColumnField.type, coercion⟩ path (.membership kind) (.list values)).run
      batch.backend = .error error
  := by
  rw [run_comparison_list hleads rfl, run_folded_of_isPlain batch coercion htype]
  rcases coercion.literals_cases field.type values with
    ⟨literals, hliterals, hsource, htarget⟩ | ⟨value, hmem, error, herror, hrun⟩
  · have hrelate : ∀ literal ∈ literals,
        (∃ verdict, field.relate .eq literal = .ok (Mask.ofRows field.column.rows verdict)) ∨
        ∃ error, errors error ∧ field.relate .eq literal = .error error := by
      intro literal hmem
      obtain ⟨value, hvalue, hliteral⟩ := hsource literal hmem
      rcases hall value hvalue with ⟨verdict, hanswers⟩ | ⟨error, hkind, hrefuses⟩
      · exact .inl ⟨_, hanswers.relate_eq hliteral .eq⟩
      · exact .inr ⟨error, hkind, hrefuses.relate_eq hliteral .eq⟩
    have hrefused : ∃ literal ∈ literals, ∃ error, field.relate .eq literal = .error error := by
      obtain ⟨value, hvalue, error, hrefuses⟩ := hsome
      obtain ⟨literal, hmem, hliteral⟩ := htarget value hvalue
      exact ⟨literal, hmem, error, hrefuses.relate_eq hliteral .eq⟩
    obtain ⟨error, hkind, hrun⟩ := ColumnField.isInOr_of_refuses hrelate hrefused
    refine ⟨error, hkind, ?_⟩
    rw [hliterals]
    apply (run_applyLiterals_eq field kind literals).trans
    rw [hrun]
    rfl
  · rcases hall value hmem with ⟨verdict, _, hliteral, _⟩ | ⟨error, hkind, hrefuses⟩
    · cases herror.symm.trans hliteral
    · refine ⟨error, hkind, ?_⟩
      rw [hrun]
      rw [hrefuses.eq_of_literal herror]
      rfl

end Compiler

/-- A leaf has a row where it has a cell. -/
theorem Column.lt_rows_of_datum {column : Column} {type : DataType} {cells : List (Option Cell)}
    (hcolumn : column = .leaf type cells) {stored : Cell} (h : column.datum row = .cell stored) :
  row < column.rows
  := by
  rw [hcolumn] at h ⊢
  apply Column.lt_length_of_datum_leaf
  rw [h]
  rintro ⟨⟩

namespace Batch

/-- A comparison that comes out as the mask of some verdicts does not fail, and has these verdicts
on the rows. -/
theorem verdicts_of_run {op : Operator} {operand : Operand} {rows : Nat} {verdict : Nat → Bool}
    (h : (Compiler.comparison ⟨ColumnField.type, coercion⟩ path op operand).run batch.backend
      = .ok (Mask.ofRows rows verdict)) :
  batch.failure? coercion ⟨path, op, operand⟩ = none ∧
  ∀ row, batch.verdict coercion row ⟨path, op, operand⟩ = true ↔ row < rows ∧ verdict row = true
  := by
  refine ⟨failure?_comparison_iff.mpr ⟨_, h⟩, ?_⟩
  intro row
  rw [verdict_of_run h, Mask.accepts_ofRows_iff]

/-- A comparison that does not come out as a mask fails with the error of its plan. -/
theorem failure?_of_run {op : Operator} {operand : Operand}
    (h : (Compiler.comparison ⟨ColumnField.type, coercion⟩ path op operand).run batch.backend
      = .error error) :
  batch.failure? coercion ⟨path, op, operand⟩ = some error
  := by
  rw [failure?, Comparison.expr, condition, Compiler.compile, Plan.run_bind, h]
  rfl

/-- A field that answers an operand by a cell has its values compared with the cell, and no null. -/
theorem verdicts_of_cell (hleads : batch.Leads (Path.segments path) field)
    (htype : field.type.IsPlain) {type : DataType} {cells : List (Option Cell)}
    (hcolumn : field.column = .leaf type cells) {cell : Cell}
    (h : field.Answers coercion value fun relation row =>
      (field.column.datum row).relates relation cell) (relation : Relation) :
  let comparison : Comparison := ⟨path, .relation relation, .scalar value⟩
  batch.failure? coercion comparison = none ∧
  ∀ row, (field.column.datum row = .null → batch.verdict coercion row comparison = false) ∧
    ∀ stored, field.column.datum row = .cell stored →
      batch.verdict coercion row comparison = relation.holds (stored.compare cell)
  := by
  intro comparison
  obtain ⟨hok, hverdict⟩ := verdicts_of_run (Compiler.run_relation hleads htype h relation)
  refine ⟨hok, ?_⟩
  intro row
  constructor
  · intro hnull
    rw [← Bool.not_eq_true, hverdict, hnull]
    rintro ⟨_, ⟨⟩⟩
  · intro stored hstored
    rw [Bool.eq_iff_iff, hverdict, hstored, Datum.relates]
    apply and_iff_right (Column.lt_rows_of_datum hcolumn hstored)

/-- Whether a comparison fails because an operand could not be converted. -/
def failsConversion (batch : Batch) (coercion : Coercion) (comparison : Comparison) : Bool :=
  (batch.failure? coercion comparison).any FilterError.isConversion

/-- A relation to an operand that a field takes fails, as one that cannot be converted, if and only
if the operand has no cell, and otherwise compares the values with the cell. -/
theorem outcome_of_takes (hleads : batch.Leads (Path.segments path) field)
    (htype : field.type.IsPlain) {type : DataType} {cells : List (Option Cell)}
    (hcolumn : field.column = .leaf type cells) {cell : Option Cell}
    (h : field.Takes coercion value cell) (relation : Relation) :
  let comparison : Comparison := ⟨path, .relation relation, .scalar value⟩
  batch.failsConversion coercion comparison = cell.isNone ∧
  ∀ found, cell = some found →
    batch.failure? coercion comparison = none ∧
    ∀ row, (field.column.datum row = .null → batch.verdict coercion row comparison = false) ∧
      ∀ stored, field.column.datum row = .cell stored →
        batch.verdict coercion row comparison = relation.holds (stored.compare found)
  := by
  intro comparison
  cases cell with
  | some cell =>
      have hverdicts := verdicts_of_cell hleads htype hcolumn h relation
      refine ⟨?_, ?_⟩
      · rw [failsConversion, hverdicts.1]
        rfl
      · rintro _ ⟨⟩
        exact hverdicts
  | none =>
      refine ⟨?_, nofun⟩
      obtain ⟨error, hconversion, hrefuses⟩ := h
      have hrun := Compiler.run_relation_error hleads htype hrefuses relation
      rw [failsConversion, failure?_of_run hrun]
      exact hconversion

/-- A membership among operands that a field takes fails, as one that cannot be converted, if and
only if one of the operands has no cell, and otherwise looks for the values among the cells, where
null is not found. -/
theorem outcome_of_takes_all (hleads : batch.Leads (Path.segments path) field)
    (htype : field.type.IsPlain) {type : DataType} {cells : List (Option Cell)}
    (hcolumn : field.column = .leaf type cells) {α : Type} {cell : α → Option Cell}
    {values : List Scalar} {entries : List α}
    (h : List.Forall₂ (fun value entry => field.Takes coercion value (cell entry)) values entries)
    (kind : Membership) :
  let comparison : Comparison := ⟨path, .membership kind, .list values⟩
  batch.failsConversion coercion comparison = !entries.all (fun entry => (cell entry).isSome) ∧
  (entries.all (fun entry => (cell entry).isSome) = true →
    batch.failure? coercion comparison = none ∧
    ∀ row,
      (field.column.datum row = .null →
        (batch.verdict coercion row comparison = true
          ↔ row < field.column.rows ∧ kind.holds false = true)) ∧
      ∀ stored, field.column.datum row = .cell stored →
        batch.verdict coercion row comparison
          = kind.holds (entries.any fun entry =>
              (cell entry).any fun found => stored.compare found == .eq))
  := by
  intro comparison
  cases hcells : entries.all fun entry => (cell entry).isSome with
  | true =>
      have hanswers := ColumnField.forall₂_answers_of_takes h hcells
      obtain ⟨hok, hverdict⟩ := verdicts_of_run (Compiler.run_membership hleads htype hanswers kind)
      refine ⟨?_, fun _ => ⟨hok, ?_⟩⟩
      · rw [failsConversion, hok]
        rfl
      · intro row
        constructor
        · intro hnull
          have hnone : (entries.any fun entry => (cell entry).any fun found =>
              Datum.relates .eq found .null) = false := by
            rw [List.any_eq_false]
            intro entry _
            cases cell entry <;> exact Bool.false_ne_true
          rw [hverdict, hnull, hnone]
        · intro stored hstored
          rw [Bool.eq_iff_iff, hverdict, hstored]
          apply and_iff_right (Column.lt_rows_of_datum hcolumn hstored)
  | false =>
      refine ⟨?_, nofun⟩
      have hall : ∀ value ∈ values, (∃ verdict, field.Answers coercion value verdict) ∨
          ∃ error, error.isConversion = true ∧ field.Refuses coercion value error := by
        intro value hmem
        obtain ⟨entry, -, htakes⟩ := h.exists_right hmem
        cases hcell : cell entry with
        | some found =>
            rw [hcell] at htakes
            exact .inl ⟨_, htakes⟩
        | none =>
            rw [hcell] at htakes
            exact .inr htakes
      have hsome : ∃ value ∈ values, ∃ error, field.Refuses coercion value error := by
        obtain ⟨entry, hentry, hnone⟩ := List.all_eq_false.mp hcells
        obtain ⟨value, hmem, htakes⟩ := h.exists_left hentry
        rw [Option.not_isSome_iff_eq_none.mp hnone] at htakes
        obtain ⟨error, -, hrefuses⟩ := htakes
        exact ⟨value, hmem, error, hrefuses⟩
      obtain ⟨error, hconversion, hrun⟩ :=
        Compiler.run_membership_error hleads htype hall hsome kind
      rw [failsConversion, failure?_of_run hrun]
      exact hconversion

end Batch

end RowFilter
