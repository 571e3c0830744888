import RowFilter.Proofs.Batch.Definite

/-!
# Faults of a batch

An outcome `Faults` when it is an error of the data store and not of the one who wrote the filter.
Of what a batch is asked for, these are to blame: a field whose column cannot mark the nulls of the
record around it (`ColumnField.Blocks`), a literal that has a cell in a type whose values are not
compared (`DataType.Uncomparable`), and a column whose values have no texts.
-/

namespace RowFilter

/-! ### Outcomes -/

/-- Whether a computation ends with a fault of the data store. -/
def Faults {α : Type} (outcome : Except FilterError α) : Prop :=
  ∃ fault, outcome = .error (.backend fault)

section

variable {α β : Type}

theorem not_faults_ok (value : α) :
  ¬ Faults (.ok value)
  := by
  rintro ⟨fault, ⟨⟩⟩

/-- The faults are the errors that are not the client's. -/
theorem faults_error_iff {error : FilterError} :
  Faults (.error error : Except FilterError α) ↔ error.isClientError = false
  := by
  cases error with
  | backend fault => exact ⟨fun _ => rfl, fun _ => ⟨fault, rfl⟩⟩
  | _ =>
      constructor
      · rintro ⟨fault, ⟨⟩⟩
      · rintro ⟨⟩

/-- Of two computations in a row, the first one faults, or the second does with the result of the
first. -/
theorem faults_bind_iff {first : Except FilterError α} {next : α → Except FilterError β} :
  Faults (first >>= next) ↔ Faults first ∨ ∃ value, first = .ok value ∧ Faults (next value)
  := by
  cases first with
  | ok value => simp [Faults, bind, Except.bind]
  | error error => simp [Faults, bind, Except.bind]

theorem faults_map_iff {first : Except FilterError α} {f : α → β} :
  Faults (first.map f) ↔ Faults first
  := by
  cases first with
  | ok value => simp [Faults, Except.map]
  | error error => simp [Faults, Except.map]

theorem faults_orFault_iff {outcome : Except CastFault α} :
  Faults (ColumnField.orFault outcome) ↔ ∃ fault, outcome = .error fault
  := by
  cases outcome with
  | ok value => simp [Faults, ColumnField.orFault]
  | error fault => simp [Faults, ColumnField.orFault]

end

/-! ### Types -/

/-- Whether a literal has a cell in a type of which the values are then not compared with it. -/
structure DataType.Uncomparable (type : DataType) (literal : Literal) : Prop where
  cell : ∃ cell, literal.toCell type = .ok cell
  kind : type.isNested = true ∨ literal.isNull = false ∧ Column.losesZone type = true

namespace Column

/-- The values of a textual type are not made of others. -/
theorem isNested_of_isTextual :
  ∀ type : DataType, type.isTextual = true → type.isNested = false
  | .text _, _ => rfl
  | .dictionary _ value, h => isNested_of_isTextual value h

/-- A textual type has no zone. -/
theorem losesZone_of_isTextual {type : DataType} (h : type.isTextual = true) :
  losesZone type = false
  := by
  cases type with
  | text layout => rfl
  | dictionary key value =>
      cases value with
      | text layout => rfl
      | dictionary key value => rfl
      | _ => cases h
  | _ => cases h

/-- Values that are not made of others, and keep their zone, are compared with every literal that
has a cell. -/
theorem not_uncomparable {type : DataType} (hnested : type.isNested = false)
    (hzone : losesZone type = false) (literal : Literal) :
  ¬ type.Uncomparable literal
  := by
  rintro ⟨_, h | ⟨_, h⟩⟩
  · rw [hnested] at h
    cases h
  · rw [hzone] at h
    cases h

theorem not_uncomparable_of_isTextual {type : DataType} (h : type.isTextual = true)
    (literal : Literal) :
  ¬ type.Uncomparable literal
  := by
  apply not_uncomparable (isNested_of_isTextual type h) (losesZone_of_isTextual h)

theorem not_uncomparable_of_isInteger {type : DataType} (h : type.isInteger = true)
    (literal : Literal) :
  ¬ type.Uncomparable literal
  := by
  cases type with
  | int size => apply not_uncomparable rfl rfl
  | uint size => apply not_uncomparable rfl rfl
  | _ => cases h

/-! ### Columns -/

variable {column : Column}

/-- A column inside a record is not to be had if rows of the record are null, and the column cannot
mark them. -/
theorem under_eq_none_iff {valid : Option (List Bool)} :
  column.under valid = none
    ↔ ∃ flags, valid = some flags ∧ false ∈ flags ∧ marksNulls column.type = false
  := by
  cases valid with
  | none => simp [under]
  | some flags =>
      by_cases hmarks : flags.all id = true
      · have hfalse : false ∉ flags := by
          simpa [List.all_eq_true] using hmarks
        simp [under, hmarks, hfalse]
      · have hfalse : false ∈ flags := by
          simpa [List.all_eq_true] using hmarks
        cases column with
        | leaf own cells =>
            cases hnulls : marksNulls own <;> simp [under, hmarks, hfalse, type, hnulls]
        | dictionary key keys values => simp [under, hmarks, type, marksNulls]
        | record own fields rows => simp [under, hmarks, type, marksNulls]

/-- The values of a column are compared with a literal in the type of the column, or in double
precision if they are integers. -/
theorem operands_of_toCell (column : Column) (literal : Literal) :
  ∃ type cells,
    (type = column.type ∨ column.type.isInteger = true ∧ type = .float .w64) ∧
    column.operands literal
      = match literal.toCell type with
        | .ok cell => .ok (type, cells, cell)
        | .error fault => .error (.conversion literal.toText type (.cast fault))
  := by
  cases column with
  | leaf type cells =>
      simp only [operands]
      split
      · next hinteger => exact ⟨.float .w64, toDoubles cells, .inr ⟨hinteger, rfl⟩, rfl⟩
      · exact ⟨type, cells, .inl rfl, rfl⟩
  | dictionary key keys values =>
      simp only [operands]
      split
      · exact ⟨_, _, .inl rfl, rfl⟩
      · exact ⟨_, _, .inl rfl, rfl⟩
  | record valid fields rows => exact ⟨_, [], .inl rfl, rfl⟩

/-- A relation to a literal faults if and only if the literal has a cell in the type of the column
but is not compared with its values. -/
theorem faults_relate_iff {path : String} {relation : Relation} {literal : Literal} :
  Faults (column.relate path relation literal) ↔ column.type.Uncomparable literal
  := by
  obtain ⟨type, cells, htype, hoperands⟩ := operands_of_toCell column literal
  have hsame : column.type.Uncomparable literal ↔ type.Uncomparable literal := by
    obtain rfl | ⟨hinteger, rfl⟩ := htype
    · rfl
    · apply iff_of_false (not_uncomparable_of_isInteger hinteger literal)
      apply not_uncomparable rfl rfl
  rw [hsame, relate, hoperands]
  cases hcell : literal.toCell type with
  | error fault =>
      constructor
      · rintro ⟨_, ⟨⟩⟩
      · rintro ⟨⟨cell, hfound⟩, _⟩
        cases hcell.symm.trans hfound
  | ok cell =>
      dsimp only
      split
      · next hkind =>
          rw [faults_error_iff]
          refine ⟨fun _ => ⟨⟨cell, hcell⟩, ?_⟩, fun _ => rfl⟩
          simpa using hkind
      · next hkind =>
          apply iff_of_false (not_faults_ok _)
          rintro ⟨_, hfault⟩
          apply hkind
          simpa using hfault

/-- Every cell of a textual type can be written. -/
theorem cellWriter_of_isTextual :
  ∀ type : DataType, type.isTextual = true →
    ∃ write, cellWriter type = .ok write ∧ ∀ cell, ∃ text, write cell = .ok text
  | .text layout, _ => by
      rw [cellWriter]
      refine ⟨_, rfl, ?_⟩
      intro cell
      cases cell <;> exact ⟨_, rfl⟩
  | .dictionary _ value, h => by
      rw [cellWriter]
      apply cellWriter_of_isTextual value h

/-- If every cell can be written, then all of them can be. -/
theorem exists_writeCells {write : Cell → Except CastFault (Option String)}
    (h : ∀ cell, ∃ text, write cell = .ok text) :
  ∀ cells : List (Option Cell), ∃ written, writeCells write cells = .ok written
  | [] => ⟨[], rfl⟩
  | none :: rest => by
      obtain ⟨others, hothers⟩ := exists_writeCells h rest
      rw [writeCells, hothers]
      exact ⟨_, rfl⟩
  | some cell :: rest => by
      obtain ⟨first, hfirst⟩ := h cell
      obtain ⟨others, hothers⟩ := exists_writeCells h rest
      rw [writeCells, hfirst, hothers]
      exact ⟨_, rfl⟩

/-- Every value of a textual column has a text. -/
theorem texts_of_isTextual :
  ∀ {column : Column}, column.type.isTextual = true → ∃ written, column.texts = .ok written
  | .leaf type cells, h => by
      obtain ⟨write, hwrite, htotal⟩ := cellWriter_of_isTextual type h
      rw [texts, hwrite]
      apply exists_writeCells htotal
  | .dictionary key keys values, h => by
      obtain ⟨written, hwritten⟩ := texts_of_isTextual (show values.type.isTextual = true from h)
      rw [texts, hwritten]
      exact ⟨_, rfl⟩

end Column

/-! ### Fields -/

namespace ColumnField

variable {field : ColumnField}

/-- Whether the field of a name is not to be had: it has nulls in the record around it, which a
column of its type cannot mark. -/
def Blocks (field : ColumnField) (name : String) : Prop :=
  ∃ flags fields rows child, field.column = .record (some flags) fields rows ∧
    fields.lookup name = some child ∧ false ∈ flags ∧ Column.marksNulls child.type = false

/-- Asking for a field inside a field faults if and only if it is not to be had. -/
theorem faults_nested_iff {name : String} :
  Faults (field.nested name) ↔ field.Blocks name
  := by
  obtain ⟨path, column⟩ := field
  cases column with
  | leaf type cells =>
      apply iff_of_false (not_faults_ok none)
      rintro ⟨_, _, _, _, ⟨⟩, _⟩
  | dictionary key keys values =>
      apply iff_of_false (not_faults_ok none)
      rintro ⟨_, _, _, _, ⟨⟩, _⟩
  | record valid fields count =>
      simp only [nested]
      cases hchild : fields.lookup name with
      | none =>
          apply iff_of_false (not_faults_ok none)
          rintro ⟨flags, _, _, child, ⟨⟩, hfound, _⟩
          cases hchild.symm.trans hfound
      | some child =>
          dsimp only
          cases hinside : child.under valid with
          | none =>
              obtain ⟨flags, rfl, hnulls⟩ := Column.under_eq_none_iff.mp hinside
              apply iff_of_true
              · exact ⟨_, rfl⟩
              · exact ⟨flags, fields, count, child, rfl, hchild, hnulls⟩
          | some inside =>
              apply iff_of_false (not_faults_ok _)
              rintro ⟨flags, _, _, _, ⟨⟩, hfound, hnulls⟩
              cases hchild.symm.trans hfound
              cases hinside.symm.trans (Column.under_eq_none_iff.mpr ⟨flags, rfl, hnulls⟩)

/-- A pattern faults if and only if some value of the field has no text. -/
theorem faults_like_iff {pattern : String} {expected : Bool} :
  Faults (field.like pattern expected) ↔ ∃ fault, field.column.texts = .error fault
  := by
  rw [like, faults_map_iff, faults_orFault_iff]

/-- A textual field is put in lower case. -/
theorem lower_of_isTextual (h : field.type.isTextual = true) :
  ∃ lowered, field.lower = .ok lowered ∧ lowered.type.isTextual = true
  := by
  obtain ⟨written, hwritten⟩ := Column.texts_of_isTextual h
  rw [lower, hwritten]
  exact ⟨_, rfl, rfl⟩

/-- Two definite masks are joined to a definite mask. -/
theorem exists_or {rows : Nat} {left right : Mask} (hleft : left.IsDefinite rows)
    (hright : right.IsDefinite rows) :
  ∃ found, orFault (Mask.or left right) = .ok found ∧ found.IsDefinite rows
  := by
  rw [hleft.eq_ofRows, hright.eq_ofRows, Mask.or, Mask.zip_ofRows]
  exact ⟨_, rfl, Mask.isDefinite_ofRows _⟩

/-- A membership faults if and only if one of the literals is not compared, and those before it
are. -/
theorem faults_isInOr_iff {rows : Nat} (h : field.column.Fits rows) :
  ∀ {literals : List Literal} {before : Mask}, before.IsDefinite rows →
    (Faults (field.isInOr before literals) ↔
      ∃ earlier literal later, literals = earlier ++ literal :: later ∧
        (∀ other ∈ earlier, ∃ mask, field.relate .eq other = .ok mask) ∧
        field.type.Uncomparable literal)
  | [], before, _ => by
      apply iff_of_false (not_faults_ok before)
      rintro ⟨earlier, literal, later, hsplit, _⟩
      cases earlier <;> cases hsplit
  | literal :: rest, before, hbefore => by
      rw [isInOr, faults_bind_iff]
      constructor
      · rintro (hhere | ⟨equal, hequal, hrest⟩)
        · exact ⟨[], literal, rest, rfl, by simp, Column.faults_relate_iff.mp hhere⟩
        · obtain ⟨found, hfound, hdefinite⟩ :=
            exists_or hbefore (Column.isDefinite_relate h hequal)
          have hlater : Faults (field.isInOr found rest) := by
            rw [hfound] at hrest
            apply hrest
          obtain ⟨earlier, other, later, rfl, hearlier, hother⟩ :=
            (faults_isInOr_iff h hdefinite).mp hlater
          refine ⟨literal :: earlier, other, later, rfl, ?_, hother⟩
          rw [List.forall_mem_cons]
          exact ⟨⟨equal, hequal⟩, hearlier⟩
      · rintro ⟨earlier, other, later, hsplit, hearlier, hother⟩
        cases earlier with
        | nil =>
            cases hsplit
            apply Or.inl (Column.faults_relate_iff.mpr hother)
        | cons first earlier =>
            cases hsplit
            rw [List.forall_mem_cons] at hearlier
            obtain ⟨⟨equal, hequal⟩, hearlier⟩ := hearlier
            obtain ⟨found, hfound, hdefinite⟩ :=
              exists_or hbefore (Column.isDefinite_relate h hequal)
            refine Or.inr ⟨equal, hequal, ?_⟩
            rw [hfound]
            exact (faults_isInOr_iff h hdefinite).mpr ⟨earlier, other, later, rfl, hearlier, hother⟩

end ColumnField

end RowFilter
