import RowFilter.Proofs.Batch.Mirrored
import RowFilter.Proofs.Filter.Building
import RowFilter.Proofs.Filter.Faults

/-!
# Batches of the same values

A batch mirrors another one when both are valid, have the same rows and columns of related types
(`Batch.Mirrors`).  Names then lead to fields that mirror each other, at the root
(`Batch.Mirrors.field?`) and inside records (`ColumnField.Mirrors.nested`), and filters have the
same masks, or the same errors up to the types that they name (`Batch.condition_renamed`).
-/

namespace RowFilter

/-- Whether a converter makes the same literals for related types, and gives the same messages for
the same types. -/
def Converter.IsUniform (types : DataType → DataType → Prop) (converter : Converter) : Prop :=
  ∀ text type other, types type other →
    (converter text type).Alike (fun message answer => type = other → message = answer) Eq
      (converter text other)

/-- Whether a batch is one that the data store can hold: its columns have an entry for each row, and
are well built. -/
structure Batch.IsValid (batch : Batch) : Prop where
  rectangular : batch.IsRectangular
  wellBuilt : Column.FieldsWellBuilt batch.columns

variable {types : DataType → DataType → Prop} {rows : Nat} {batch other : Batch}

namespace ColumnField

/-- Whether the columns of two fields mirror each other. -/
structure Mirrors (types : DataType → DataType → Prop) (rows : Nat) (field found : ColumnField) :
    Prop where
  path_eq : field.path = found.path
  column : Column.Mirrors types rows field.column found.column

variable {field found : ColumnField}

/-! ### Fields inside fields -/

/-- A field is not to be had in a record if it cannot be put under the nulls of the record. -/
theorem blocks_record_iff {path name : String} {valid : Option (List Bool)}
    {fields : List (String × Column)} {count : Nat} {child : Column}
    (hchild : fields.lookup name = some child) :
  (mk path (.record valid fields count)).Blocks name ↔ child.under valid = none
  := by
  rw [Column.under_eq_none_iff]
  constructor
  · rintro ⟨flags, _, _, other, ⟨⟩, hother, hfalse, hnulls⟩
    cases hchild.symm.trans hother
    exact ⟨flags, rfl, hfalse, hnulls⟩
  · rintro ⟨flags, rfl, hfalse, hnulls⟩
    exact ⟨flags, fields, count, child, rfl, hchild, hfalse, hnulls⟩

/-- A field that is no record has no fields. -/
theorem nested_of_not_isStruct {column : Column} (h : column.type.isStruct = false)
    (path name : String) :
  (mk path column).nested name = .ok none
  := by
  cases column with
  | record valid fields count => cases h
  | _ => rfl

theorem nested_record {path name : String} {valid : Option (List Bool)}
    {fields : List (String × Column)} {count : Nat} {child : Column}
    (hchild : fields.lookup name = some child) :
  (mk path (.record valid fields count)).nested name
    = match child.under valid with
      | some column => .ok (some ⟨path ++ "." ++ name, column.unpack⟩)
      | none => .error (.backend (.cast .precision))
  := by
  cases hinside : child.under valid <;> simp only [nested, hchild, hinside]

/-- A field inside a field is the column of that name in a record, under the nulls of the record and
without its dictionary. -/
theorem nested_eq_some {name : String} {child : ColumnField}
    (h : field.nested name = .ok (some child)) :
  ∃ valid fields count inner inside, field.column = .record valid fields count ∧
    fields.lookup name = some inner ∧ inner.under valid = some inside ∧
    child = ⟨field.path ++ "." ++ name, inside.unpack⟩
  := by
  obtain ⟨path, column⟩ := field
  cases column with
  | leaf type cells => cases h
  | dictionary key keys values => cases h
  | record valid fields count =>
      cases hinner : fields.lookup name with
      | none =>
          simp only [nested, hinner] at h
          cases h
      | some inner =>
          rw [nested_record hinner] at h
          cases hinside : inner.under valid with
          | none =>
              rw [hinside] at h
              cases h
          | some inside =>
              rw [hinside] at h
              cases h
              exact ⟨valid, fields, count, inner, inside, rfl, hinner, hinside, rfl⟩

/-- Inside fields that mirror each other, names lead to fields that do, if these are to be had in
both or in neither. -/
theorem Mirrors.nested (hpathwise : DataType.IsPathwise types)
    (h : Mirrors types rows field found) {name : String}
    (hblocks : field.Blocks name ↔ found.Blocks name) :
  (field.nested name).Alike (FilterError.Renamed types) (Option.Rel (Mirrors types rows))
    (found.nested name)
  := by
  obtain ⟨path, column⟩ := field
  obtain ⟨_, other⟩ := found
  obtain ⟨⟨⟩, hcolumn⟩ := h
  have hkin := hpathwise.kin hcolumn.types
  cases hstruct : column.type.isStruct with
  | false =>
      rw [nested_of_not_isStruct hstruct,
        nested_of_not_isStruct (hkin.isStruct_eq.symm.trans hstruct)]
      exact .ok .none
  | true =>
      obtain ⟨valid, fields, count, rfl⟩ := hcolumn.built.eq_record hstruct
      obtain ⟨validity, others, length, rfl⟩ :=
        hcolumn.otherBuilt.eq_record (hkin.isStruct_eq.symm.trans hstruct)
      obtain ⟨-, hvalid, hfields⟩ := hcolumn.fits
      obtain ⟨-, hvalidity, hothers⟩ := hcolumn.otherFits
      have hlookup := Column.lookup_of_types (hpathwise.lookup hcolumn.types name)
      generalize hchild : fields.lookup name = child at hlookup
      generalize hinner : others.lookup name = inner at hlookup
      cases hlookup with
      | none =>
          simp only [ColumnField.nested, hchild, hinner]
          exact .ok .none
      | @some child inner htypes =>
          rw [blocks_record_iff hchild, blocks_record_iff hinner] at hblocks
          rw [nested_record hchild, nested_record hinner]
          cases hinside : child.under valid with
          | none =>
              rw [hblocks.mp hinside]
              exact .error (.same _)
          | some inside =>
              cases hfound : inner.under validity with
              | none =>
                  rw [hblocks.mpr hfound] at hinside
                  cases hinside
              | some column =>
                  refine .ok (.some ⟨rfl, Column.Mirrors.unpack ?_⟩)
                  apply Column.Mirrors.under htypes (hcolumn.built.lookup hchild)
                    (hcolumn.otherBuilt.lookup hinner) (hfields.lookup hchild)
                    (hothers.lookup hinner) hvalid hvalidity _ hinside hfound
                  intro row hrow
                  apply Column.fieldDatum_eq (hcolumn.datum_eq row hrow) hchild hinner

/-! ### Comparisons -/

/-- Fields that mirror each other answer everything alike, if the entries that no row refers to do
not fail in only one of them. -/
theorem Mirrors.answersAlike (hkin : field.type.Kin found.type)
    (h : Mirrors types rows field found)
    (hwrites : field.type.isDictionary = true →
      ∀ fault, field.column.texts = .error fault ↔ found.column.texts = .error fault) :
  AnswersAlike (FilterError.Renamed types) field found
  := by
  constructor
  · apply h.column.rows_eq
  · apply h.column.nulls_eq
  · apply h.column.texts_eq hkin hwrites
  · intro relation literal
    rw [relate, relate, ← h.path_eq]
    apply h.column.relate_alike hkin

end ColumnField

/-- A literal is put in lower case for both of two types or for neither, if texts are. -/
theorem Coercion.fold_eq (coercion : Coercion) {type found : DataType}
    (h : coercion.foldsCase type = coercion.foldsCase found) (literal : Literal) :
  coercion.fold type literal = coercion.fold found literal
  := by
  cases literal with
  | text s => rw [fold, fold, h]
  | _ => rfl

/-- Operands become the same literals of related types. -/
theorem Coercion.literal_alike (coercion : Coercion)
    (huniform : coercion.converter.IsUniform types) {type found : DataType}
    (hkin : type.Kin found) (htypes : types type found) (scalar : Scalar) :
  (coercion.literal type scalar).Alike (FilterError.Renamed types) Eq
    (coercion.literal found scalar)
  := by
  cases scalar with
  | text s =>
      have hconverted := huniform s type found htypes
      simp only [literal]
      generalize coercion.converter s type = converted at hconverted ⊢
      generalize coercion.converter s found = other at hconverted ⊢
      cases hconverted with
      | @ok result _ h =>
          obtain rfl := h
          have hfolds : coercion.foldsCase type = coercion.foldsCase found := by
            rw [foldsCase, foldsCase, hkin.isTextual_eq]
          exact .ok (coercion.fold_eq hfolds result)
      | error h => exact .error (.refused s htypes h)
  | _ => exact .ok rfl

/-- Comparisons are read alike for fields that mirror each other. -/
theorem ColumnField.Mirrors.readAlike (hpathwise : DataType.IsPathwise types) {coercion : Coercion}
    (huniform : coercion.converter.IsUniform types) {field found : ColumnField}
    (h : Mirrors types rows field found)
    (hwrites : field.type.isDictionary = true →
      ∀ fault, field.column.texts = .error fault ↔ found.column.texts = .error fault)
    (comparison : Comparison) :
  Compiler.ReadAlike (FilterError.Renamed types) batch other coercion coercion comparison comparison
    field found
  := by
  have hkin : field.type.Kin found.type := hpathwise.kin h.column.types
  have hanswers := h.answersAlike hkin hwrites
  constructor
  case folded =>
    rw [Compiler.run_folded_eq, Compiler.run_folded_eq, Coercion.foldsCase, Coercion.foldsCase,
      hkin.isTextual_eq]
    split
    · have hlower : field.lower = found.lower := by
        rw [ColumnField.lower, ColumnField.lower, hanswers.texts_eq, h.path_eq]
      rw [hlower]
      apply Except.Alike.refl
      · apply FilterError.Renamed.same
      · apply ColumnField.AnswersAlike.refl
        apply FilterError.Renamed.same
    · exact .ok hanswers
  case orderable_eq => apply hkin.isOrderable_eq
  case unordered => apply FilterError.Renamed.notComparable _ h.column.types
  case operand =>
    apply Operand.Corresponds.refl
    intro value
    apply coercion.literal_alike huniform hkin h.column.types
  case refused => apply FilterError.Renamed.same

/-! ### Batches -/

namespace Batch

/-- Whether two valid batches have the same rows, and columns of related types. -/
structure Mirrors (types : DataType → DataType → Prop) (batch other : Batch) : Prop where
  valid : batch.IsValid
  otherValid : other.IsValid
  tuples_eq : batch.tuples = other.tuples
  types (name : String) :
    Option.Rel (fun type other => types type.unpacked other.unpacked)
      ((Column.fieldTypes batch.columns).lookup name)
      ((Column.fieldTypes other.columns).lookup name)

/-- Whether dictionaries in dictionaries that a path leads to in two batches have entries that
cannot be written in both or in neither of them. -/
def WritesAlike (batch other : Batch) (path : String) : Prop :=
  ∀ field found, batch.Leads (Path.segments path) field → other.Leads (Path.segments path) found →
    field.type.isDictionary = true →
      ∀ fault, field.column.texts = .error fault ↔ found.column.texts = .error fault

theorem Mirrors.rows_eq (h : Mirrors types batch other) :
  batch.rows = other.rows
  := by
  have hlength := congrArg List.length h.tuples_eq
  rw [tuples, tuples, List.length_map, List.length_map, List.length_range,
    List.length_range] at hlength
  apply hlength

theorem Mirrors.tuple_eq (h : Mirrors types batch other) {row : Nat} (hrow : row < batch.rows) :
  batch.tuple row = other.tuple row
  := by
  have htuples := h.tuples_eq
  rw [tuples, tuples, ← h.rows_eq, List.map_inj_left] at htuples
  apply htuples row (List.mem_range.mpr hrow)

/-- At the root, names lead to fields that mirror each other. -/
theorem Mirrors.field? (h : Mirrors types batch other) (name : String) :
  Option.Rel (ColumnField.Mirrors types batch.rows) (batch.field? name) (other.field? name)
  := by
  have hlookup := Column.lookup_of_types (h.types name)
  rw [Batch.field?, Batch.field?]
  generalize hcolumn : batch.columns.lookup name = column at hlookup
  generalize hfound : other.columns.lookup name = found at hlookup
  cases hlookup with
  | none => exact .none
  | @some column found htypes =>
      refine .some ⟨rfl, Column.Mirrors.unpack ?_⟩
      constructor
      case types => apply htypes
      case built => apply h.valid.wellBuilt.lookup hcolumn
      case otherBuilt => apply h.otherValid.wellBuilt.lookup hfound
      case fits => apply Column.FieldsFit.lookup h.valid.rectangular hcolumn
      case otherFits =>
        rw [h.rows_eq]
        apply Column.FieldsFit.lookup h.otherValid.rectangular hfound
      case datum_eq =>
        intro row hrow
        have htuple := congrArg (List.lookup name) (h.tuple_eq hrow)
        rw [tuple, tuple, Column.lookup_fieldData, Column.lookup_fieldData, hcolumn, hfound]
          at htuple
        apply Option.some.inj htuple

/-- An expression stands for the same condition on two batches of the same rows, or has the same
error up to the types that it names, if its paths are resolved alike. -/
theorem condition_renamed (hpathwise : DataType.IsPathwise types) {coercion : Coercion}
    (huniform : coercion.converter.IsUniform types) {expr : FilterExpr}
    (hresolve : ∀ path ∈ expr.paths,
      ((Path.resolve ColumnField.type path).run batch.backend).Alike (FilterError.Renamed types)
        (ColumnField.Mirrors types batch.rows)
        ((Path.resolve ColumnField.type path).run other.backend))
    (hwrites : ∀ path ∈ expr.paths, batch.WritesAlike other path) :
  (batch.condition coercion expr).Alike (FilterError.Renamed types) Eq
    (other.condition coercion expr)
  := by
  apply Batch.condition_alike FilterError.Renamed.same
  rintro ⟨path, op, operand⟩ hmem
  have hpath : path ∈ expr.paths := by
    rw [FilterExpr.paths_eq]
    apply List.mem_map_of_mem hmem
  apply Compiler.comparison_alike FilterError.Renamed.same (hresolve path hpath)
  intro field found hfield hfound hmirrors
  apply hmirrors.readAlike hpathwise huniform
  apply hwrites path hpath
  · apply Path.resolve_eq_ok_iff.mp hfield
  · apply Path.resolve_eq_ok_iff.mp hfound

end Batch

end RowFilter
