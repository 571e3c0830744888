import RowFilter.Proofs.Filter.Mirrored

/-!
# Columns stored in other ways

A column may be stored in a dictionary or not, and its texts in one layout or another, at the root
and inside records (`DataType.Recoded`).  Filters have the same masks on batches of the same rows
that are stored in different ways, and the same errors, except that an error about a record names
the types of its fields (`Filter.mask_alike_of_recoded`).
-/

namespace RowFilter

/-! ### Recoded types -/

namespace DataType

mutual

/-- Whether types without their dictionaries are the same, or differ in the layout of texts, if that
is allowed, or in the way in which the fields of records are stored. -/
inductive Recoded (layouts : Bool) : DataType → DataType → Prop where
  | same (type : DataType) : Recoded layouts type type
  | text (h : layouts = true) (layout other : TextLayout) :
    Recoded layouts (.text layout) (.text other)
  | struct {fields others : List (String × DataType)} (h : FieldsRecoded layouts fields others) :
    Recoded layouts (.struct fields) (.struct others)

/-- Whether fields of the same names are stored in the same way, up to a dictionary around each of
them. -/
inductive FieldsRecoded (layouts : Bool) :
    List (String × DataType) → List (String × DataType) → Prop where
  | nil : FieldsRecoded layouts [] []
  | cons (name : String) {type other : DataType} {rest others : List (String × DataType)}
      (h : Recoded layouts type.unpacked other.unpacked)
      (hrest : FieldsRecoded layouts rest others) :
    FieldsRecoded layouts ((name, type) :: rest) ((name, other) :: others)

end

variable {layouts : Bool}

/-- The fields of a name are both there or both not, and stored in the same way up to a
dictionary. -/
theorem FieldsRecoded.lookup (name : String) :
  ∀ {fields others : List (String × DataType)}, FieldsRecoded layouts fields others →
    Option.Rel (fun type other => Recoded layouts type.unpacked other.unpacked)
      (fields.lookup name) (others.lookup name)
  | _, _, .nil => .none
  | _, _, .cons found h hrest => by
      rw [List.lookup_cons, List.lookup_cons]
      split
      · exact .some h
      · apply hrest.lookup

/-- Types that are recoded stay so along paths. -/
theorem isPathwise_recoded :
  IsPathwise (Recoded layouts)
  := by
  constructor
  · intro type other h
    cases h with
    | same => exact .same type
    | text hlayouts layout other => exact .text layout other
    | struct hfields => exact .struct _ _
  · intro fields others h name
    cases h with
    | same =>
        cases fields.lookup name with
        | none => exact .none
        | some type => exact .some (.same _)
    | struct hfields => apply hfields.lookup

end DataType

theorem Converter.standard_struct (dates : DateFormats) (text : String)
    (fields : List (String × DataType)) :
  standard dates text (.struct fields)
    = .error ("No conversion from string to " ++ (DataType.struct fields).name)
  := by
  rw [standard.eq_def]

/-- The standard converter makes the same literals for types that are recoded. -/
theorem Converter.isUniform_standard (dates : DateFormats) (layouts : Bool) :
  IsUniform (DataType.Recoded layouts) (standard dates)
  := by
  intro text type other h
  cases h with
  | same =>
      apply Except.Alike.refl
      · intro message _
        rfl
      · intro literal
        rfl
  | text hlayouts layout other =>
      rw [standard, standard]
      exact .ok rfl
  | struct hfields =>
      rw [standard_struct, standard_struct]
      apply Except.Alike.error
      intro hsame
      rw [hsame]

/-! ### Blocked paths -/

variable {batch other : Batch}

/-- A field that is not to be had cannot be asked for. -/
theorem ColumnField.nested_of_blocks {field : ColumnField} {name : String}
    (h : field.Blocks name) :
  field.nested name = .error (.backend (.cast .precision))
  := by
  obtain ⟨flags, fields, count, child, hrecord, hchild, hfalse, hnulls⟩ := h
  obtain ⟨path, column⟩ := field
  obtain rfl : column = .record (some flags) fields count := hrecord
  rw [nested_record hchild, Column.under_eq_none_iff.mpr ⟨flags, rfl, hfalse, hnulls⟩]

namespace Path

/-- All segments that lead to a field that is not to be had end with the same error. -/
theorem descend_of_isBlocked {path : String} :
  ∀ {segments : List String} {field : ColumnField}, field.IsBlocked segments →
    (descend path segments field).run batch.backend = .error (.backend (.cast .precision))
  | segment :: rest, field, h => by
      rw [descend, Plan.run_ask]
      obtain hblocks | ⟨child, hchild, hlater⟩ := h
      · have hanswer : batch.backend.answer .lookup (.nested field segment)
            = .error (.backend (.cast .precision)) := ColumnField.nested_of_blocks hblocks
        rw [hanswer]
        rfl
      · have hanswer : batch.backend.answer .lookup (.nested field segment) = .ok (some child) :=
          hchild
        rw [hanswer]
        apply descend_of_isBlocked hlater

/-- All paths that lead to a field that is not to be had end with the same error. -/
theorem resolve_of_isBlocked {path : String} (h : batch.IsBlocked (segments path)) :
  (resolve ColumnField.type path).run batch.backend = .error (.backend (.cast .precision))
  := by
  rw [resolve]
  split
  · next hsegments =>
      rw [hsegments] at h
      cases h
  · next first rest hsegments =>
      rw [hsegments] at h
      obtain ⟨field, hfield, hblocked⟩ := h
      have hanswer : batch.backend.answer .lookup (.root first) = .ok (some field) :=
        congrArg Except.ok hfield
      rw [Plan.run_ask, hanswer]
      apply Eq.trans (Plan.run_bind _ _ _)
      rw [descend_of_isBlocked hblocked]
      rfl

variable {types : DataType → DataType → Prop}

/-- In batches that mirror each other, a path that is blocked in both or in neither leads to fields
that mirror each other. -/
theorem resolve_mirrored (hpathwise : DataType.IsPathwise types) (h : batch.Mirrors types other)
    {path : String} (hblocked : batch.IsBlocked (segments path) ↔ other.IsBlocked (segments path)) :
  ((resolve ColumnField.type path).run batch.backend).Alike (FilterError.Renamed types)
    (ColumnField.Mirrors types batch.rows)
    ((resolve ColumnField.type path).run other.backend)
  := by
  by_cases hfree : batch.IsBlocked (segments path)
  · rw [resolve_of_isBlocked hfree, resolve_of_isBlocked (hblocked.mp hfree)]
    exact .error (.same _)
  · have hother := mt hblocked.mpr hfree
    apply (resolve_alike (fun rest field found => ColumnField.Mirrors types batch.rows field found ∧
      ¬ field.IsBlocked rest ∧ ¬ found.IsBlocked rest) FilterError.Renamed.same _ _).mono
    · intro error other
      apply id
    · rintro field found ⟨hmirrors, -⟩
      apply hmirrors
    · intro name rest hsegments
      rw [hsegments] at hfree hother
      have hfield := h.field? name
      generalize hfirst : batch.field? name = first at hfield
      generalize hsecond : other.field? name = second at hfield
      cases hfield with
      | none => exact .none
      | some hmirrors =>
          refine .some ⟨hmirrors, ?_, ?_⟩
          · intro hlater
            apply hfree ⟨_, hfirst, hlater⟩
          · intro hlater
            apply hother ⟨_, hsecond, hlater⟩
    · rintro field found name rest ⟨hmirrors, hfree, hother⟩
      have hblocks : field.Blocks name ↔ found.Blocks name :=
        iff_of_false (hfree ∘ .inl) (hother ∘ .inl)
      have hnested := hmirrors.nested hpathwise hblocks
      generalize hfirst : field.nested name = first at hnested
      generalize hsecond : found.nested name = second at hnested
      cases hnested with
      | error herror => exact .error herror
      | ok hchild =>
          cases hchild with
          | none => exact .ok .none
          | some hmirrors =>
              refine .ok (.some ⟨hmirrors, ?_, ?_⟩)
              · intro hlater
                apply hfree (.inr ⟨_, hfirst, hlater⟩)
              · intro hlater
                apply hother (.inr ⟨_, hsecond, hlater⟩)

end Path

namespace Filter

/-- A filter has the same mask on two valid batches of the same rows that are stored in different
ways, or errors that differ at most in the types that they name, which are then recoded.  It is
taken for granted that its paths are blocked in both batches or in neither, and that dictionaries
in dictionaries, which are not recoded, have entries that cannot be written in both or in
neither. -/
theorem mask_alike_of_recoded {layouts : Bool} (h : batch.IsValid) (hother : other.IsValid)
    (htypes : DataType.FieldsRecoded layouts (Column.fieldTypes batch.columns)
      (Column.fieldTypes other.columns))
    (htuples : batch.tuples = other.tuples) (filter : Filter)
    (hconverter : filter.converter.IsUniform (DataType.Recoded layouts))
    (hblocked : ∀ path ∈ filter.expr.paths,
      (batch.IsBlocked (Path.segments path) ↔ other.IsBlocked (Path.segments path)))
    (hwrites : ∀ path ∈ filter.expr.paths, batch.WritesAlike other path)
    (otherwise : FilterConfig) :
  (filter.mask otherwise batch).Alike (FilterError.Renamed (DataType.Recoded layouts)) Eq
    (filter.mask otherwise other)
  := by
  have hmirrors : batch.Mirrors (DataType.Recoded layouts) other :=
    ⟨h, hother, htuples, fun name => htypes.lookup name⟩
  apply Batch.condition_renamed DataType.isPathwise_recoded hconverter _ hwrites
  intro path hpath
  apply Path.resolve_mirrored DataType.isPathwise_recoded hmirrors (hblocked path hpath)

/-- Numbers at the root and texts inside a record, stored in dictionaries and plainly. -/
theorem mask_alike_of_recoded_texts :
  let packed : Batch := ⟨2,
    [("n", .dictionary (.int .w32) [some 1, some 0]
      (.leaf (.int .w64) [some (.int 3), some (.int 8)])),
     ("s", .record (some [true, false])
      [("t", .dictionary (.int .w32) [some 0, some 0]
        (.leaf (.text .short) [some (.text "Ab")]))] 2)]⟩
  let plain : Batch := ⟨2,
    [("n", .leaf (.int .w64) [some (.int 8), some (.int 3)]),
     ("s", .record (some [true, false])
      [("t", .leaf (.text .view) [some (.text "Ab"), some (.text "a")])] 2)]⟩
  let filter := Filter.ofExpr
    (.group .and [.comparison "n" (.relation .gt) (.scalar (.number (.integer 5))),
      .comparison "s.t" (.textMatch .startsWith) (.scalar (.text "aB"))])
  packed.IsValid ∧ plain.IsValid ∧ packed.tuples = plain.tuples ∧
  DataType.FieldsRecoded true (Column.fieldTypes packed.columns)
    (Column.fieldTypes plain.columns) ∧
  filter.mask ⟨false⟩ packed = .ok (some [some true, some false]) ∧
  filter.mask ⟨false⟩ plain = .ok (some [some true, some false])
  := by
  intro packed plain filter
  have hsegments : Path.segments "s.t" = ["s", "t"] := by decide
  have hroot : Path.segments "n" = ["n"] := by decide
  have hpacked : packed.IsValid := by
    refine ⟨⟨rfl, ⟨rfl, ?_, rfl, trivial⟩, trivial⟩,
      ⟨⟨?_, rfl, rfl, rfl⟩, ⟨⟨?_, rfl, rfl, rfl⟩, trivial⟩, trivial⟩⟩
    · rintro flags ⟨⟩
      rfl
    · intro key hkey
      obtain hkey | hkey := List.mem_cons.mp hkey
      · cases hkey
        apply Nat.one_lt_two
      · cases List.mem_singleton.mp hkey
        apply Nat.two_pos
    · intro key hkey
      obtain hkey | hkey := List.mem_cons.mp hkey
      · cases hkey
        apply Nat.one_pos
      · cases List.mem_singleton.mp hkey
        apply Nat.one_pos
  have hplain : plain.IsValid := by
    refine ⟨⟨rfl, ⟨rfl, ?_, rfl, trivial⟩, trivial⟩,
      ⟨⟨rfl, rfl⟩, ⟨⟨rfl, rfl⟩, trivial⟩, trivial⟩⟩
    rintro flags ⟨⟩
    rfl
  have htypes : DataType.FieldsRecoded true (Column.fieldTypes packed.columns)
      (Column.fieldTypes plain.columns) :=
    .cons "n" (.same _) (.cons "s" (.struct (.cons "t" (.text rfl _ _) .nil)) .nil)
  have hpaths : ∀ path ∈ filter.expr.paths, path = "n" ∨ path = "s.t" := by
    intro path hpath
    obtain rfl | hpath := List.mem_cons.mp hpath
    · apply Or.inl rfl
    · apply Or.inr (List.mem_singleton.mp hpath)
  have hblocked : ∀ path ∈ filter.expr.paths,
      (packed.IsBlocked (Path.segments path) ↔ plain.IsBlocked (Path.segments path)) := by
    intro path hpath
    obtain rfl | rfl := hpaths path hpath
    · rw [hroot]
      apply iff_of_false
      · rintro ⟨_, ⟨⟩, ⟨⟩⟩
      · rintro ⟨_, ⟨⟩, ⟨⟩⟩
    · rw [hsegments]
      apply iff_of_false
      · rintro ⟨_, ⟨⟩, ⟨_, _, _, _, ⟨⟩, ⟨⟩, _, ⟨⟩⟩ | ⟨_, ⟨⟩, ⟨⟩⟩⟩
      · rintro ⟨_, ⟨⟩, ⟨_, _, _, _, ⟨⟩, ⟨⟩, _, ⟨⟩⟩ | ⟨_, ⟨⟩, ⟨⟩⟩⟩
  have hwrites : ∀ path ∈ filter.expr.paths, packed.WritesAlike plain path := by
    rintro path hpath field found hfield - hdictionary
    obtain rfl | rfl := hpaths path hpath
    · rw [hroot] at hfield
      obtain ⟨_, ⟨⟩, rfl⟩ := hfield
      cases hdictionary
    · rw [hsegments] at hfield
      obtain ⟨_, ⟨⟩, _, ⟨⟩, rfl⟩ := hfield
      cases hdictionary
  have hmask : filter.mask ⟨false⟩ packed = .ok (some [some true, some false]) := by
    dsimp only [filter, packed]
    rfl
  have halike := mask_alike_of_recoded hpacked hplain htypes rfl filter
    (Converter.isUniform_standard _ _) hblocked hwrites ⟨false⟩
  refine ⟨hpacked, hplain, rfl, htypes, hmask, ?_⟩
  rw [hmask] at halike
  generalize filter.mask ⟨false⟩ plain = other at halike ⊢
  cases halike with
  | ok h => rw [← h]

/-- Records are named with the types of their fields, a field of nulls that is stored in a
dictionary is to be had where a plain one is not, and a converter may tell layouts of texts
apart. -/
theorem mask_ne_of_recoded :
  let holding (flag : Bool) (column : Column) : Batch :=
    ⟨1, [("s", .record (some [flag]) [("d", column)] 1)]⟩
  let packed (type : DataType) (cell : Option Cell) : Column :=
    .dictionary (.int .w32) [some 0] (.leaf type [cell])
  let plain (type : DataType) (cell : Option Cell) : Column := .leaf type [cell]
  let above := Filter.ofExpr
    (.comparison "s" (.relation .gt) (.scalar (.number (.integer 5))))
  let isNull := Filter.ofExpr (.comparison "s.d" (.relation .eq) (.scalar .null))
  let typeName : Filter :=
    ⟨.comparison "s.d" (.relation .eq) (.scalar (.text "")), fun _ type => .ok (.text type.name),
      none⟩
  let text : Option Cell := some (.text "Utf8")
  ((holding true (packed (.text .short) text)).tuples
      = (holding true (plain (.text .short) text)).tuples ∧
    above.mask ⟨true⟩ (holding true (packed (.text .short) text))
      = .error (.notComparable "s" (.struct [("d", .dictionary (.int .w32) (.text .short))])) ∧
    above.mask ⟨true⟩ (holding true (plain (.text .short) text))
      = .error (.notComparable "s" (.struct [("d", .text .short)]))) ∧
  ((holding false (packed .null none)).tuples = (holding false (plain .null none)).tuples ∧
    isNull.mask ⟨true⟩ (holding false (packed .null none)) = .ok (some [some true]) ∧
    isNull.mask ⟨true⟩ (holding false (plain .null none))
      = .error (.backend (.cast .precision))) ∧
  (holding true (plain (.text .short) text)).tuples
    = (holding true (plain (.text .long) text)).tuples ∧
  typeName.mask ⟨true⟩ (holding true (plain (.text .short) text)) = .ok (some [some true]) ∧
  typeName.mask ⟨true⟩ (holding true (plain (.text .long) text)) = .ok (some [some false])
  := ⟨⟨rfl, rfl, rfl⟩, ⟨rfl, rfl, rfl⟩, rfl, rfl, rfl⟩

end Filter

end RowFilter
