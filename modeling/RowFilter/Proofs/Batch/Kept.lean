import RowFilter.Proofs.Batch.Tuples

/-!
# Kept rows

A column keeps the marked rows of another one when it has their cells, keys and nulls
(`Column.Keeps`); the two may still differ in how records say that none of their rows is null.  What
is taken out of such columns is related in the same way: values of dictionaries, fields of records
under the nulls around them, comparisons with a literal (`Column.Keeps.relate_eq`) and texts
(`Column.Keeps.texts_eq`).
-/

namespace RowFilter

namespace Column

variable {α β γ : Type}

/-! ### Marked entries -/

/-- What is marked of two lists combined are the combined marked entries. -/
theorem marked_zipWith (f : α → β → γ) :
  ∀ (marks : List Bool) (left : List α) (right : List β),
    left.length = marks.length → right.length = marks.length →
      marked marks (List.zipWith f left right)
        = List.zipWith f (marked marks left) (marked marks right)
  | [], _, _, _, _ => rfl
  | mark :: marks, a :: left, b :: right, hleft, hright => by
      have ih := marked_zipWith f marks left right (Nat.succ.inj hleft) (Nat.succ.inj hright)
      cases mark with
      | true => simp only [List.zipWith_cons_cons, marked, ih]
      | false => simp only [List.zipWith_cons_cons, marked, ih]

theorem marked_replicate (entry : α) :
  ∀ marks : List Bool,
    marked marks (List.replicate marks.length entry) = List.replicate (marks.count true) entry
  | [] => rfl
  | true :: marks => by
      rw [List.length_cons, List.replicate_succ, marked, marked_replicate entry marks,
        List.count_cons_self, List.replicate_succ]
  | false :: marks => by
      rw [List.length_cons, List.replicate_succ, marked, marked_replicate entry marks,
        List.count_cons_of_ne Bool.false_ne_true]

theorem mem_of_mem_marked {entry : α} :
  ∀ {marks : List Bool} {entries : List α}, entry ∈ marked marks entries → entry ∈ entries
  | true :: _, _ :: _, h => by
      obtain rfl | h := List.mem_cons.mp h
      · apply List.mem_cons_self
      · apply List.mem_cons_of_mem _ (mem_of_mem_marked h)
  | false :: _, _ :: _, h => List.mem_cons_of_mem _ (mem_of_mem_marked h)

/-- What holds of all entries holds of the marked ones. -/
theorem all_marked {p : α → Bool} (marks : List Bool) {entries : List α}
    (h : entries.all p = true) :
  (marked marks entries).all p = true
  := by
  rw [List.all_eq_true] at h ⊢
  intro entry hmem
  apply h entry (mem_of_mem_marked hmem)

theorem marked_nil (marks : List Bool) :
  marked marks ([] : List α) = []
  := by
  cases marks with
  | nil => rfl
  | cons mark marks => cases mark <;> rfl

/-- What is marked a second time among the marked entries is marked in both ways. -/
theorem marked_marked :
  ∀ (marks others : List Bool) (entries : List α),
    marked (marked marks others) (marked marks entries)
      = marked (List.zipWith Bool.and marks others) entries
  | [], _, _ => rfl
  | _ :: _, [], _ => by
      rw [marked_nil, List.zipWith_nil_right]
      rfl
  | _ :: _, _ :: _, [] => by rw [marked_nil, marked_nil, marked_nil]
  | true :: marks, true :: others, entry :: entries =>
      congrArg (entry :: ·) (marked_marked marks others entries)
  | true :: marks, false :: others, _ :: entries => marked_marked marks others entries
  | false :: marks, _ :: others, _ :: entries => marked_marked marks others entries

/-- As many entries are marked a second time as are marked in both ways. -/
theorem count_marked :
  ∀ marks others : List Bool,
    (marked marks others).count true = (List.zipWith Bool.and marks others).count true
  | [], _ => rfl
  | _ :: _, [] => by rw [marked_nil, List.zipWith_nil_right]
  | true :: marks, true :: others => by
      rw [marked, List.zipWith_cons_cons, Bool.and_self, List.count_cons_self,
        List.count_cons_self, count_marked marks others]
  | true :: marks, false :: others => by
      rw [marked, List.zipWith_cons_cons, List.count_cons_of_ne Bool.false_ne_true,
        Bool.and_false, List.count_cons_of_ne Bool.false_ne_true, count_marked marks others]
  | false :: marks, _ :: others => by
      rw [marked, List.zipWith_cons_cons, Bool.false_and,
        List.count_cons_of_ne Bool.false_ne_true, count_marked marks others]

/-- Entries that are combined with marks, all of them true, are left as they are if a true mark
leaves each of them so. -/
theorem zipWith_eq_right {f : Bool → α → α} (hf : ∀ entry, f true entry = entry) :
  ∀ {marks : List Bool} {entries : List α}, entries.length = marks.length →
    marks.all id = true → List.zipWith f marks entries = entries
  | [], [], _, _ => rfl
  | mark :: marks, entry :: entries, hlength, hall => by
      rw [List.all_cons, Bool.and_eq_true] at hall
      obtain ⟨hmark, hall⟩ := hall
      change mark = true at hmark
      rw [List.zipWith_cons_cons, hmark, hf]
      apply congrArg (entry :: ·) (zipWith_eq_right hf (Nat.succ.inj hlength) hall)

/-- Of marks that are all true, none takes an entry away. -/
theorem masked_eq_self {marks : List Bool} {entries : List (Option α)}
    (hlength : entries.length = marks.length) (hall : marks.all id = true) :
  masked marks entries = entries
  := by
  apply zipWith_eq_right _ hlength hall
  intro entry
  rfl

/-! ### Columns under nulls -/

/-- Whether each row of a record is not null. -/
def presence (valid : Option (List Bool)) (rows : Nat) : List Bool :=
  valid.getD (List.replicate rows true)

variable {valid : Option (List Bool)} {rows : Nat}

theorem length_presence_iff :
  (presence valid rows).length = rows ↔ ∀ flags ∈ valid, flags.length = rows
  := by
  cases valid with
  | none => simp [presence]
  | some flags => simp [presence]

/-- A column stays as it is where no row becomes null. -/
theorem under_of_all {column : Column} (h : (presence valid rows).all id = true) :
  column.under valid = some column
  := by
  cases valid with
  | none => rfl
  | some flags => exact if_pos h

/-- Where a row becomes null, the nulls have been written down. -/
theorem eq_presence_of_not_all (h : ¬ (presence valid rows).all id = true) :
  valid = some (presence valid rows)
  := by
  cases valid with
  | none =>
      refine absurd ?_ h
      rw [presence, Option.getD_none]
      simp
  | some flags => rfl

/-- The cells of a column inside a record are those of its present rows. -/
theorem under_leaf {type : DataType} {cells : List (Option Cell)} (hcells : cells.length = rows)
    (hlength : (presence valid rows).length = rows) :
  (leaf type cells).under valid
    = if (presence valid rows).all id || marksNulls type then
        some (leaf type (masked (presence valid rows) cells))
      else none
  := by
  by_cases hall : (presence valid rows).all id = true
  · rw [under_of_all hall, hall, Bool.true_or, if_pos rfl,
      masked_eq_self (hcells.trans hlength.symm) hall]
  · rw [eq_false_of_ne_true hall, Bool.false_or]
    apply Eq.trans (congrArg (under · _) (eq_presence_of_not_all hall))
    exact if_neg hall

/-- The keys of a column inside a record are those of its present rows. -/
theorem under_dictionary {key : DataType} {keys : List (Option Nat)} {values : Column}
    (hkeys : keys.length = rows) (hlength : (presence valid rows).length = rows) :
  (dictionary key keys values).under valid
    = some (dictionary key (masked (presence valid rows) keys) values)
  := by
  by_cases hall : (presence valid rows).all id = true
  · rw [under_of_all hall, masked_eq_self (hkeys.trans hlength.symm) hall]
  · apply Eq.trans (congrArg (under · _) (eq_presence_of_not_all hall))
    exact if_neg hall

/-- The rows of a record inside a record are present in both. -/
theorem under_record {own : Option (List Bool)} (fields : List (String × Column))
    (hown : (presence own rows).length = rows)
    (hlength : (presence valid rows).length = rows) :
  ∃ inner, (record own fields rows).under valid = some (record inner fields rows) ∧
    presence inner rows = List.zipWith Bool.and (presence valid rows) (presence own rows)
  := by
  by_cases hall : (presence valid rows).all id = true
  · refine ⟨own, under_of_all hall, ?_⟩
    symm
    apply zipWith_eq_right Bool.true_and (hown.trans hlength.symm) hall
  · refine ⟨some (List.zipWith Bool.and (presence valid rows) (presence own rows)), ?_, rfl⟩
    apply Eq.trans (congrArg (under · _) (eq_presence_of_not_all hall))
    exact if_neg hall

/-! ### Kept rows -/

mutual

/-- Whether a column has the marked rows of another one. -/
inductive Keeps (marks : List Bool) : Column → Column → Prop where
  | leaf (type : DataType) {cells : List (Option Cell)} (h : cells.length = marks.length) :
    Keeps marks (.leaf type cells) (.leaf type (marked marks cells))
  | dictionary (key : DataType) {keys : List (Option Nat)} (values : Column)
      (h : keys.length = marks.length) :
    Keeps marks (.dictionary key keys values) (.dictionary key (marked marks keys) values)
  | record {valid kept : Option (List Bool)} {fields others : List (String × Column)}
      (hvalid : ∀ flags ∈ valid, flags.length = marks.length)
      (hkept : presence kept (marks.count true) = marked marks (presence valid marks.length))
      (hfields : FieldsKeep marks fields others) :
    Keeps marks (.record valid fields marks.length) (.record kept others (marks.count true))

/-- Whether the fields of a record have the marked rows of other ones. -/
inductive FieldsKeep (marks : List Bool) :
    List (String × Column) → List (String × Column) → Prop where
  | nil : FieldsKeep marks [] []
  | cons (name : String) {column other : Column} {rest others : List (String × Column)}
      (hcolumn : Keeps marks column other) (hrest : FieldsKeep marks rest others) :
    FieldsKeep marks ((name, column) :: rest) ((name, other) :: others)

end

variable {marks : List Bool} {column other : Column}

mutual

/-- The rows that a column keeps are those that are marked. -/
theorem keeps_keep :
  ∀ {column : Column}, column.Fits marks.length → Keeps marks column (column.keep marks)
  | .leaf type _, h => .leaf type h
  | .dictionary key _ values, h => .dictionary key values h
  | .record valid fields _, ⟨hcount, hvalid, hfields⟩ => by
      rw [hcount, keep]
      apply Keeps.record hvalid
      · cases valid with
        | none => exact (marked_replicate true marks).symm
        | some flags => rfl
      · apply fieldsKeep_keepFields hfields

/-- The rows that the fields of a record keep are those that are marked. -/
theorem fieldsKeep_keepFields :
  ∀ {fields : List (String × Column)}, FieldsFit marks.length fields →
    FieldsKeep marks fields (keepFields marks fields)
  | [], _ => .nil
  | (name, _) :: _, ⟨hcolumn, hrest⟩ =>
      .cons name (keeps_keep hcolumn) (fieldsKeep_keepFields hrest)

end

mutual

/-- A column that keeps rows has an entry for each of them. -/
theorem fits_keep :
  ∀ {column : Column}, column.Fits marks.length → (column.keep marks).Fits (marks.count true)
  | .leaf _ _, h => length_marked h
  | .dictionary _ _ _, h => length_marked h
  | .record _ _ _, ⟨_, hvalid, hfields⟩ => by
      refine ⟨rfl, ?_, fieldsFit_keepFields hfields⟩
      intro flags hflags
      obtain ⟨own, hown, rfl⟩ := Option.map_eq_some_iff.mp hflags
      apply length_marked (hvalid own hown)

/-- The fields of a record that keep rows have an entry for each of them. -/
theorem fieldsFit_keepFields :
  ∀ {fields : List (String × Column)}, FieldsFit marks.length fields →
    FieldsFit (marks.count true) (keepFields marks fields)
  | [], _ => trivial
  | _ :: _, ⟨hcolumn, hrest⟩ => ⟨fits_keep hcolumn, fieldsFit_keepFields hrest⟩

end

mutual

/-- What is kept of the kept rows of a column are the rows that are marked in both ways. -/
theorem keep_keep (marks others : List Bool) :
  ∀ column : Column,
    (column.keep marks).keep (marked marks others)
      = column.keep (List.zipWith Bool.and marks others)
  | .leaf type cells => by
      rw [keep, keep, keep, marked_marked]
  | .dictionary key keys values => by
      rw [keep, keep, keep, marked_marked]
  | .record valid fields rows => by
      rw [keep, keep, keep, keepFields_keepFields marks others fields, count_marked,
        Option.map_map]
      congr 2
      funext flags
      apply marked_marked

/-- What is kept of the kept rows of the fields of a record are the rows that are marked in both
ways. -/
theorem keepFields_keepFields (marks others : List Bool) :
  ∀ fields : List (String × Column),
    keepFields (marked marks others) (keepFields marks fields)
      = keepFields (List.zipWith Bool.and marks others) fields
  | [] => rfl
  | (name, column) :: rest => by
      rw [keepFields, keepFields, keepFields, keep_keep marks others column,
        keepFields_keepFields marks others rest]

end

mutual

/-- A column of which rows are kept has an entry for each mark. -/
theorem Keeps.fits :
  ∀ {column other : Column}, Keeps marks column other → column.Fits marks.length
  | _, _, .leaf _ h => h
  | _, _, .dictionary _ _ h => h
  | _, _, .record hvalid _ hfields => ⟨rfl, hvalid, hfields.fieldsFit⟩

/-- The fields of a record of which rows are kept have an entry for each mark. -/
theorem FieldsKeep.fieldsFit :
  ∀ {fields others : List (String × Column)}, FieldsKeep marks fields others →
    FieldsFit marks.length fields
  | _, _, .nil => trivial
  | _, _, .cons _ hcolumn hrest => ⟨hcolumn.fits, hrest.fieldsFit⟩

end

/-- There are as many kept rows as marks that are true. -/
theorem Keeps.rows_eq (h : Keeps marks column other) :
  other.rows = marks.count true
  := by
  cases h with
  | leaf type hcells => apply length_marked hcells
  | dictionary key values hkeys => apply length_marked hkeys
  | record hvalid hkept hfields => rfl

mutual

/-- Kept rows are of the same type. -/
theorem Keeps.type_eq :
  ∀ {column other : Column}, Keeps marks column other → column.type = other.type
  | _, _, .leaf _ _ => rfl
  | _, _, .dictionary _ _ _ => rfl
  | _, _, .record _ _ hfields => by
      rw [type, type, hfields.fieldTypes_eq]

/-- The kept rows of the fields of a record are of the same types. -/
theorem FieldsKeep.fieldTypes_eq :
  ∀ {fields others : List (String × Column)}, FieldsKeep marks fields others →
    fieldTypes fields = fieldTypes others
  | _, _, .nil => rfl
  | _, _, .cons _ hcolumn hrest => by
      rw [fieldTypes, fieldTypes, hcolumn.type_eq, hrest.fieldTypes_eq]

end

/-- The fields of a name are both there or both not, and the kept rows are those of the field. -/
theorem FieldsKeep.lookup (name : String) :
  ∀ {fields others : List (String × Column)}, FieldsKeep marks fields others →
    Option.Rel (Keeps marks) (fields.lookup name) (others.lookup name)
  | _, _, .nil => .none
  | _, _, .cons found hcolumn hrest => by
      rw [List.lookup_cons, List.lookup_cons]
      split
      · apply Option.Rel.some hcolumn
      · apply hrest.lookup

mutual

/-- Marked positions lead to marked rows. -/
theorem keeps_take {positions : List (Option Nat)} (h : positions.length = marks.length) :
  ∀ column : Column, Keeps marks (column.take positions) (column.take (marked marks positions))
  | .leaf type cells => by
      rw [take, take, pick, pick, ← marked_map]
      apply Keeps.leaf
      rw [List.length_map, h]
  | .dictionary key keys values => by
      rw [take, take, pick, pick, ← marked_map]
      apply Keeps.dictionary
      rw [List.length_map, h]
  | .record valid fields rows => by
      rw [take, take, length_marked h, h]
      apply Keeps.record
      · rintro flags ⟨⟩
        rw [List.length_map, h]
      · exact (marked_map _ _ _).symm
      · apply fieldsKeep_takeFields h fields

/-- In the fields of a record, marked positions lead to marked rows. -/
theorem fieldsKeep_takeFields {positions : List (Option Nat)}
    (h : positions.length = marks.length) :
  ∀ fields : List (String × Column),
    FieldsKeep marks (takeFields positions fields) (takeFields (marked marks positions) fields)
  | [] => .nil
  | (name, column) :: rest => .cons name (keeps_take h column) (fieldsKeep_takeFields h rest)

end

/-- The kept rows of a column without its dictionary are those of the column. -/
theorem Keeps.unpack (h : Keeps marks column other) :
  Keeps marks column.unpack other.unpack
  := by
  cases h with
  | leaf type h => apply Keeps.leaf type h
  | dictionary key values h => apply keeps_take h
  | record hvalid hkept hfields => apply Keeps.record hvalid hkept hfields

/-- The kept rows of a column without any dictionary are those of the column. -/
theorem Keeps.decoded (h : Keeps marks column other) :
  Keeps marks column.decoded other.decoded
  := by
  cases h with
  | leaf type h => apply Keeps.leaf type h
  | dictionary key values h => apply keeps_take h
  | record hvalid hkept hfields => apply Keeps.record hvalid hkept hfields

/-- The kept rows of a column inside a record are those of the column in the kept rows of the
record. -/
theorem Keeps.under {valid kept : Option (List Bool)} {inside : Column}
    (h : Keeps marks column other) (hvalid : ∀ flags ∈ valid, flags.length = marks.length)
    (hkept : presence kept (marks.count true) = marked marks (presence valid marks.length))
    (hinside : column.under valid = some inside) :
  ∃ found, other.under kept = some found ∧ Keeps marks inside found
  := by
  -- The nulls of the record may all lie in rows that are not kept, so that the two columns are not
  -- changed in the same way; they agree in which rows are present.
  have hlength := length_presence_iff.mpr hvalid
  have hfewer : (presence kept (marks.count true)).length = marks.count true := by
    rw [hkept, length_marked hlength]
  cases h with
  | leaf type hcells =>
      rw [under_leaf hcells hlength] at hinside
      rw [under_leaf (length_marked hcells) hfewer, hkept]
      split at hinside
      · next hmarks =>
          cases hinside
          rw [if_pos, masked, masked, ← marked_zipWith _ _ _ _ hlength hcells]
          · refine ⟨_, rfl, Keeps.leaf type ?_⟩
            rw [List.length_zipWith, hlength, hcells, Nat.min_self]
          · rw [Bool.or_eq_true] at hmarks ⊢
            apply hmarks.imp_left (all_marked marks)
      · cases hinside
  | dictionary key values hkeys =>
      rw [under_dictionary hkeys hlength] at hinside
      rw [under_dictionary (length_marked hkeys) hfewer, hkept]
      cases hinside
      rw [masked, masked, ← marked_zipWith _ _ _ _ hlength hkeys]
      refine ⟨_, rfl, Keeps.dictionary key values ?_⟩
      rw [List.length_zipWith, hlength, hkeys, Nat.min_self]
  | @record own ownKept fields others hown hpresent hfields =>
      have hownLength := length_presence_iff.mpr hown
      have hownFewer : (presence ownKept (marks.count true)).length = marks.count true := by
        rw [hpresent, length_marked hownLength]
      obtain ⟨inner, hinner, hpresence⟩ := under_record fields hownLength hlength
      obtain ⟨innerKept, hinnerKept, hpresenceKept⟩ := under_record others hownFewer hfewer
      cases hinner.symm.trans hinside
      refine ⟨_, hinnerKept, Keeps.record ?_ ?_ hfields⟩
      · apply length_presence_iff.mp
        rw [hpresence, List.length_zipWith, hlength, hownLength, Nat.min_self]
      · rw [hpresenceKept, hpresence, hkept, hpresent, marked_zipWith _ _ _ _ hlength hownLength]

theorem nulls_record (valid : Option (List Bool)) (fields : List (String × Column)) (rows : Nat) :
  (record valid fields rows).nulls = (presence valid rows).map Bool.not
  := by
  cases valid with
  | none =>
      rw [presence, Option.getD_none, List.map_replicate]
      rfl
  | some flags => rfl

/-- Kept rows are null where the marked rows are. -/
theorem Keeps.nulls_eq (h : Keeps marks column other) :
  other.nulls = marked marks column.nulls
  := by
  have hdecoded := h.decoded
  rw [nulls, nulls]
  generalize column.decoded = own at hdecoded
  generalize other.decoded = kept at hdecoded
  cases hdecoded with
  | leaf type hcells => exact (marked_map _ _ _).symm
  | dictionary key values hkeys => exact (marked_map _ _ _).symm
  | @record valid kept fields others hvalid hkept hfields =>
      apply (nulls_record kept others _).trans
      rw [hkept, ← marked_map]
      exact congrArg (marked marks) (nulls_record valid fields _).symm

/-! ### Comparisons and texts -/

/-- A comparison of the kept rows has the marked cells, and fails as that of all rows does. -/
theorem Keeps.operands_eq (h : Keeps marks column other) (literal : Literal) :
  other.operands literal
    = (column.operands literal).map fun (type, cells, cell) => (type, marked marks cells, cell)
  := by
  cases h with
  | leaf type hcells =>
      simp only [operands]
      split
      · rw [toDoubles, toDoubles, ← marked_map]
        split <;> rfl
      · split <;> rfl
  | @dictionary key keys values hkeys =>
      have hdecoded := (Keeps.dictionary key values hkeys).decoded
      simp only [operands, type]
      generalize (Column.dictionary key keys values).decoded = own at hdecoded
      generalize (Column.dictionary key (marked marks keys) values).decoded = kept at hdecoded
      cases hdecoded with
      | leaf own hcells =>
          dsimp only
          split <;> rfl
      | _ =>
          dsimp only
          split
          · rw [Except.map, marked_nil]
          · rfl
  | record hvalid hkept hfields =>
      simp only [operands, type, hfields.fieldTypes_eq]
      split
      · rw [Except.map, marked_nil]
      · rfl

/-- The kept rows stand in a relation to a literal where the marked rows do, and are not compared if
all rows are not. -/
theorem Keeps.relate_eq (h : Keeps marks column other) (path : String) (relation : Relation)
    (literal : Literal) :
  other.relate path relation literal
    = (column.relate path relation literal).map (marked marks)
  := by
  rw [relate, relate, h.operands_eq]
  cases column.operands literal with
  | error error => rfl
  | ok found =>
      obtain ⟨type, cells, cell⟩ := found
      dsimp only [Except.map]
      split
      · rfl
      · simp only [Mask.twoValued, Mask.ofBools, Mask.marks, marked_map]

/-- The texts of the marked cells are the marked texts. -/
theorem writeCells_marked {write : Cell → Except CastFault (Option String)} :
  ∀ (marks : List Bool) {cells : List (Option Cell)} {written : List (Option String)},
    writeCells write cells = .ok written →
      writeCells write (marked marks cells) = .ok (marked marks written)
  | [], _, _, _ => rfl
  | _ :: _, [], _, h => by
      cases h
      rw [marked_nil, marked_nil, writeCells]
  | mark :: marks, none :: rest, _, h => by
      obtain ⟨others, hothers, rfl⟩ := Except.map_eq_ok_iff.mp h
      have ih := writeCells_marked marks hothers
      cases mark with
      | true =>
          rw [marked, marked, writeCells, ih]
          rfl
      | false => apply ih
  | mark :: marks, some cell :: rest, _, h => by
      obtain ⟨first, hfirst, h'⟩ := Except.bind_eq_ok_iff.mp h
      obtain ⟨others, hothers, h''⟩ := Except.bind_eq_ok_iff.mp h'
      cases h''
      have ih := writeCells_marked marks hothers
      cases mark with
      | true =>
          rw [marked, marked, writeCells, hfirst, ih]
          rfl
      | false => apply ih

/-- The texts of the kept rows are those of the marked ones. -/
theorem Keeps.texts_eq (h : Keeps marks column other) {written : List (Option String)}
    (hwritten : column.texts = .ok written) :
  other.texts = .ok (marked marks written)
  := by
  cases h with
  | leaf type hcells =>
      obtain ⟨write, hwrite, hwritten⟩ := Except.bind_eq_ok_iff.mp hwritten
      rw [texts, hwrite]
      apply writeCells_marked marks hwritten
  | dictionary key values hkeys =>
      obtain ⟨all, hall, rfl⟩ := Except.map_eq_ok_iff.mp hwritten
      rw [texts, hall]
      exact congrArg Except.ok (marked_map _ _ _).symm
  | record hvalid hkept hfields => cases hwritten

end Column

end RowFilter
