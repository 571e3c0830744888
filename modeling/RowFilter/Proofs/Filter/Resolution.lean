import RowFilter.Proofs.Filter.Mirrored
import RowFilter.Proofs.Plan.Memory

/-!
# Resolution of paths

A `Path.Trail` is a row of segments that a store finds, each inside the one before, with the calls
that ask for them.  Where the trail of a path ends settles all that becomes of the path: the calls
that are made and their outcome are those of a `Path.Resolution`, and no others
(`Path.resolution_iff`).  In a batch the trail is a chain of columns (`Batch.HasChain`), which leads
to a field unless one on the way is not to be had (`Path.exists_resolve_eq_ok_iff`).
-/

namespace RowFilter

namespace Path

/-! ### Segments -/

/-- The segments of a path, with points between them, are the path. -/
theorem intercalate_segments (path : String) :
  String.intercalate "." (segments path) = path
  := by
  have hchars : (segments path).map String.toList = path.toList.splitOn '.' := by
    simp [segments, Function.comp_def]
  apply String.toList_injective
  rw [String.toList_intercalate, hchars]
  apply List.intercalate_splitOn

/-- There is no point in a part of a text that is split at its points. -/
theorem notMem_of_mem_splitOn {point : Char} :
  ∀ {chars part : List Char}, part ∈ chars.splitOn point → point ∉ part
  | [], part, h => by
      rw [List.splitOn_eq_splitOnP, List.splitOnP_nil, List.mem_singleton] at h
      rw [h]
      apply List.not_mem_nil
  | char :: rest, part, h => by
      rw [List.splitOn_eq_splitOnP, List.splitOnP_cons_eq_if_modifyHead,
        ← List.splitOn_eq_splitOnP] at h
      split at h
      · cases h with
        | head => apply List.not_mem_nil
        | tail _ h => apply notMem_of_mem_splitOn h
      · next hchar =>
          have hrest (other : List Char) (hother : other ∈ rest.splitOn point) : point ∉ other :=
            notMem_of_mem_splitOn hother
          cases hparts : rest.splitOn point with
          | nil => cases List.splitOn_ne_nil point rest hparts
          | cons first others =>
              rw [hparts] at h hrest
              rw [List.modifyHead_cons] at h
              cases h with
              | head =>
                  rw [List.mem_cons, not_or]
                  refine ⟨?_, hrest first List.mem_cons_self⟩
                  rintro rfl
                  apply hchar
                  apply beq_self_eq_true
              | tail _ h => apply hrest part (List.mem_cons_of_mem first h)

/-- There is no point in a segment. -/
theorem notMem_of_mem_segments {path segment : String} (h : segment ∈ segments path) :
  '.' ∉ segment.toList
  := by
  obtain ⟨part, hpart, rfl⟩ := List.mem_map.mp h
  rw [String.toList_ofList]
  apply notMem_of_mem_splitOn hpart

theorem segments_ne_nil (path : String) :
  segments path ≠ []
  := by
  rw [segments, Ne, List.map_eq_nil_iff]
  apply List.splitOn_ne_nil

example : segments ".a..b" = ["", "a", "", "b"] := by decide

/-! ### Trails -/

variable {Field Predicate : Type}

open Plan

/-- The call for a segment: for a name inside the field before, or at the root if there is none. -/
def lookup : Option Field → String → Call Field Predicate .lookup
  | none, segment => .root segment
  | some field, segment => .nested field segment

/-- Whether a store finds some segments, the first at the root and each other one inside the field
before, with the calls that ask for them and the last field found. -/
inductive Trail (store : Store Field Predicate) (before : List (Made Field Predicate)) :
    List String → List (Made Field Predicate) → Option Field → Prop
  | root : Trail store before [] [] none
  | step {segments : List String} {calls : List (Made Field Predicate)} {place : Option Field}
      {segment : String} {field : Field} (trail : Trail store before segments calls place)
      (h : (store (before ++ calls)).answer .lookup (lookup place segment) = .ok (some field)) :
    Trail store before (segments ++ [segment]) (calls ++ [⟨.lookup, lookup place segment⟩])
      (some field)

/-- The calls that are made for a path, and what they come to: the whole path is found, or a
segment of it is not there, or the store fails at one. -/
inductive Resolution (store : Store Field Predicate) (before : List (Made Field Predicate))
    (path : String) : List (Made Field Predicate) → Except FilterError Field → Prop
  | found {calls : List (Made Field Predicate)} {field : Field}
      (trail : Trail store before (segments path) calls (some field)) :
    Resolution store before path calls (.ok field)
  | missing {earlier later : List String} {segment : String} {calls : List (Made Field Predicate)}
      {place : Option Field} (hsegments : segments path = earlier ++ segment :: later)
      (trail : Trail store before earlier calls place)
      (h : (store (before ++ calls)).answer .lookup (lookup place segment) = .ok none) :
    Resolution store before path (calls ++ [⟨.lookup, lookup place segment⟩])
      (.error (.unknownField path segment))
  | failed {earlier later : List String} {segment : String} {calls : List (Made Field Predicate)}
      {place : Option Field} {error : FilterError}
      (hsegments : segments path = earlier ++ segment :: later)
      (trail : Trail store before earlier calls place)
      (h : (store (before ++ calls)).answer .lookup (lookup place segment) = .error error) :
    Resolution store before path (calls ++ [⟨.lookup, lookup place segment⟩]) (.error error)

/-- The plan that follows segments from a place on, a field or the root. -/
def follow (path : String) : List String → Option Field → Plan Field Predicate Field
  | [], none => .fail (.unknownField path path)
  | [], some field => .done field
  | segment :: rest, place =>
    .ask .lookup (lookup place segment) fun
      | none => .fail (.unknownField path segment)
      | some child => follow path rest (some child)

variable {store : Store Field Predicate} {before calls : List (Made Field Predicate)}
  {path : String} {place : Option Field} {earlier : List String}

theorem descend_eq_follow (path : String) :
  ∀ (segments : List String) (field : Field),
    (descend path segments field : Plan Field Predicate Field)
      = follow path segments (some field)
  | [], _ => rfl
  | segment :: rest, field => by
      rw [descend, follow, lookup]
      congr 1
      funext answer
      cases answer with
      | none => rfl
      | some child => apply descend_eq_follow path rest child

/-- A path is followed from the root, with a note at the end. -/
theorem resolve_eq_follow (typeOf : Field → DataType) (path : String) :
  (resolve typeOf path : Plan Field Predicate Field)
    = (follow path (segments path) none).bind fun found =>
        .note (.resolved path (segments path).length (typeOf found)) (.done found)
  := by
  rw [resolve]
  cases segments path with
  | nil => rfl
  | cons first rest =>
      dsimp only
      rw [follow, Plan.bind, lookup, List.length_cons]
      congr 1
      funext answer
      cases answer with
      | none => rfl
      | some field =>
          dsimp only
          rw [descend_eq_follow]

theorem outcome_resolve (typeOf : Field → DataType) :
  (resolve typeOf path).outcome store before
    = (follow path (segments path) none).outcome store before
  := by
  rw [resolve_eq_follow, outcome_bind]
  cases (follow path (segments path) none).outcome store before <;> rfl

theorem made_resolve (typeOf : Field → DataType) :
  (resolve typeOf path).made store before
    = (follow path (segments path) none).made store before
  := by
  rw [resolve_eq_follow]
  cases houtcome : (follow path (segments path) none).outcome store before with
  | ok field => rw [made_bind_of_ok _ houtcome, made, made, List.append_nil]
  | error error => rw [made_bind_of_error _ houtcome]

/-- There is one call for each segment of a trail. -/
theorem Trail.length_calls (h : Trail store before earlier calls place) :
  calls.length = earlier.length
  := by
  induction h with
  | root => rfl
  | step trail h ih => rw [List.length_append, List.length_append, ih]; rfl

/-- A trail that leads to no field has no segments. -/
theorem Trail.eq_nil (h : Trail store before earlier calls none) :
  earlier = []
  := by
  cases h
  rfl

/-- Where a segment is found, the plan goes on from the field. -/
theorem follow_cons_of_some {segment : String} {field : Field}
    (h : (store before).answer .lookup (lookup place segment) = .ok (some field)) (path : String)
    (rest : List String) :
  (follow path (segment :: rest) place).outcome store before
      = (follow path rest (some field)).outcome store
        (before ++ [⟨.lookup, lookup place segment⟩]) ∧
  (follow path (segment :: rest) place).made store before
      = ⟨.lookup, lookup place segment⟩ :: (follow path rest (some field)).made store
        (before ++ [⟨.lookup, lookup place segment⟩])
  := by
  rw [follow, outcome, made, h]
  exact ⟨rfl, rfl⟩

/-- Following segments past a trail is following the rest from its end, after its calls. -/
theorem Trail.follow (h : Trail store before earlier calls place) (path : String)
    (later : List String) :
  (follow path (earlier ++ later) none).outcome store before
      = (follow path later place).outcome store (before ++ calls) ∧
  (follow path (earlier ++ later) none).made store before
      = calls ++ (follow path later place).made store (before ++ calls)
  := by
  induction h generalizing later with
  | root => rw [List.append_nil]; exact ⟨rfl, rfl⟩
  | @step segments calls place segment field trail h ih =>
      obtain ⟨houtcome, hmade⟩ := ih (segment :: later)
      obtain ⟨houtcomes, hmades⟩ := follow_cons_of_some h path later
      rw [List.append_assoc, List.singleton_append, List.append_assoc, List.singleton_append,
        ← List.append_assoc before]
      constructor
      · rw [houtcome, houtcomes]
      · rw [hmade, hmades]

/-- What a resolution says of a path is what becomes of it. -/
theorem Resolution.sound {outcome : Except FilterError Field}
    (h : Resolution store before path calls outcome) (typeOf : Field → DataType) :
  (resolve typeOf path).made store before = calls ∧
  (resolve typeOf path).outcome store before = outcome
  := by
  rw [outcome_resolve, made_resolve]
  cases h with
  | found trail =>
      obtain ⟨houtcome, hmade⟩ := trail.follow path []
      rw [List.append_nil] at houtcome hmade
      rw [houtcome, hmade, follow, made, List.append_nil]
      exact ⟨rfl, rfl⟩
  | @missing _ later segment _ _ hsegments trail h =>
      obtain ⟨houtcome, hmade⟩ := trail.follow path (segment :: later)
      rw [hsegments, houtcome, hmade, follow, made, Plan.outcome, h]
      exact ⟨rfl, rfl⟩
  | @failed _ later segment _ _ _ hsegments trail h =>
      obtain ⟨houtcome, hmade⟩ := trail.follow path (segment :: later)
      rw [hsegments, houtcome, hmade, follow, made, Plan.outcome, h]
      exact ⟨rfl, rfl⟩

/-- From the end of every trail a resolution goes on. -/
theorem exists_resolution :
  ∀ {later earlier : List String} {calls : List (Made Field Predicate)} {place : Option Field},
    Trail store before earlier calls place → segments path = earlier ++ later →
      ∃ calls outcome, Resolution store before path calls outcome
  | [], _, _, place, trail, hsegments => by
      rw [List.append_nil] at hsegments
      subst hsegments
      cases place with
      | none => cases segments_ne_nil path trail.eq_nil
      | some field => exact ⟨_, _, .found trail⟩
  | segment :: later, _, calls, place, trail, hsegments => by
      cases hanswer : (store (before ++ calls)).answer .lookup (lookup place segment) with
      | error error => exact ⟨_, _, .failed hsegments trail hanswer⟩
      | ok answer =>
          cases answer with
          | none => exact ⟨_, _, .missing hsegments trail hanswer⟩
          | some field =>
              apply exists_resolution (trail.step hanswer)
              rw [hsegments, List.append_assoc, List.singleton_append]

/-- The calls made for a path and their outcome are those of a resolution, and of one only. -/
theorem resolution_iff (typeOf : Field → DataType) {outcome : Except FilterError Field} :
  Resolution store before path calls outcome
    ↔ (resolve typeOf path).made store before = calls ∧
      (resolve typeOf path).outcome store before = outcome
  := by
  constructor
  · intro h
    apply h.sound
  · rintro ⟨rfl, rfl⟩
    obtain ⟨calls, outcome, h⟩ := exists_resolution .root (List.nil_append (segments path)).symm
    obtain ⟨hmade, houtcome⟩ := h.sound typeOf
    rw [hmade, houtcome]
    apply h

end Path

/-! ### Chains of columns -/

namespace Column

/-- Whether a column is the first one of a name among columns with names. -/
def IsFirst (columns : List (String × Column)) (name : String) (column : Column) : Prop :=
  ∃ earlier later, columns = earlier ++ (name, column) :: later ∧ ∀ entry ∈ earlier, entry.1 ≠ name

/-- Whether columns of some names are there, each the first of its name inside the one before, which
is a record once its dictionary is unpacked. -/
def HasChain : Column → List String → Prop
  | _, [] => True
  | column, name :: rest =>
    ∃ valid fields rows child, column.unpack = .record valid fields rows ∧
      IsFirst fields name child ∧ child.HasChain rest

/-- A column without rows: what it is made of, but for the values of dictionaries. -/
def layout (column : Column) : Column :=
  column.take []

theorem isFirst_iff_lookup {columns : List (String × Column)} {name : String} {column : Column} :
  IsFirst columns name column ↔ columns.lookup name = some column
  := by
  rw [IsFirst, List.lookup_eq_some_iff]
  simp only [bne_iff_ne, ne_comm]

mutual

/-- The rows of a column at some positions have its layout. -/
theorem layout_take (positions : List (Option Nat)) :
  ∀ column : Column, (column.take positions).layout = column.layout
  | .leaf _ _ => rfl
  | .dictionary _ _ _ => rfl
  | .record _ fields _ => by
      rw [layout, layout, take, take, take, takeFields_takeFields positions fields]
      rfl

/-- The rows of the fields of a record at some positions have their layouts. -/
theorem takeFields_takeFields (positions : List (Option Nat)) :
  ∀ fields : List (String × Column),
    takeFields [] (takeFields positions fields) = takeFields [] fields
  | [] => rfl
  | (name, column) :: rest => by
      have hcolumn := layout_take positions column
      rw [layout, layout] at hcolumn
      rw [takeFields, takeFields, takeFields, hcolumn, takeFields_takeFields positions rest]

end

/-- A column inside a record has the layout that it has outside. -/
theorem layout_under {valid : Option (List Bool)} {column inside : Column}
    (h : column.under valid = some inside) :
  inside.layout = column.layout
  := by
  obtain ⟨rfl, -⟩ | ⟨flags, -, hcolumn⟩ := under_cases h
  · rfl
  · cases column <;> (cases hcolumn; rfl)

/-- Columns of one layout have one without their dictionaries. -/
theorem layout_unpack_congr {column other : Column} (h : column.layout = other.layout) :
  column.unpack.layout = other.unpack.layout
  := by
  have hunpack (column : Column) : column.unpack.layout = column.layout.unpack := by
    cases column with
    | dictionary key keys values => apply layout_take
    | leaf type cells => rfl
    | record valid fields rows => rfl
  rw [hunpack, hunpack, h]

/-- A column of the layout of a record is a record with fields of the same layouts. -/
theorem eq_record_of_layout {column : Column} {valid : Option (List Bool)}
    {fields : List (String × Column)} {count : Nat}
    (h : column.layout = (record valid fields count).layout) :
  ∃ own others rows, column = .record own others rows ∧ takeFields [] others = takeFields [] fields
  := by
  cases column with
  | leaf type cells => cases h
  | dictionary key keys values => cases h
  | record own others rows =>
      rw [layout, layout, take, take, Column.record.injEq] at h
      exact ⟨own, others, rows, rfl, h.2.1⟩

theorem lookup_takeFields (positions : List (Option Nat)) (name : String) :
  ∀ fields : List (String × Column),
    (takeFields positions fields).lookup name = (fields.lookup name).map (take positions)
  | [] => rfl
  | (other, column) :: rest => by
      rw [takeFields, List.lookup_cons, List.lookup_cons]
      split
      · rfl
      · apply lookup_takeFields positions name rest

/-- Of fields of the same layouts, those of one name have the same layout. -/
theorem exists_lookup_of_layout {fields others : List (String × Column)} {name : String}
    {column : Column} (h : takeFields [] others = takeFields [] fields)
    (hcolumn : fields.lookup name = some column) :
  ∃ other, others.lookup name = some other ∧ other.layout = column.layout
  := by
  have hlookup := congrArg (List.lookup name) h
  rw [lookup_takeFields, lookup_takeFields, hcolumn, Option.map_some] at hlookup
  apply Option.map_eq_some_iff.mp hlookup

end Column

/-- Whether columns of some names are there in a batch, the first one at its root and each other one
inside the one before. -/
def Batch.HasChain (batch : Batch) : List String → Prop
  | [] => False
  | name :: rest => ∃ column, Column.IsFirst batch.columns name column ∧ column.HasChain rest

namespace ColumnField

open Column

/-- Segments lead on from a field if and only if there is a chain of columns for them from a column
of its layout, unless a field on the way is not to be had. -/
theorem exists_leads_iff :
  ∀ {names : List String} {field : ColumnField} {column : Column},
    field.column.layout = column.unpack.layout → ¬ field.IsBlocked names →
      ((∃ found, field.Leads names found) ↔ column.HasChain names)
  | [], field, column, _, _ => iff_of_true ⟨field, rfl⟩ trivial
  | name :: rest, ⟨path, stored⟩, column, hlayout, hblocked => by
      dsimp only at hlayout
      constructor
      · rintro ⟨found, child, hchild, hleads⟩
        obtain ⟨valid, fields, count, inner, inside, rfl, hinner, hinside, rfl⟩ :=
          nested_eq_some hchild
        obtain ⟨own, others, rows, hunpack, hfields⟩ := eq_record_of_layout hlayout.symm
        obtain ⟨other, hother, hsame⟩ := exists_lookup_of_layout hfields hinner
        refine ⟨own, others, rows, other, hunpack, isFirst_iff_lookup.mpr hother, ?_⟩
        refine (exists_leads_iff ?_ ?_).mp ⟨found, hleads⟩
        · apply layout_unpack_congr
          rw [layout_under hinside, hsame]
        · intro hrest
          exact hblocked (.inr ⟨_, hchild, hrest⟩)
      · rintro ⟨own, others, rows, other, hunpack, hfirst, hchain⟩
        rw [hunpack] at hlayout
        obtain ⟨valid, fields, count, rfl, hfields⟩ := eq_record_of_layout hlayout
        obtain ⟨inner, hinner, hsame⟩ :=
          exists_lookup_of_layout hfields (isFirst_iff_lookup.mp hfirst)
        have hnested := @nested_record path name valid fields count inner hinner
        cases hinside : inner.under valid with
        | none =>
            rw [hinside] at hnested
            exact absurd (.inl (faults_nested_iff.mp ⟨_, hnested⟩)) hblocked
        | some inside =>
            rw [hinside] at hnested
            have hinsides : inside.unpack.layout = other.unpack.layout := by
              apply layout_unpack_congr
              rw [layout_under hinside, hsame]
            have hrest : ¬ (mk (path ++ "." ++ name) inside.unpack).IsBlocked rest := by
              intro hrest
              exact hblocked (.inr ⟨_, hnested, hrest⟩)
            obtain ⟨found, hleads⟩ := (exists_leads_iff hinsides hrest).mpr hchain
            exact ⟨found, _, hnested, hleads⟩

end ColumnField

namespace Path

open Plan

variable {batch : Batch} {path : String}

/-- In a batch a path leads to a field if and only if there is a chain of columns for it, and no
field on the way is not to be had. -/
theorem exists_resolve_eq_ok_iff :
  (∃ found, (resolve ColumnField.type path).run batch.backend = .ok found)
    ↔ batch.HasChain (segments path) ∧ ¬ batch.IsBlocked (segments path)
  := by
  have hblocked : (∃ found, (resolve ColumnField.type path).run batch.backend = .ok found) →
      ¬ batch.IsBlocked (segments path) := by
    rintro ⟨found, hfound⟩ hblocked
    obtain ⟨fault, hfault⟩ := faults_resolve_iff.mpr hblocked
    cases hfound.symm.trans hfault
  rw [← and_iff_left_of_imp hblocked]
  apply and_congr_left
  intro hfree
  simp only [resolve_eq_ok_iff]
  cases hsegments : segments path with
  | nil => cases segments_ne_nil path hsegments
  | cons first rest =>
      rw [hsegments] at hfree
      constructor
      · rintro ⟨found, field, hfield, hleads⟩
        have hrest : ¬ field.IsBlocked rest := fun h => hfree ⟨field, hfield, h⟩
        obtain ⟨column, hcolumn, rfl⟩ := Option.map_eq_some_iff.mp hfield
        refine ⟨column, Column.isFirst_iff_lookup.mpr hcolumn, ?_⟩
        exact (ColumnField.exists_leads_iff rfl hrest).mp ⟨found, hleads⟩
      · rintro ⟨column, hfirst, hchain⟩
        have hfield : batch.field? first = some ⟨first, column.unpack⟩ := by
          rw [Batch.field?, Column.isFirst_iff_lookup.mp hfirst, Option.map_some]
        have hrest : ¬ (ColumnField.mk first column.unpack).IsBlocked rest :=
          fun h => hfree ⟨_, hfield, h⟩
        obtain ⟨found, hleads⟩ := (ColumnField.exists_leads_iff rfl hrest).mpr hchain
        exact ⟨found, _, hfield, hleads⟩

/-! ### Exact resolution -/

/-- What the resolution of a path is: which segments there are, which calls are made and what they
come to, and when there is a field for it in a batch. -/
structure ResolvesExactly (path : String) : Prop where
  /-- The path is its segments, of which there is at least one, with points between them and no
  points in them. -/
  joined : String.intercalate "." (segments path) = path
  apart : ∀ segment ∈ segments path, '.' ∉ segment.toList
  nonempty : segments path ≠ []
  /-- The calls and their outcome are those of one resolution. -/
  resolution : ∀ {Field Predicate : Type} (typeOf : Field → DataType)
    (store : Store Field Predicate) (before calls : List (Made Field Predicate))
    (outcome : Except FilterError Field),
    Resolution store before path calls outcome
      ↔ (resolve typeOf path).made store before = calls ∧
        (resolve typeOf path).outcome store before = outcome
  /-- There is one call for each segment of a trail. -/
  calls : ∀ {Field Predicate : Type} (store : Store Field Predicate)
    (before calls : List (Made Field Predicate)) (earlier : List String) (place : Option Field),
    Trail store before earlier calls place → calls.length = earlier.length
  batch : ∀ batch : Batch,
    (∃ found, (resolve ColumnField.type path).run batch.backend = .ok found)
      ↔ batch.HasChain (segments path) ∧ ¬ batch.IsBlocked (segments path)

/-- Every path is resolved segment by segment: the calls are those for the segments up to the first
one that is not found, in order, and the outcome is the last field, that segment, or the error of
the store.  In a batch there is a field for a path if and only if there is a chain of columns for
it, and none of its columns has to mark nulls that it cannot mark. -/
theorem resolve_exact (path : String) :
  ResolvesExactly path
  where
  joined := intercalate_segments path
  apart _ := notMem_of_mem_segments
  nonempty := segments_ne_nil path
  resolution typeOf _ _ _ _ := resolution_iff typeOf
  calls _ _ _ _ _ := Trail.length_calls
  batch _ := exists_resolve_eq_ok_iff

/-- Not every chain of columns leads to a field: a column of nulls is inside a record with a null
row. -/
theorem not_resolve_hasChain :
  let batch : Batch := ⟨1, [("s", .record (some [false]) [("n", .leaf .null [none])] 1)]⟩
  batch.IsValid ∧ batch.HasChain (segments "s.n") ∧
  (resolve ColumnField.type "s.n").run batch.backend = .error (.backend (.cast .precision))
  := by
  intro batch
  have hvalid : batch.IsValid := by
    refine ⟨⟨⟨rfl, ?_, rfl, trivial⟩, trivial⟩, ⟨⟨rfl, rfl⟩, trivial⟩, trivial⟩
    rintro flags ⟨⟩
    rfl
  have hsegments : segments "s.n" = ["s", "n"] := by decide
  refine ⟨hvalid, ?_, ?_⟩
  · rw [hsegments]
    refine ⟨_, ⟨[], [], rfl, by simp⟩, some [false], _, 1, _, rfl, ⟨[], [], rfl, by simp⟩, trivial⟩
  · rw [resolve, hsegments]
    rfl

end Path

end RowFilter
