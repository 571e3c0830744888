import RowFilter.Proofs.Filter.Verdicts

/-!
# Instants and coarser ticks

An instant that is compared with timestamps is first put in their unit, which drops the part of it
that is finer than a tick.  The answer is that of the exact instant, except for the ticks that the
instant falls into, and of these for the relations that tell a time from the later part of its tick
(`Relation.missesFraction`); `Batch.verdict_timestamp` states both.
-/

namespace RowFilter

/-- Whether the relation of the tick of an instant to the instant is missed where the instant has a
part that is finer than the tick: the tick is before the instant if that is after the epoch, and
after it otherwise. -/
def Relation.missesFraction (relation : Relation) (instant : Int) : Prop :=
  match relation with
  | .eq | .ne => True
  | .ge | .lt => 0 < instant
  | .gt | .le => instant < 0

namespace TimeUnit

variable {unit t n : Int}

theorem nanos_pos (unit : TimeUnit) :
  0 < unit.nanos
  := by
  cases unit <;> decide

/-- An instant is some ticks and a part of a tick, both away from the epoch. -/
theorem tmod_bounds (n : Int) (h : 0 < unit) :
  unit * n.tdiv unit + n.tmod unit = n ∧ -unit < n.tmod unit ∧ n.tmod unit < unit ∧
    (0 ≤ n → 0 ≤ n.tmod unit) ∧ (n ≤ 0 → n.tmod unit ≤ 0)
  := by
  refine ⟨Int.mul_tdiv_add_tmod n unit, Int.lt_tmod_of_pos n h, Int.tmod_lt_of_pos n h,
    Int.tmod_nonneg unit, ?_⟩
  intro hn
  have hneg : 0 ≤ (-n).tmod unit := Int.tmod_nonneg unit (by omega)
  rw [Int.neg_tmod] at hneg
  omega

/-- Ticks that an instant does not fall into stand to it as to the tick that it falls into. -/
theorem compare_mul_of_ne (h : 0 < unit) (hne : t ≠ n.tdiv unit) :
  compare (t * unit) n = compare t (n.tdiv unit)
  := by
  obtain ⟨hsum, hlow, hhigh, _⟩ := tmod_bounds n h
  rw [Int.mul_comm] at hsum
  rcases Int.lt_or_gt_of_ne hne with hlt | hgt
  · have hstep := Int.mul_le_mul_of_nonneg_right (Int.add_one_le_of_lt hlt) (Int.le_of_lt h)
    rw [Int.add_mul, Int.one_mul] at hstep
    have hbefore : t * unit < n := by omega
    rw [Int.compare_eq_lt.mpr hbefore, Int.compare_eq_lt.mpr hlt]
  · have hstep := Int.mul_le_mul_of_nonneg_right (Int.add_one_le_of_lt hgt) (Int.le_of_lt h)
    rw [Int.add_mul, Int.one_mul] at hstep
    have hafter : n < t * unit := by omega
    rw [Int.compare_eq_gt.mpr hafter, Int.compare_eq_gt.mpr hgt]

/-- The tick that an instant falls into is before it after the epoch, and after it before the
epoch, if there is a part of the instant that is finer than the tick. -/
theorem compare_tick (h : 0 < unit) (hne : n.tdiv unit * unit ≠ n) :
  compare (n.tdiv unit * unit) n = if 0 < n then .lt else .gt
  := by
  obtain ⟨hsum, _, _, hnonneg, hnonpos⟩ := tmod_bounds n h
  rw [Int.mul_comm] at hsum
  split
  · next hn =>
      have hrest := hnonneg (Int.le_of_lt hn)
      have hbefore : n.tdiv unit * unit < n := by omega
      rw [Int.compare_eq_lt.mpr hbefore]
  · next hn =>
      have hrest := hnonpos (Int.not_lt.mp hn)
      have hafter : n < n.tdiv unit * unit := by omega
      rw [Int.compare_eq_gt.mpr hafter]

end TimeUnit

/-- A tick stands in a relation to the tick of an instant if and only if it does to the instant,
unless the instant falls into the tick, has a part that is finer and the relation misses it. -/
theorem Relation.holds_tick_iff {unit t n : Int} (h : 0 < unit) (relation : Relation) :
  relation.holds (compare t (n.tdiv unit)) = relation.holds (compare (t * unit) n)
    ↔ ¬ (t = n.tdiv unit ∧ t * unit ≠ n ∧ relation.missesFraction n)
  := by
  by_cases hin : t = n.tdiv unit
  · subst hin
    have hsame : compare (n.tdiv unit) (n.tdiv unit) = .eq := Int.compare_eq_eq.mpr rfl
    by_cases hwhole : n.tdiv unit * unit = n
    · have hexact : compare (n.tdiv unit * unit) n = .eq := Int.compare_eq_eq.mpr hwhole
      rw [hsame, hexact]
      simp only [hwhole, ne_eq, not_true_eq_false, false_and, and_false, not_false_eq_true]
    · have hzero : n ≠ 0 := by
        rintro rfl
        apply hwhole
        rw [Int.zero_tdiv, Int.zero_mul]
      rw [hsame, TimeUnit.compare_tick h hwhole, and_iff_right rfl, and_iff_right hwhole]
      rcases Int.lt_or_gt_of_ne hzero with hbefore | hafter
      · have hnot : ¬ 0 < n := by omega
        have hge : (Ordering.eq != .lt) = (Ordering.gt != .lt) := rfl
        cases relation <;> simp [holds, missesFraction, hbefore, hnot, hge]
      · have hnot : ¬ n < 0 := by omega
        have hle : (Ordering.eq != .gt) = (Ordering.lt != .gt) := rfl
        cases relation <;> simp [holds, missesFraction, hafter, hnot, hle]
  · rw [TimeUnit.compare_mul_of_ne h hin]
    simp only [hin, false_and, not_false_eq_true]

namespace Batch

variable {batch : Batch} {path : String} {field : ColumnField}

/-- A field of timestamps is a leaf. -/
theorem eq_leaf_of_timestamp {unit : TimeUnit} (h : field.type = .timestamp unit none) :
  ∃ cells, field.column = .leaf (.timestamp unit none) cells
  := by
  have htype : field.column.type = .timestamp unit none := h
  rw [← htype]
  apply Column.eq_leaf
  · rw [htype]
    rfl
  · rw [htype]
    rfl

/-- Timestamps are compared with the tick into which an instant falls. -/
theorem run_timestamp (dates : DateFormats) (counts : Bool)
    (hleads : batch.Leads (Path.segments path) field) {unit : TimeUnit}
    (htype : field.type = .timestamp unit none) {text : String} {n : Int}
    (hread : Converter.standard dates text (.timestamp unit none) = .ok (.instant n))
    (relation : Relation) :
  (Compiler.comparison ⟨ColumnField.type, Converter.standard dates, counts⟩ path
      (.relation relation) (.scalar (.text text))).run batch.backend
    = .ok (Mask.ofRows field.column.rows fun row =>
        (field.column.datum row).relates relation (.int (n.tdiv unit.nanos)))
  := by
  have hfolds : Coercion.foldsCase ⟨Converter.standard dates, counts⟩ field.type = false := by
    rw [htype]
    apply Bool.and_false
  have hliteral : Coercion.literal ⟨Converter.standard dates, counts⟩ field.type (.text text)
      = .ok (.instant n) := by
    simp only [htype, Coercion.literal, hread]
    rfl
  have horder : relation.isOrdering = true → field.type.isOrderable = true := by
    rw [htype]
    intro _
    rfl
  rw [Compiler.run_comparison_scalar hleads rfl, Compiler.run_folded_eq, hfolds, hliteral,
    if_neg Bool.false_ne_true]
  apply Eq.trans (Compiler.run_applyLiteral_relation horder rfl path field)
  obtain ⟨cells, hcolumn⟩ := eq_leaf_of_timestamp htype
  rw [ColumnField.relate, hcolumn]
  apply Column.relate_leaf
  · rfl
  · rfl
  · rfl
  · rfl

/-- Timestamps are compared with an instant by the tick into which it falls, and nulls are not: the
comparison does not fail.  So a timestamp stands in the relation to the exact instant, unless the
instant falls into its tick, has a part that is finer and the relation misses it. -/
theorem verdict_timestamp (dates : DateFormats) (counts : Bool)
    (hleads : batch.Leads (Path.segments path) field) {unit : TimeUnit}
    (htype : field.type = .timestamp unit none) {text : String} {n : Int}
    (hread : Converter.standard dates text (.timestamp unit none) = .ok (.instant n))
    (relation : Relation) (row : Nat) :
  let comparison : Comparison := ⟨path, .relation relation, .scalar (.text text)⟩
  let verdict := batch.verdict ⟨Converter.standard dates, counts⟩ row comparison
  batch.failure? ⟨Converter.standard dates, counts⟩ comparison = none ∧
  (field.column.datum row = .null → verdict = false) ∧
  ∀ t, field.column.datum row = .cell (.int t) →
    verdict = relation.holds (compare t (n.tdiv unit.nanos)) ∧
    (verdict = relation.holds (compare (t * unit.nanos) n)
      ↔ ¬ (t = n.tdiv unit.nanos ∧ t * unit.nanos ≠ n ∧ relation.missesFraction n))
  := by
  intro comparison verdict
  have hrun := run_timestamp dates counts hleads htype hread relation
  have hverdict : verdict = (Mask.ofRows field.column.rows fun row =>
      (field.column.datum row).relates relation (.int (n.tdiv unit.nanos))).accepts row :=
    verdict_of_run hrun
  refine ⟨failure?_comparison_iff.mpr ⟨_, hrun⟩, ?null, ?tick⟩
  case null =>
    intro hnull
    rw [hverdict, ← Bool.not_eq_true, Mask.accepts_ofRows_iff, hnull]
    rintro ⟨_, ⟨⟩⟩
  case tick =>
    intro t ht
    have hticks : verdict = relation.holds (compare t (n.tdiv unit.nanos)) := by
      obtain ⟨cells, hcolumn⟩ := eq_leaf_of_timestamp htype
      have hrow : row < field.column.rows := by
        rw [hcolumn] at ht ⊢
        apply Column.lt_length_of_datum_leaf
        rw [ht]
        rintro ⟨⟩
      rw [hverdict, Mask.accepts_ofRows hrow, ht]
      rfl
    refine ⟨hticks, ?_⟩
    rw [hticks]
    apply relation.holds_tick_iff unit.nanos_pos

/-- Half a second after the epoch, compared with seconds. -/
theorem verdict_timestamp_seconds :
  let field : ColumnField :=
    ⟨"t", .leaf (.timestamp .second none) [some (.int 1), some (.int 0), none]⟩
  let batch : Batch := ⟨3, [("t", field.column)]⟩
  let verdict (relation : Relation) (row : Nat) : Bool :=
    batch.verdict ⟨Converter.standard DateFormats.default, true⟩ row
      ⟨"t", .relation relation, .scalar (.text "1970-01-01 00:00:00.5")⟩
  batch.Leads (Path.segments "t") field ∧
  Converter.standard DateFormats.default "1970-01-01 00:00:00.5" (.timestamp .second none)
    = .ok (.instant 500000000) ∧
  verdict .gt 0 = true ∧ verdict .gt 1 = false ∧ verdict .ge 1 = true ∧ verdict .ne 2 = false
  := by
  intro field batch verdict
  have hleads : batch.Leads (Path.segments "t") field := ⟨field, rfl, rfl⟩
  have hread : Converter.standard DateFormats.default "1970-01-01 00:00:00.5"
      (.timestamp .second none) = .ok (.instant 500000000) := by
    decide +kernel
  have hverdict := verdict_timestamp DateFormats.default true hleads rfl hread
  refine ⟨hleads, hread, ?_, ?_, ?_, ?_⟩
  · apply ((hverdict .gt 0).2.2 1 rfl).1
  · apply ((hverdict .gt 1).2.2 0 rfl).1
  · apply ((hverdict .ge 1).2.2 0 rfl).1
  · apply (hverdict .ne 2).2.1 rfl

/-- The tick that an instant falls into is taken for the instant, on both sides of the epoch. -/
theorem verdict_timestamp_misses :
  let verdict (relation : Relation) (text : String) : Bool :=
    Batch.verdict ⟨1, [("t", .leaf (.timestamp .second none) [some (.int 0)])]⟩
      ⟨Converter.standard DateFormats.default, true⟩ 0
      ⟨"t", .relation relation, .scalar (.text text)⟩
  let instant (text : String) : Except String Literal :=
    Converter.standard DateFormats.default text (.timestamp .second none)
  let exact (relation : Relation) (n : Int) : Bool :=
    relation.holds (compare (0 * TimeUnit.second.nanos) n)
  (instant "1970-01-01 00:00:00.5" = .ok (.instant 500000000) ∧
    (verdict .eq "1970-01-01 00:00:00.5" = true ∧ exact .eq 500000000 = false) ∧
    verdict .ge "1970-01-01 00:00:00.5" = true ∧ exact .ge 500000000 = false) ∧
  instant "1969-12-31 23:59:59.5" = .ok (.instant (-500000000)) ∧
  verdict .le "1969-12-31 23:59:59.5" = true ∧ exact .le (-500000000) = false
  := by
  decide +kernel

end Batch

end RowFilter
