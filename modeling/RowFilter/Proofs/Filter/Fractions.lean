import RowFilter.Proofs.Filter.Integers
import RowFilter.Proofs.Number.Placement

/-!
# Integers and fractions

A number that is not an integer is compared with integers in double precision, in the order of all
doubles.  That is the order of the numbers themselves, except for an integer to which the double is
nearest without being equal, and for the integer zero, which is above minus zero
(`Relation.Misses`).  `Batch.verdict_fraction` says which answers are exact.
-/

namespace RowFilter

/-- Whether a relation tells two numbers apart, if it takes them for equal. -/
def Relation.Confuses (relation : Relation) (a b : ℚ) : Prop :=
  match relation with
  | .eq | .ne => a ≠ b
  | .ge | .lt => a < b
  | .gt | .le => b < a

/-- Whether a relation of an integer to a double is missed in double precision: the integer is
confused with the double that is nearest to it, or zero with minus zero. -/
def Relation.Misses (relation : Relation) (v : Int) (f : Floating) : Prop :=
  FloatFormat.double.ofInt v = f ∧ relation.Confuses v f.value ∨
  f = .minusZero ∧ v = 0 ∧ relation ≠ .ge ∧ relation ≠ .lt

/-- A relation has the same truth of equal numbers and of two numbers if and only if it does not
confuse the two. -/
theorem Relation.holds_eq_iff (relation : Relation) (a b : ℚ) :
  (relation.holds .eq = true ↔ relation.Relates a b) ↔ ¬ relation.Confuses a b
  := by
  rw [← holds_compare_iff]
  rcases lt_trichotomy a b with h | rfl | h
  · rw [compare_lt_iff_lt.mpr h]
    cases relation <;> simp [holds, Confuses, h, h.ne, h.not_gt]
  · rw [compare_eq_iff_eq.mpr rfl]
    cases relation <;> simp [Confuses]
  · rw [compare_gt_iff_gt.mpr h]
    cases relation <;> simp [holds, Confuses, h, h.ne', h.not_gt]

namespace Relation

variable {relation : Relation} {v : Int} {f : Floating}

/-- A relation has the same truth of an integer and a finite double in double precision as of the
two numbers, if and only if it is not missed. -/
theorem holds_ofInt_iff (relation : Relation) (v : Int) (hfinite : f.isFinite = true)
    (hholds : FloatFormat.double.Holds f) :
  (relation.holds (compare (FloatFormat.double.ofInt v).orderKey f.orderKey) = true
      ↔ relation.Relates (v : ℚ) f.value)
    ↔ ¬ relation.Misses v f
  := by
  rw [Floating.compare_orderKey_ofInt v hfinite hholds, Misses]
  by_cases hsame : FloatFormat.double.ofInt v = f
  · have hzero : ¬ (f = .minusZero ∧ v = 0 ∧ relation ≠ .ge ∧ relation ≠ .lt) := by
      rintro ⟨hminus, rfl, -⟩
      rw [hminus] at hsame
      exact absurd hsame (by decide)
    rw [if_pos hsame, holds_eq_iff, or_iff_left hzero, and_iff_right hsame]
  · rw [if_neg hsame, or_iff_right (fun h => hsame h.1)]
    split
    · next hzero =>
        obtain ⟨rfl, rfl⟩ := hzero
        rw [← holds_compare_iff, Floating.value_minusZero, Int.cast_zero,
          compare_eq_iff_eq.mpr rfl]
        cases relation <;> simp [holds]
    · next hzero =>
        rw [holds_compare_iff]
        apply iff_of_true Iff.rfl
        rintro ⟨hminus, hv, -⟩
        apply hzero ⟨hminus, hv⟩

/-- No relation to a double that stands for no integer is missed. -/
theorem not_misses_of_fraction (hfinite : f.isFinite = true) (h : ∀ k : Int, f.value ≠ k) :
  ¬ relation.Misses v f
  := by
  rintro (⟨rfl, -⟩ | ⟨rfl, -⟩)
  · obtain ⟨k, hk⟩ := FloatFormat.exists_value_ofInt hfinite
    apply h k hk
  · apply h 0
    rw [Floating.value_minusZero, Int.cast_zero]

/-- No relation of an integer of at most fifty-three bits to a double other than minus zero is
missed. -/
theorem not_misses_of_natAbs_le (h : v.natAbs ≤ twoPow 53) (hf : f ≠ .minusZero) :
  ¬ relation.Misses v f
  := by
  rintro (⟨rfl, hconfuses⟩ | ⟨hminus, -⟩)
  · rw [FloatFormat.value_ofInt h] at hconfuses
    cases relation with
    | eq => apply hconfuses rfl
    | ne => apply hconfuses rfl
    | gt => apply lt_irrefl _ hconfuses
    | ge => apply lt_irrefl _ hconfuses
    | lt => apply lt_irrefl _ hconfuses
    | le => apply lt_irrefl _ hconfuses
  · apply hf hminus

end Relation

namespace Column

/-- An integer is compared with numbers as the double that is nearest to it. -/
theorem datum_toDoubles (type : DataType) (cells : List (Option Cell)) (row : Nat) :
  (leaf (.float .w64) (toDoubles cells)).datum row
    = match (leaf type cells).datum row with
      | .cell (.int n) => .cell (.float (FloatFormat.double.ofInt n))
      | value => value
  := by
  rw [datum_leaf, datum_leaf, toDoubles, List.getElem?_map]
  rcases cells[row]? with - | - | cell
  · rfl
  · rfl
  · cases cell <;> rfl

end Column

namespace ColumnField

variable {field : ColumnField}

/-- A field of integers answers a finite double by its integers in double precision. -/
theorem answers_fraction (htype : field.type.isInteger = true) (coercion : Coercion)
    {f : Floating} (hholds : FloatFormat.double.Holds f) {cells : List (Option Cell)}
    (hcolumn : field.column = .leaf field.type cells) :
  field.Answers coercion (.number (.floating f)) fun relation row =>
    ((Column.leaf (.float .w64) (Column.toDoubles cells)).datum row).relates relation (.float f)
  := by
  have hcell : (Literal.float f).toCell (.float .w64) = .ok (some (.float f)) := by
    have hnearest : FloatSize.nearest .w64 f = f :=
      Floating.toFormat_eq FloatFormat.isProper_double hholds
    exact congrArg (fun x => Except.ok (some (Cell.float x))) hnearest
  have hoperands : field.column.operands (.float f)
      = .ok (.float .w64, Column.toDoubles cells, some (.float f)) := by
    rw [hcolumn, Column.operands]
    · dsimp only
      rw [hcell]
    · apply htype
  have hliteral : coercion.literal field.type (.number (.floating f)) = .ok (.float f) := rfl
  apply answers_of_operands hliteral rfl hoperands
  · rw [hcolumn, Column.rows, Column.toDoubles, List.length_map]
  · exact ⟨rfl, rfl, rfl, rfl⟩

end ColumnField

namespace Batch

variable {batch : Batch} {path : String} {field : ColumnField}

/-- A number with a fraction, or beyond the words, is compared with integers in double precision.
The comparison does not fail and is false for nulls.  For an integer it is exact if and only if the
relation is not missed, so for all doubles that stand for no integer and for all integers of at most
fifty-three bits, unless the number is minus zero. -/
theorem verdict_fraction (hleads : batch.Leads (Path.segments path) field)
    (htype : field.type.isInteger = true) (coercion : Coercion) {f : Floating}
    (hfinite : f.isFinite = true) (hholds : FloatFormat.double.Holds f) (relation : Relation) :
  let comparison : Comparison := ⟨path, .relation relation, .scalar (.number (.floating f))⟩
  batch.failure? coercion comparison = none ∧
  ∀ row, (field.column.datum row = .null → batch.verdict coercion row comparison = false) ∧
    ∀ v, field.column.datum row = .cell (.int v) →
      ((batch.verdict coercion row comparison = true ↔ relation.Relates (v : ℚ) f.value)
        ↔ ¬ relation.Misses v f) ∧
      ((∀ k : Int, f.value ≠ k) ∨ v.natAbs ≤ twoPow 53 ∧ f ≠ .minusZero →
        ¬ relation.Misses v f)
  := by
  intro comparison
  obtain ⟨cells, hcolumn⟩ := ColumnField.eq_leaf_of_isInteger htype
  have hrows : field.column.rows = cells.length := by rw [hcolumn, Column.rows]
  have hanswers := ColumnField.answers_fraction htype coercion hholds hcolumn
  obtain ⟨hok, hverdict⟩ := verdicts_of_run
    (Compiler.run_relation hleads (DataType.isPlain_of_isInteger htype) hanswers relation)
  simp only [Column.datum_toDoubles field.type, ← hcolumn] at hverdict
  refine ⟨hok, ?_⟩
  intro row
  refine ⟨?null, ?integer⟩
  case null =>
    intro hnull
    rw [← Bool.not_eq_true, hverdict, hnull]
    rintro ⟨_, ⟨⟩⟩
  case integer =>
    intro v hv
    have hrow := Column.lt_rows_of_datum hcolumn hv
    constructor
    · rw [hverdict, hv, and_iff_right hrow]
      exact relation.holds_ofInt_iff v hfinite hholds
    · rintro (hfraction | ⟨hbits, hzero⟩)
      · apply Relation.not_misses_of_fraction hfinite hfraction
      · apply Relation.not_misses_of_natAbs_le hbits hzero

/-- One and a half, compared with one and with two. -/
theorem verdict_fraction_half :
  let field : ColumnField := ⟨"n", .leaf (.int .w64) [some (.int 2), some (.int 1), none]⟩
  let batch : Batch := ⟨3, [("n", field.column)]⟩
  let coercion : Coercion := ⟨Converter.standard DateFormats.default, true⟩
  let half : Floating := .finite false 6755399441055744 (-52)
  let verdict (relation : Relation) (row : Nat) : Bool :=
    batch.verdict coercion row ⟨"n", .relation relation, .scalar (.number (.floating half))⟩
  batch.Leads (Path.segments "n") field ∧ half.isFinite = true ∧
  FloatFormat.double.Holds half ∧ half.value = 3 / 2 ∧
  verdict .ge 0 = true ∧ verdict .lt 1 = true ∧ verdict .ne 2 = false
  := by
  intro field batch coercion half verdict
  have hleads : batch.Leads (Path.segments "n") field := ⟨field, rfl, rfl⟩
  have hholds : FloatFormat.double.Holds half := ⟨by decide, by decide, .inr (by decide)⟩
  have hvalue : half.value = 3 / 2 := by
    norm_num [half, Floating.value, Floating.magnitude, Floating.isNegative]
  have hverdict := verdict_fraction hleads rfl coercion rfl hholds
  have hsmall {v : Int} (hv : v.natAbs ≤ twoPow 53) :
      (∀ k : Int, half.value ≠ k) ∨ v.natAbs ≤ twoPow 53 ∧ half ≠ .minusZero :=
    .inr ⟨hv, by decide⟩
  refine ⟨hleads, rfl, hholds, hvalue, ?_, ?_, ?_⟩
  · obtain ⟨hexact, hmissed⟩ := ((hverdict .ge).2 0).2 2 rfl
    apply (hexact.mpr (hmissed (hsmall (by decide)))).mpr
    rw [Relation.Relates, hvalue]
    norm_num
  · obtain ⟨hexact, hmissed⟩ := ((hverdict .lt).2 1).2 1 rfl
    apply (hexact.mpr (hmissed (hsmall (by decide)))).mpr
    rw [Relation.Relates, hvalue]
    norm_num
  · apply ((hverdict .ne).2 2).1 rfl

/-- Two integers of which both have the same nearest double are confused, and zero is not equal to
minus zero. -/
theorem verdict_fraction_confuses :
  let verdict (v : Int) (f : Floating) : Bool :=
    Batch.verdict ⟨1, [("n", .leaf (.int .w64) [some (.int v)])]⟩
      ⟨Converter.standard DateFormats.default, true⟩ 0
      ⟨"n", .relation .eq, .scalar (.number (.floating f))⟩
  let large : Floating := .finite false 4503599627370496 1
  (verdict 9007199254740993 large = true ∧
    ¬ Relation.eq.Relates ((9007199254740993 : Int) : ℚ) large.value) ∧
  verdict 0 .minusZero = false ∧ Relation.eq.Relates ((0 : Int) : ℚ) Floating.minusZero.value
  := by
  refine ⟨⟨by decide +kernel, ?_⟩, by decide +kernel, ?_⟩
  · rw [Relation.Relates, Floating.value, Floating.magnitude, Floating.isNegative]
    norm_num
  · rw [Relation.Relates, Floating.value_minusZero, Int.cast_zero]

end Batch

end RowFilter
