import RowFilter.Proofs.Filter.Integers
import RowFilter.Proofs.Number.Scaling

/-!
# Decimal numbers

A text that is compared with decimal numbers is read as a double, which is then put at the scale of
the type; a number that is an integer is put there directly.  A comparison with the text is exact if
the number is still itself after that, as every number of at most fourteen digits is; a comparison
with an integer always is (`Batch.verdict_decimal`).
-/

namespace RowFilter

namespace Literal

variable {wide : Bool} {precision : Nat} {scale : Int}

/-- A double has an unscaled number in a type of decimal numbers, or no cell. -/
theorem exists_decimalOfFloat_eq (wide : Bool) (precision : Nat) (scale : Int) (x : Floating) :
  ∃ unscaled : Option Int, ∃ fault, decimalOfFloat wide precision scale x
    = (unscaled.map Cell.int).elim (.error fault) fun cell => .ok (some cell)
  := by
  rw [decimalOfFloat]
  split
  · exact ⟨none, _, rfl⟩
  · next n _ =>
      split
      · rw [Casting.decimal]
        split
        · exact ⟨some n, .cast, rfl⟩
        · exact ⟨none, _, rfl⟩
      · exact ⟨none, _, rfl⟩

/-- An unscaled number of at most as many digits as the word of its type has room for fits it. -/
theorem fitsSigned_decimalBits (hprecision : precision ≤ if wide then 76 else 38) {m : Int}
    (hm : m.natAbs < tenPow precision) :
  fitsSigned (Casting.decimalBits wide) m = true
  := by
  apply fitsSigned_of_natAbs_lt
  apply lt_of_lt_of_le hm
  apply le_trans (Nat.pow_le_pow_right (by decide) hprecision)
  cases wide <;> decide

/-- An integer that has an unscaled number in a type of decimal numbers is put there exactly, if the
power of ten of the scale fits the word of the type. -/
theorem decimalOfInt_eq (hprecision : precision ≤ if wide then 76 else 38) {n m : Int}
    (hvalue : (n : ℚ) * 10 ^ scale = m) (hm : m.natAbs < tenPow precision)
    (hunit : fitsSigned (Casting.decimalBits wide) (tenPow scale.natAbs) = true) :
  decimalOfInt wide precision scale n = .ok (some (.int m))
  := by
  have hpos : (0 : Int) < tenPow scale.natAbs := Int.natCast_pos.mpr (Nat.pow_pos (by decide))
  rw [decimalOfInt, hunit, Bool.not_true, if_neg Bool.false_ne_true]
  split
  · next hneg =>
      have hwhole : n = m * tenPow scale.natAbs := by
        have hexponent : ((scale.natAbs : Nat) : Int) = -scale := by omega
        have hcast : (n : ℚ) = m * 10 ^ (-scale) := by
          rw [← hvalue, mul_assoc, ← zpow_add₀ (by norm_num), add_neg_cancel, zpow_zero, mul_one]
        rw [← hexponent, ← cast_tenPow] at hcast
        exact_mod_cast hcast
      rw [hwhole, Int.mul_tdiv_cancel _ hpos.ne', Casting.decimal, if_pos hm]
  · next hnonneg =>
      have hwhole : n * tenPow scale.natAbs = m := by
        have hexponent : ((scale.natAbs : Nat) : Int) = scale := by omega
        rw [← hexponent, ← cast_tenPow] at hvalue
        exact_mod_cast hvalue
      rw [hwhole, if_pos (fitsSigned_decimalBits hprecision hm), Casting.decimal, if_pos hm]

end Literal

namespace ColumnField

variable {field : ColumnField} {wide : Bool} {precision : Nat} {scale : Int} {value : Scalar}

/-- For decimal numbers, the text of a numeral becomes the literal of the nearest double. -/
theorem literal_numeral (dates : DateFormats) (counts : Bool) {text : String}
    {numeral : DecimalNumeral} (htext : trim text.toList = numeral.chars) :
  Coercion.literal ⟨Converter.standard dates, counts⟩ (.decimal wide precision scale) (.text text)
    = .ok (.float numeral.nearest)
  := by
  have hread : Converter.standard dates text (.decimal wide precision scale)
      = .ok (.float numeral.nearest) := by
    rw [Converter.standard.eq_def]
    dsimp only
    rw [htext, numeral.readFloating?_chars]
    rfl
  exact Coercion.literal_of_converter rfl hread

/-- A field of decimal numbers takes an operand by the cell that its literal has in their type. -/
theorem takes_decimal {coercion : Coercion} {cells : List (Option Cell)}
    (hcolumn : field.column = .leaf (.decimal wide precision scale) cells) {literal : Literal}
    (hliteral : coercion.literal (.decimal wide precision scale) value = .ok literal)
    (hnull : literal.isNull = false) {cell : Option Cell}
    (hcell : ∃ fault, literal.toCell (.decimal wide precision scale)
      = cell.elim (.error fault) fun c => .ok (some c)) :
  field.Takes coercion value cell
  := by
  apply takes_of_toCell hcolumn hliteral hnull _ hcell ⟨rfl, rfl, rfl, rfl⟩
  rw [hcolumn]
  apply Column.operands_leaf rfl

end ColumnField

namespace Batch

variable {batch : Batch} {path : String} {field : ColumnField} {value : Scalar} {m : Int}

/-- Whether the relations of a field to an operand do not fail, and hold of no null and of exactly
the unscaled numbers that stand in them to a given one. -/
def ComparesExactly (batch : Batch) (coercion : Coercion) (path : String) (field : ColumnField)
    (value : Scalar) (m : Int) : Prop :=
  ∀ relation, batch.failure? coercion ⟨path, .relation relation, .scalar value⟩ = none ∧
    ∀ row,
      (field.column.datum row = .null →
        batch.verdict coercion row ⟨path, .relation relation, .scalar value⟩ = false) ∧
      ∀ v, field.column.datum row = .cell (.int v) →
        (batch.verdict coercion row ⟨path, .relation relation, .scalar value⟩ = true
          ↔ relation.Relates v m)

/-- A field of decimal numbers that takes an operand by an unscaled number is compared with the
operand exactly. -/
theorem comparesExactly_of_takes {coercion : Coercion}
    (hleads : batch.Leads (Path.segments path) field) (htype : field.type.IsPlain)
    {type : DataType} {cells : List (Option Cell)} (hcolumn : field.column = .leaf type cells)
    (h : field.Takes coercion value (some (.int m))) :
  batch.ComparesExactly coercion path field value m
  := by
  intro relation
  obtain ⟨-, hfound⟩ := outcome_of_takes hleads htype hcolumn h relation
  obtain ⟨hok, hverdict⟩ := hfound _ rfl
  refine ⟨hok, fun row => ⟨(hverdict row).1, ?_⟩⟩
  intro v hv
  rw [(hverdict row).2 _ hv, Cell.compare]
  apply relation.holds_compare_iff

/-- A decimal number that is written as a text is found if and only if it is still the same after
being read as a double and put at the scale of the type.  Then all comparisons with it are exact, as
they are for every number of at most fourteen digits.  Comparisons with a number that is an integer
of sixty-four bits are exact, if the power of ten of the scale fits the word of the type. -/
theorem verdict_decimal (dates : DateFormats) (counts : Bool)
    (hleads : batch.Leads (Path.segments path) field) {wide : Bool} {precision : Nat} {scale : Int}
    (htype : field.type = .decimal wide precision scale)
    (hprecision : precision ≤ if wide then 76 else 38) (hlow : -128 ≤ scale) (hhigh : scale ≤ 127)
    {text : String} {numeral : DecimalNumeral} (htext : trim text.toList = numeral.chars)
    (hvalue : numeral.value * 10 ^ scale = m) (hm : m.natAbs < tenPow precision) :
  let coercion : Coercion := ⟨Converter.standard dates, counts⟩
  let survives : Prop :=
    Literal.decimalOfFloat wide precision scale numeral.nearest = .ok (some (.int m))
  (∀ row, field.column.datum row = .cell (.int m) →
    (batch.verdict coercion row ⟨path, .relation .eq, .scalar (.text text)⟩ = true ↔ survives)) ∧
  (survives → batch.ComparesExactly coercion path field (.text text) m) ∧
  (m.natAbs < tenPow 14 → survives) ∧
  ∀ n : Int, numeral.value = n → fitsSigned 64 n = true →
    fitsSigned (Casting.decimalBits wide) (tenPow scale.natAbs) = true →
    batch.ComparesExactly coercion path field (.number (.integer n)) m
  := by
  intro coercion survives
  obtain ⟨cells, hcolumn⟩ : ∃ cells, field.column = .leaf field.type cells := by
    apply ColumnField.eq_leaf <;> rw [htype] <;> rfl
  have hplain : field.type.IsPlain := by
    rw [htype]
    exact ⟨rfl, rfl, rfl, rfl⟩
  rw [htype] at hcolumn
  have hliteral : coercion.literal (.decimal wide precision scale) (.text text)
      = .ok (.float numeral.nearest) := ColumnField.literal_numeral dates counts htext
  refine ⟨?found, ?exact, ?short, ?integer⟩
  case found =>
    intro row hrow
    obtain ⟨unscaled, fault, hcell⟩ :=
      Literal.exists_decimalOfFloat_eq wide precision scale numeral.nearest
    have hsurvives : survives ↔ unscaled = some m := by
      change Literal.decimalOfFloat wide precision scale numeral.nearest = _ ↔ _
      rw [hcell]
      cases unscaled <;> simp
    have htakes := ColumnField.takes_decimal hcolumn hliteral rfl ⟨fault, hcell⟩
    obtain ⟨hfails, hfound⟩ := outcome_of_takes hleads hplain hcolumn htakes .eq
    rw [hsurvives]
    cases unscaled with
    | none =>
        apply iff_of_false
        · intro hverdict
          rw [failsConversion, failure?_of_verdict hverdict] at hfails
          cases hfails
        · rintro ⟨⟩
    | some k =>
        have hrelates := Relation.eq.holds_compare_iff m k
        rw [((hfound _ rfl).2 row).2 _ hrow, Option.some_inj, eq_comm (a := k)]
        exact hrelates
  case exact =>
    intro hsurvives
    apply comparesExactly_of_takes hleads hplain hcolumn
    apply ColumnField.takes_decimal hcolumn hliteral rfl
    exact ⟨.cast, hsurvives⟩
  case short =>
    intro hshort
    apply Literal.decimalOfFloat_nearest hlow hhigh hvalue hshort hm
  case integer =>
    intro n hn hfits hunit
    have hnumber : coercion.literal (.decimal wide precision scale) (.number (.integer n))
        = .ok (.int n) := by
      rw [Coercion.literal, Coercion.numberLiteral, if_pos hfits]
    rw [hn] at hvalue
    apply comparesExactly_of_takes hleads hplain hcolumn
    apply ColumnField.takes_decimal hcolumn hnumber rfl
    exact ⟨.cast, Literal.decimalOfInt_eq hprecision hvalue hm hunit⟩

/-- One and a half at a scale of two digits. -/
theorem verdict_decimal_half :
  let field : ColumnField :=
    ⟨"d", .leaf (.decimal false 10 2) [some (.int 150), some (.int 151), none]⟩
  let batch : Batch := ⟨3, [("d", field.column)]⟩
  let coercion : Coercion := ⟨Converter.standard DateFormats.default, true⟩
  let numeral : DecimalNumeral :=
    ⟨.absent, ['1'], some ['5'], none, List.all_eq_true.mp rfl, List.all_eq_true.mp rfl,
      by decide⟩
  let verdict (relation : Relation) (row : Nat) : Bool :=
    batch.verdict coercion row ⟨"d", .relation relation, .scalar (.text "1.5")⟩
  batch.Leads (Path.segments "d") field ∧
  trim "1.5".toList = numeral.chars ∧ numeral.value * 10 ^ (2 : Int) = (150 : Int) ∧
  verdict .eq 0 = true ∧ verdict .gt 1 = true ∧ verdict .ne 2 = false
  := by
  intro field batch coercion numeral verdict
  have hleads : batch.Leads (Path.segments "d") field := ⟨field, rfl, rfl⟩
  have htext : trim "1.5".toList = numeral.chars := by decide +kernel
  have hvalue : numeral.value * 10 ^ (2 : Int) = (150 : Int) := by
    have hdigits : numeral.digits = 15 := by decide +kernel
    have hpower : numeral.power = -1 := by decide +kernel
    rw [DecimalNumeral.value, if_neg (by decide), hdigits, hpower]
    norm_num
  obtain ⟨hfound, hexact, hshort, -⟩ := verdict_decimal DateFormats.default true hleads rfl
    (by decide) (by decide) (by decide) htext hvalue (by decide)
  have hsurvives := hshort (by decide)
  refine ⟨hleads, htext, hvalue, ?_, ?_, ?_⟩
  · apply (hfound 0 rfl).mpr hsurvives
  · apply (((hexact hsurvives .gt).2 1).2 151 rfl).mpr
    decide
  · apply ((hexact hsurvives .ne).2 2).1 rfl

/-- A number of sixteen digits is not found by its text, which is read as the double next to it, but
by the number that it is. -/
theorem verdict_decimal_rounded :
  let numeral : DecimalNumeral :=
    ⟨.absent, "9007199254740993".toList, none, none, List.all_eq_true.mp (by decide +kernel),
      List.all_eq_true.mp rfl, by decide +kernel⟩
  let verdict (value : Scalar) : Bool :=
    Batch.verdict ⟨1, [("d", .leaf (.decimal false 38 0) [some (.int 9007199254740993)])]⟩
      ⟨Converter.standard DateFormats.default, true⟩ 0 ⟨"d", .relation .eq, .scalar value⟩
  trim "9007199254740993".toList = numeral.chars ∧
  numeral.value * 10 ^ (0 : Int) = (9007199254740993 : Int) ∧
  verdict (.text "9007199254740993") = false ∧
  verdict (.number (.integer 9007199254740993)) = true
  := by
  intro numeral verdict
  have hdigits : numeral.digits = 9007199254740993 := by decide +kernel
  have hpower : numeral.power = 0 := by decide +kernel
  refine ⟨by decide +kernel, ?_, by decide +kernel, by decide +kernel⟩
  rw [DecimalNumeral.value, if_neg (by decide), hdigits, hpower]
  norm_num

end Batch

end RowFilter
