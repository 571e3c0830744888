import RowFilter.Proofs.Number.Placement

/-!
# Rounding keeps the order

Of two values, the smaller one is scaled at no greater exponent and has no greater nearest whole
number there, so that it is rounded to no greater value (`FloatFormat.Rounds.magnitudeKey_le`).
Integers in double precision therefore keep their order (`FloatFormat.orderKey_ofInt_mono`).
-/

namespace RowFilter

namespace FloatFormat

variable {format : FloatFormat} {negative : Bool} {value greater : ℚ} {rounded found : Floating}

/-- A smaller value is scaled at no greater exponent. -/
theorem Scales.le_of_lt {shift other : Int} (hless : format.Scales value shift)
    (hgreater : format.Scales greater other) (h : value < greater) :
  shift ≤ other
  := by
  rcases hless.pow_le with rfl | hpow
  · exact hgreater.min_le
  · have hbelow : (2 : ℚ) ^ (format.precision - 1 + shift) < 2 ^ (format.precision + other) :=
      hpow.trans_lt (h.trans hgreater.lt_pow)
    have hexponents := (zpow_lt_zpow_iff_right₀ one_lt_two).mp hbelow
    omega

/-- A smaller value has no greater nearest whole number at its exponent. -/
theorem Scales.count_mul_le (hproper : format.IsProper) {shift other : Int}
    (hless : format.Scales value shift) (hgreater : format.Scales greater other)
    (h : value < greater) {count total : Nat} (hcount : |(count : ℚ) - value / 2 ^ shift| ≤ 1 / 2)
    (htotal : |(total : ℚ) - greater / 2 ^ other| ≤ 1 / 2) :
  (count * 2 ^ shift : ℚ) ≤ total * 2 ^ other
  := by
  rcases (hless.le_of_lt hgreater h).eq_or_lt with rfl | hlt
  · have hscaled : value / 2 ^ shift < greater / 2 ^ shift :=
      div_lt_div_of_pos_right h (zpow_two_pos shift)
    rw [abs_le] at hcount htotal
    have hnext : (count : ℚ) < total + 1 := by linarith
    have hle : count ≤ total := by exact_mod_cast Nat.lt_succ_iff.mp (by exact_mod_cast hnext)
    exact mul_le_mul_of_nonneg_right (Nat.cast_le.mpr hle) (zpow_two_pos shift).le
  · have hbits := (hgreater.le_count hproper htotal).resolve_left (by
      have := hless.min_le
      omega)
    calc (count * 2 ^ shift : ℚ)
        ≤ 2 ^ (format.precision : Int) * 2 ^ shift := by
          apply mul_le_mul_of_nonneg_right _ (zpow_two_pos shift).le
          rw [← cast_twoPow]
          exact_mod_cast hless.count_le hcount
      _ = 2 ^ (format.precision + shift) := (zpow_add₀ two_ne_zero _ _).symm
      _ ≤ 2 ^ (format.precision - 1 + other) := by
          apply zpow_le_zpow_right₀ one_le_two
          omega
      _ ≤ total * 2 ^ other := pow_le_of_bits hproper hbits other

/-- A value that is beyond the format, but not by a power of two, is scaled at the greatest
exponent, where the power is nearest to it. -/
theorem scales_of_overflow (hproper : format.IsProper)
    (hover : (2 ^ (format.precision : Int) - 1 / 2) * 2 ^ format.maxExponent ≤ value)
    (hpow : value < 2 ^ (format.precision + format.maxExponent)) :
  format.Scales value format.maxExponent ∧
    |(twoPow format.precision : ℚ) - value / 2 ^ format.maxExponent| ≤ 1 / 2
  := by
  have hprecision := hproper.precision_pos
  have hmax := zpow_two_pos format.maxExponent
  have hone : (1 : ℚ) ≤ 2 ^ ((format.precision : Int) - 1) := one_le_zpow₀ one_le_two (by omega)
  have hdouble : (2 : ℚ) ^ (format.precision : Int) = 2 * 2 ^ ((format.precision : Int) - 1) := by
    rw [← zpow_one_add₀ two_ne_zero]
    congr 1
    omega
  have hlow : (2 : ℚ) ^ (format.precision : Int) - 1 / 2 ≤ value / 2 ^ format.maxExponent :=
    (le_div_iff₀ hmax).mpr hover
  have hhigh : value / 2 ^ format.maxExponent < 2 ^ (format.precision : Int) := by
    rw [div_lt_iff₀ hmax, ← zpow_add₀ two_ne_zero]
    exact hpow
  refine ⟨⟨hproper.exponent_le, hpow, .inr ?_⟩, ?_⟩
  · rw [zpow_add₀ two_ne_zero, ← le_div_iff₀ hmax]
    linarith
  · rw [cast_twoPow, abs_le]
    constructor <;> linarith

/-- A value above one that is beyond the format is beyond it too. -/
theorem Rounds.eq_infinite (hproper : format.IsProper)
    (hover : (2 ^ (format.precision : Int) - 1 / 2) * 2 ^ format.maxExponent ≤ value)
    (h : format.Rounds negative greater found) (hlt : value < greater) :
  found = .infinite negative
  := by
  cases h with
  | infinite hbeyond => rfl
  | finite total other hholds hscales htotal hsame =>
      have hexponent := hproper.exponent_le
      -- The greater value is rounded to no less than the first power of two beyond the format.
      have habove : (2 : ℚ) ^ (format.precision : Int) * 2 ^ format.maxExponent
          ≤ total * 2 ^ other := by
        rw [← zpow_add₀ two_ne_zero]
        rcases lt_or_ge value (2 ^ (format.precision + format.maxExponent)) with hpow | hpow
        · obtain ⟨hless, hcount⟩ := scales_of_overflow hproper hover hpow
          have hle := hless.count_mul_le hproper hscales hlt hcount htotal
          rwa [cast_twoPow, ← zpow_add₀ two_ne_zero] at hle
        · have hexponents := (zpow_lt_zpow_iff_right₀ (one_lt_two (α := ℚ))).mp
            (hpow.trans_lt (hlt.trans hscales.lt_pow))
          have hbits := (hscales.le_count hproper htotal).resolve_left (by omega)
          apply le_trans _ (pow_le_of_bits hproper hbits other)
          apply zpow_le_zpow_right₀ one_le_two
          omega
      have hbelow := hholds.magnitude_lt_overflow
      rw [hsame, sub_mul] at hbelow
      have hhalf : (0 : ℚ) < 1 / 2 * 2 ^ format.maxExponent :=
        mul_pos one_half_pos (zpow_two_pos _)
      linarith

/-- A smaller value is placed no higher among the magnitudes of doubles. -/
theorem Rounds.magnitudeKey_le (h : double.Rounds negative value rounded) {other : Bool}
    (hfound : double.Rounds other greater found) (hlt : value < greater) :
  rounded.magnitudeKey ≤ found.magnitudeKey
  := by
  cases h with
  | infinite hover =>
      rw [hfound.eq_infinite isProper_double hover hlt]
      exact Nat.le_refl _
  | finite count shift hholds hscales hcount hsame =>
      cases hfound with
      | infinite hover => exact (Floating.magnitudeKey_lt hholds _).le
      | finite total place hplaced hscaled htotal hequal =>
          rw [← Nat.cast_le (α := ℚ), Floating.cast_magnitudeKey hholds,
            Floating.cast_magnitudeKey hplaced, hsame, hequal]
          apply mul_le_mul_of_nonneg_right _ (zpow_two_pos 1074).le
          apply hscales.count_mul_le isProper_double hscaled hlt hcount htotal

/-- Integers in double precision keep their order, though different ones may become equal. -/
theorem orderKey_ofInt_mono {m n : Int} (h : m ≤ n) :
  (double.ofInt m).orderKey ≤ (double.ofInt n).orderKey
  := by
  rcases h.eq_or_lt with rfl | hlt
  · exact Int.le_refl _
  · have hm := rounds_ofInt m
    have hn := rounds_ofInt n
    have hmagnitude {a b : Int} (hab : a.natAbs < b.natAbs) :
        (double.ofInt a).magnitudeKey ≤ (double.ofInt b).magnitudeKey :=
      (rounds_ofInt a).magnitudeKey_le (rounds_ofInt b) (Nat.cast_lt.mpr hab)
    rw [Floating.orderKey, Floating.orderKey, hm.isNegative_eq, hn.isNegative_eq]
    by_cases hneg : n < 0
    · have hkeys := hmagnitude (a := n) (b := m) (by omega)
      rw [decide_eq_true hneg, decide_eq_true (hlt.trans hneg), if_pos rfl, if_pos rfl]
      omega
    · by_cases hless : m < 0
      · rw [decide_eq_true hless, decide_eq_false hneg, if_pos rfl, if_neg Bool.false_ne_true]
        omega
      · have hkeys := hmagnitude (a := m) (b := n) (by omega)
        rw [decide_eq_false hless, decide_eq_false hneg, if_neg Bool.false_ne_true,
          if_neg Bool.false_ne_true]
        omega

end FloatFormat

end RowFilter
