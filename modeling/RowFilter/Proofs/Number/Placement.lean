import RowFilter.Proofs.Number.Nearest

/-!
# The order of doubles

Doubles are in the order of the numbers that they stand for, and minus zero is below zero.  An
integer that is put in double precision keeps its place among the doubles, except that it becomes
equal to the double that is nearest to it (`Floating.compare_orderKey_ofInt`).
-/

namespace RowFilter

namespace Floating

/-- The zero with a minus sign, as a double. -/
def minusZero : Floating := .finite true 0 (-1074)

theorem value_minusZero :
  minusZero.value = 0
  := by
  rw [value, minusZero, isNegative, if_pos rfl, magnitude, Nat.cast_zero, zero_mul, neg_zero]

/-- The places of finite doubles are in proportion to their magnitudes. -/
theorem cast_magnitudeKey {negative : Bool} {significand : Nat} {exponent : Int}
    (h : FloatFormat.double.Holds (.finite negative significand exponent)) :
  ((finite negative significand exponent).magnitudeKey : ℚ)
    = significand * 2 ^ exponent * 2 ^ (1074 : Int)
  := by
  have hleast : -1074 ≤ exponent := h.2.1.1
  rw [magnitudeKey, Nat.cast_mul, cast_twoPow, Int.toNat_of_nonneg (by omega),
    zpow_add₀ two_ne_zero, mul_assoc]

/-- Finite doubles are placed below the infinities. -/
theorem magnitudeKey_lt {negative : Bool} {significand : Nat} {exponent : Int}
    (h : FloatFormat.double.Holds (.finite negative significand exponent)) (other : Bool) :
  (finite negative significand exponent).magnitudeKey < (infinite other).magnitudeKey
  := by
  have hgreatest : exponent ≤ 971 := h.2.1.2
  have hbelow : (53 : Int) + exponent + 1074 ≤ (2100 : Nat) := by omega
  rw [← Nat.cast_lt (α := ℚ), cast_magnitudeKey h, magnitudeKey, cast_twoPow]
  apply lt_of_lt_of_le _ (zpow_le_zpow_right₀ one_le_two hbelow)
  rw [zpow_add₀ two_ne_zero _ 1074]
  exact mul_lt_mul_of_pos_right h.magnitude_lt (zpow_two_pos 1074)

end Floating

namespace FloatFormat

variable {negative : Bool} {significand : Nat} {exponent : Int} {value : ℚ} {rounded : Floating}

/-- A value that is below a double and not rounded to it is placed below it. -/
theorem Rounds.magnitudeKey_lt (h : double.Rounds negative value rounded)
    (hholds : double.Holds (.finite negative significand exponent))
    (hne : rounded ≠ .finite negative significand exponent)
    (hlt : value < significand * 2 ^ exponent) :
  rounded.magnitudeKey < (Floating.finite negative significand exponent).magnitudeKey
  := by
  obtain ⟨hfinite, hle⟩ := h.le hholds hlt.le
  obtain ⟨bits, shift, rfl, hrounded⟩ := h.eq_finite hfinite
  rw [← Nat.cast_lt (α := ℚ), Floating.cast_magnitudeKey hrounded,
    Floating.cast_magnitudeKey hholds]
  apply mul_lt_mul_of_pos_right _ (zpow_two_pos 1074)
  apply lt_of_le_of_ne hle
  intro hsame
  obtain ⟨rfl, rfl⟩ := hrounded.eq_of_magnitude_eq isProper_double hholds hsame
  apply hne rfl

/-- A value that is above a double and not rounded to it is placed above it. -/
theorem Rounds.lt_magnitudeKey (h : double.Rounds negative value rounded)
    (hholds : double.Holds (.finite negative significand exponent))
    (hne : rounded ≠ .finite negative significand exponent)
    (hlt : significand * 2 ^ exponent < value) :
  (Floating.finite negative significand exponent).magnitudeKey < rounded.magnitudeKey
  := by
  rcases h.ge isProper_double hholds hlt.le with rfl | hge
  · apply Floating.magnitudeKey_lt hholds
  · cases hfinite : rounded.isFinite with
    | false =>
        cases h with
        | infinite hover => apply Floating.magnitudeKey_lt hholds
        | finite count shift hholds hscales hcount hsame => cases hfinite
    | true =>
        obtain ⟨bits, shift, rfl, hrounded⟩ := h.eq_finite hfinite
        rw [← Nat.cast_lt (α := ℚ), Floating.cast_magnitudeKey hrounded,
          Floating.cast_magnitudeKey hholds]
        apply mul_lt_mul_of_pos_right _ (zpow_two_pos 1074)
        apply lt_of_le_of_ne hge
        intro hsame
        obtain ⟨rfl, rfl⟩ := hholds.eq_of_magnitude_eq isProper_double hrounded hsame
        apply hne rfl

/-- The double nearest to an integer is what its magnitude is rounded to. -/
theorem rounds_ofInt (n : Int) :
  double.Rounds (n < 0) (n.natAbs : ℚ) (double.ofInt n)
  := by
  have h := rounds_round isProper_double (n < 0) n.natAbs Nat.one_pos
  rw [Nat.cast_one, div_one] at h
  exact h

/-- A value keeps its place among the magnitudes of doubles, unless it is rounded to one. -/
theorem Rounds.compare_magnitudeKey (h : double.Rounds negative value rounded)
    (hholds : double.Holds (.finite negative significand exponent))
    (hne : rounded ≠ .finite negative significand exponent) :
  compare rounded.magnitudeKey (Floating.finite negative significand exponent).magnitudeKey
    = compare value (significand * 2 ^ exponent)
  := by
  rcases lt_trichotomy value (significand * 2 ^ exponent) with hlt | heq | hgt
  · rw [compare_lt_iff_lt.mpr hlt, compare_lt_iff_lt.mpr (h.magnitudeKey_lt hholds hne hlt)]
  · cases hne (h.eq_of_eq isProper_double hholds heq)
  · rw [compare_gt_iff_gt.mpr hgt, compare_gt_iff_gt.mpr (h.lt_magnitudeKey hholds hne hgt)]

/-- What a value is rounded to has the sign that it is rounded with. -/
theorem Rounds.isNegative_eq {format : FloatFormat} (h : format.Rounds negative value rounded) :
  rounded.isNegative = negative
  := by
  cases h with
  | infinite hover => rfl
  | finite count shift hholds hscales hcount hsame => rfl

end FloatFormat

namespace Floating

open FloatFormat

/-- Values with a minus sign are in the opposite order of their magnitudes. -/
theorem compare_orderKey_of_negative {x y : Floating} (hx : x.isNegative = true)
    (hy : y.isNegative = true) :
  compare x.orderKey y.orderKey = (compare x.magnitudeKey y.magnitudeKey).swap
  := by
  rw [orderKey, orderKey, if_pos hx, if_pos hy]
  rcases Nat.lt_trichotomy x.magnitudeKey y.magnitudeKey with h | h | h
  · rw [compare_lt_iff_lt.mpr h, Ordering.swap, compare_gt_iff_gt]
    omega
  · rw [compare_eq_iff_eq.mpr h, Ordering.swap, compare_eq_iff_eq]
    omega
  · rw [compare_gt_iff_gt.mpr h, Ordering.swap, compare_lt_iff_lt]
    omega

/-- Values without a minus sign are in the order of their magnitudes. -/
theorem compare_orderKey_of_not_negative {x y : Floating} (hx : x.isNegative = false)
    (hy : y.isNegative = false) :
  compare x.orderKey y.orderKey = compare x.magnitudeKey y.magnitudeKey
  := by
  rw [orderKey, orderKey, hx, hy, if_neg Bool.false_ne_true, if_neg Bool.false_ne_true]
  rcases Nat.lt_trichotomy x.magnitudeKey y.magnitudeKey with h | h | h
  · rw [compare_lt_iff_lt.mpr h, compare_lt_iff_lt]
    omega
  · rw [compare_eq_iff_eq.mpr h, compare_eq_iff_eq]
    omega
  · rw [compare_gt_iff_gt.mpr h, compare_gt_iff_gt]
    omega

/-- Values with a minus sign are below those without. -/
theorem orderKey_lt_of_negative {x y : Floating} (hx : x.isNegative = true)
    (hy : y.isNegative = false) :
  x.orderKey < y.orderKey
  := by
  rw [orderKey, orderKey, if_pos hx, hy, if_neg Bool.false_ne_true]
  omega

/-- Doubles of which one is finite are the same if they are at the same place. -/
theorem eq_of_orderKey_eq {x y : Floating} (hfinite : x.isFinite = true) (hx : double.Holds x)
    (hy : double.Holds y) (h : x.orderKey = y.orderKey) :
  x = y
  := by
  have hsign : x.isNegative = y.isNegative ∧ x.magnitudeKey = y.magnitudeKey := by
    rw [orderKey, orderKey] at h
    cases hnegative : x.isNegative <;> cases hother : y.isNegative <;>
      simp only [hnegative, hother, if_true, if_false, Bool.false_eq_true] at h
    · exact ⟨rfl, by omega⟩
    · omega
    · omega
    · exact ⟨rfl, by omega⟩
  obtain ⟨hnegative, hmagnitude⟩ := hsign
  obtain ⟨negative, significand, exponent, rfl⟩ := eq_finite hfinite
  cases y with
  | nan other =>
      have hnan : (infinite other).magnitudeKey < (nan other).magnitudeKey := by
        rw [magnitudeKey, magnitudeKey]
        apply Nat.lt_add_one
      cases ((magnitudeKey_lt hx other).trans hnan).ne hmagnitude
  | infinite other => cases (magnitudeKey_lt hx other).ne hmagnitude
  | finite other others shift =>
      rw [← Nat.cast_inj (R := ℚ), cast_magnitudeKey hx, cast_magnitudeKey hy] at hmagnitude
      obtain ⟨rfl, rfl⟩ := hx.eq_of_magnitude_eq FloatFormat.isProper_double hy
        (mul_right_cancel₀ (zpow_two_pos 1074).ne' hmagnitude)
      obtain rfl : negative = other := hnegative
      rfl

/-- The double without magnitude that carries a minus sign is minus zero. -/
theorem eq_minusZero {significand : Nat} {exponent : Int}
    (hholds : double.Holds (.finite true significand exponent))
    (hzero : (significand * 2 ^ exponent : ℚ) = 0) :
  finite true significand exponent = minusZero
  := by
  have hleast : double.Holds minusZero := ⟨by decide, by decide, .inl rfl⟩
  rw [minusZero] at hleast ⊢
  obtain ⟨rfl, rfl⟩ := hholds.eq_of_magnitude_eq isProper_double hleast (by rw [hzero]; norm_num)
  rfl

/-- Numbers of which both are below zero are in the opposite order of their magnitudes. -/
theorem swap_compare_abs {n : ℚ} (hn : n ≤ 0) (magnitude : ℚ) :
  (compare |n| magnitude).swap = compare n (-magnitude)
  := by
  rw [abs_of_nonpos hn]
  rcases lt_trichotomy (-n) magnitude with h | h | h
  · rw [compare_lt_iff_lt.mpr h, Ordering.swap, eq_comm, compare_gt_iff_gt]
    linarith
  · rw [compare_eq_iff_eq.mpr h, Ordering.swap, eq_comm, compare_eq_iff_eq]
    linarith
  · rw [compare_gt_iff_gt.mpr h, Ordering.swap, eq_comm, compare_lt_iff_lt]
    linarith

/-- A value below zero keeps its place among the doubles, unless it is rounded to one. -/
theorem compare_orderKey_of_neg {v : ℚ} (hv : v < 0) {rounded : Floating}
    (hrounds : double.Rounds true |v| rounded) {negative : Bool} {significand : Nat}
    {exponent : Int} (hholds : double.Holds (.finite negative significand exponent))
    (hne : rounded ≠ .finite negative significand exponent) :
  compare rounded.orderKey (finite negative significand exponent).orderKey
    = compare v (finite negative significand exponent).value
  := by
  cases negative with
  | false =>
      have hmagnitude : (0 : ℚ) ≤ significand * 2 ^ exponent :=
        mul_nonneg (Nat.cast_nonneg _) (zpow_two_pos exponent).le
      rw [compare_lt_iff_lt.mpr (orderKey_lt_of_negative hrounds.isNegative_eq rfl), eq_comm,
        compare_lt_iff_lt]
      apply lt_of_lt_of_le hv hmagnitude
  | true =>
      rw [compare_orderKey_of_negative hrounds.isNegative_eq rfl,
        hrounds.compare_magnitudeKey hholds hne, swap_compare_abs hv.le]
      rfl

/-- A value from zero on keeps its place among the doubles, unless it is rounded to one; zero is
above minus zero. -/
theorem compare_orderKey_of_nonneg {v : ℚ} (hv : 0 ≤ v) {rounded : Floating}
    (hrounds : double.Rounds false |v| rounded) {negative : Bool} {significand : Nat}
    {exponent : Int} (hholds : double.Holds (.finite negative significand exponent))
    (hne : rounded ≠ .finite negative significand exponent) :
  compare rounded.orderKey (finite negative significand exponent).orderKey
    = if finite negative significand exponent = minusZero ∧ v = 0 then .gt
      else compare v (finite negative significand exponent).value
  := by
  cases negative with
  | false =>
      rw [if_neg (fun h => by cases h.1),
        compare_orderKey_of_not_negative hrounds.isNegative_eq rfl,
        hrounds.compare_magnitudeKey hholds hne, abs_of_nonneg hv]
      rfl
  | true =>
      have hmagnitude : (0 : ℚ) ≤ significand * 2 ^ exponent :=
        mul_nonneg (Nat.cast_nonneg _) (zpow_two_pos exponent).le
      rw [compare_gt_iff_gt.mpr (orderKey_lt_of_negative rfl hrounds.isNegative_eq)]
      split
      · rfl
      · next hzero =>
          rw [eq_comm, compare_gt_iff_gt]
          apply lt_of_le_of_ne (le_trans (neg_nonpos.mpr hmagnitude) hv)
          intro heq
          have hvalue : v = -(significand * 2 ^ exponent) := heq.symm
          exact hzero ⟨eq_minusZero hholds (by linarith), by linarith⟩

/-- An integer in double precision stands to a double as the numbers do, unless the double is
nearest to it; minus zero is below the integer zero. -/
theorem compare_orderKey_ofInt (n : Int) {f : Floating} (hfinite : f.isFinite = true)
    (hholds : double.Holds f) :
  compare (double.ofInt n).orderKey f.orderKey
    = if double.ofInt n = f then .eq
      else if f = minusZero ∧ n = 0 then .gt
      else compare (n : ℚ) f.value
  := by
  have hrounds := rounds_ofInt n
  rw [Nat.cast_natAbs, Int.cast_abs] at hrounds
  obtain ⟨negative, significand, exponent, rfl⟩ := eq_finite hfinite
  split
  · next hsame => rw [hsame, compare_eq_iff_eq]
  · next hne =>
      by_cases hn : n < 0
      · rw [decide_eq_true hn] at hrounds
        rw [if_neg (fun h => Int.ne_of_lt hn h.2)]
        have hcast : (n : ℚ) < 0 := by exact_mod_cast hn
        exact compare_orderKey_of_neg hcast hrounds hholds hne
      · rw [decide_eq_false hn] at hrounds
        have hcast : (0 : ℚ) ≤ n := by exact_mod_cast Int.not_lt.mp hn
        have horder := compare_orderKey_of_nonneg hcast hrounds hholds hne
        simp only [Int.cast_eq_zero] at horder
        exact horder

end Floating

namespace FloatFormat

/-! ### Integers in double precision -/

/-- An integer that is a multiple of the power of two at which it is rounded is not changed. -/
theorem count_eq {count multiple : Nat} {value : ℚ} {shift : Int}
    (hvalue : value = multiple * 2 ^ shift) (hcount : |(count : ℚ) - value / 2 ^ shift| ≤ 1 / 2) :
  count = multiple
  := by
  have hscaled : value / 2 ^ shift = (multiple : Int) := by
    rw [hvalue, mul_div_cancel_right₀ _ (zpow_two_pos shift).ne', Int.cast_natCast]
  apply le_antisymm
  · exact_mod_cast ge_of_abs_sub_le_half hcount hscaled.le
  · exact_mod_cast le_of_abs_sub_le_half hcount hscaled.ge

/-- A natural number of at most fifty-three bits, or the next one, is a multiple of the power of two
at which it is rounded. -/
theorem Scales.exists_multiple {n : Nat} {shift : Int} (hscales : double.Scales n shift)
    (hn : n ≤ twoPow 53) :
  ∃ multiple : Nat, (n : ℚ) = multiple * 2 ^ shift
  := by
  rcases le_or_gt shift 0 with hshift | hshift
  · refine ⟨n * twoPow (-shift).toNat, ?_⟩
    rw [Nat.cast_mul, cast_twoPow, Int.toNat_of_nonneg (by omega), mul_assoc,
      ← zpow_add₀ two_ne_zero, neg_add_cancel, zpow_zero, mul_one]
  · have hpow : (2 : ℚ) ^ (53 - 1 + shift) ≤ n := hscales.pow_le.resolve_left (by
      rintro rfl
      cases hshift)
    have hbound : (n : ℚ) ≤ 2 ^ (53 : Int) := by
      rw [← Nat.cast_le (α := ℚ), cast_twoPow] at hn
      exact hn
    have hshift_le : 53 - 1 + shift ≤ 53 :=
      (zpow_le_zpow_iff_right₀ one_lt_two).mp (hpow.trans hbound)
    obtain rfl : shift = 1 := by omega
    refine ⟨twoPow 52, ?_⟩
    have hexact : (n : ℚ) = 2 ^ (53 : Int) := le_antisymm hbound hpow
    rw [hexact, cast_twoPow, ← zpow_add₀ two_ne_zero]
    rfl

/-- A natural number of at most fifty-three bits is a double, and so is the next one. -/
theorem Rounds.magnitude_eq {n : Nat} (h : double.Rounds negative n rounded) (hn : n ≤ twoPow 53) :
  rounded.isFinite = true ∧ rounded.magnitude = n
  := by
  cases h with
  | infinite hover =>
      have hbound : (n : ℚ) ≤ 2 ^ (53 : Int) := by
        rw [← Nat.cast_le (α := ℚ), cast_twoPow] at hn
        exact hn
      have habove : (2 : ℚ) ^ (53 : Int) < (2 ^ ((53 : Nat) : Int) - 1 / 2) * 2 ^ (971 : Int) :=
        calc (2 : ℚ) ^ (53 : Int) < (2 ^ ((53 : Nat) : Int) - 1 / 2) * 2 ^ (1 : Int) := by norm_num
          _ ≤ (2 ^ ((53 : Nat) : Int) - 1 / 2) * 2 ^ (971 : Int) := by
              apply mul_le_mul_of_nonneg_left _ (by norm_num)
              apply zpow_le_zpow_right₀ one_le_two (by decide)
      cases (hbound.trans_lt habove).not_ge hover
  | finite count shift hholds hscales hcount hsame =>
      obtain ⟨multiple, hmultiple⟩ := hscales.exists_multiple hn
      refine ⟨rfl, ?_⟩
      rw [Floating.magnitude, hsame, count_eq hmultiple hcount, hmultiple]

/-- A natural number is rounded to a natural number, if not beyond the format. -/
theorem Rounds.exists_natural {n : Nat} (h : double.Rounds negative n rounded)
    (hfinite : rounded.isFinite = true) :
  ∃ m : Nat, rounded.magnitude = m
  := by
  rcases le_or_gt n (twoPow 53) with hn | hn
  · exact ⟨n, (h.magnitude_eq hn).2⟩
  · cases h with
    | infinite hover => cases hfinite
    | finite count shift hholds hscales hcount hsame =>
        have hlow : (2 : ℚ) ^ (53 : Int) < 2 ^ (53 + shift) := by
          apply lt_trans _ hscales.lt_pow
          rw [← Nat.cast_lt (α := ℚ), cast_twoPow] at hn
          exact hn
        have hshift : 53 < 53 + shift := (zpow_lt_zpow_iff_right₀ one_lt_two).mp hlow
        refine ⟨count * twoPow shift.toNat, ?_⟩
        rw [Floating.magnitude, hsame, Nat.cast_mul, cast_twoPow, Int.toNat_of_nonneg (by omega)]

variable {n : Int}

/-- The double nearest to an integer has its sign. -/
theorem value_ofInt_eq (n : Int) :
  (double.ofInt n).value = if n < 0 then -(double.ofInt n).magnitude else (double.ofInt n).magnitude
  := by
  rw [Floating.value, (rounds_ofInt n).isNegative_eq]
  simp only [decide_eq_true_eq]

/-- Integers of at most fifty-three bits, and the next ones, are doubles. -/
theorem value_ofInt (h : n.natAbs ≤ twoPow 53) :
  (double.ofInt n).value = n
  := by
  rw [value_ofInt_eq, ((rounds_ofInt n).magnitude_eq h).2, Nat.cast_natAbs, Int.cast_abs]
  split
  · next hn => rw [abs_of_neg (by exact_mod_cast hn), neg_neg]
  · next hn => rw [abs_of_nonneg (by exact_mod_cast Int.not_lt.mp hn)]

/-- The double nearest to an integer is an integer. -/
theorem exists_value_ofInt (hfinite : (double.ofInt n).isFinite = true) :
  ∃ m : Int, (double.ofInt n).value = m
  := by
  obtain ⟨m, hm⟩ := (rounds_ofInt n).exists_natural hfinite
  rw [value_ofInt_eq, hm]
  split
  · exact ⟨-m, by rw [Int.cast_neg, Int.cast_natCast]⟩
  · exact ⟨m, by rw [Int.cast_natCast]⟩

end FloatFormat

end RowFilter
