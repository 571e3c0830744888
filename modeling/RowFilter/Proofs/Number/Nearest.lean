import Mathlib.Algebra.Order.Field.Power
import Mathlib.Algebra.Order.Field.Rat
import Mathlib.Tactic.FieldSimp
import Mathlib.Tactic.Linarith
import Mathlib.Tactic.Positivity
import Mathlib.Tactic.Ring
import RowFilter.Number.Floating

/-!
# Rounding to a binary format

A quotient is rounded at the exponent at which it has as many bits before the point as the format
keeps (`FloatFormat.Scales`), to a value of the format (`FloatFormat.Holds`).  What rounding does is
said once, by `FloatFormat.Rounds`: no value of the format lies between a quotient and what it is
rounded to (`FloatFormat.Rounds.le`, `FloatFormat.Rounds.ge`), so values of the format are left as
they are (`Floating.toFormat_eq`), and the error is at most half a unit of the last bit that is kept
(`FloatFormat.Rounds.abs_sub_le`).
-/

namespace RowFilter

/-! ### Powers and quotients -/

theorem twoPow_pos (n : Nat) :
  0 < twoPow n
  := Nat.pow_pos Nat.two_pos

theorem cast_twoPow (n : Nat) :
  (twoPow n : ℚ) = 2 ^ (n : Int)
  := by
  rw [zpow_natCast]
  exact Nat.cast_pow 2 n

theorem zpow_two_pos (exponent : Int) :
  (0 : ℚ) < 2 ^ exponent
  := zpow_pos two_pos exponent

/-- A number is at least the power of two of its length. -/
theorem zpow_log2_le {n : Nat} (h : 0 < n) :
  (2 : ℚ) ^ (n.log2 : Int) ≤ n
  := by
  rw [zpow_natCast]
  exact_mod_cast Nat.log2_self_le (Nat.ne_of_gt h)

/-- A number is below the next power of two. -/
theorem lt_zpow_log2 (n : Nat) :
  (n : ℚ) < 2 ^ ((n.log2 : Int) + 1)
  := by
  have h : n < 2 ^ (n.log2 + 1) := Nat.lt_log2_self
  rw [← Nat.cast_succ, zpow_natCast]
  exact_mod_cast h

variable {num den : Nat}

theorem shiftQuotient_pos (hden : 0 < den) (num : Nat) (exponent : Int) :
  0 < (shiftQuotient num den exponent).2
  := by
  rw [shiftQuotient]
  split
  · apply Nat.mul_pos hden (twoPow_pos _)
  · apply hden

/-- A shifted quotient is the quotient divided by the power of two. -/
theorem shiftQuotient_div (num den : Nat) (exponent : Int) :
  ((shiftQuotient num den exponent).1 : ℚ) / (shiftQuotient num den exponent).2
    = num / den / 2 ^ exponent
  := by
  rw [shiftQuotient]
  split
  · next h =>
      rw [Nat.cast_mul, cast_twoPow, Int.toNat_of_nonneg h, div_mul_eq_div_div]
  · next h =>
      have hneg : 0 ≤ -exponent := by omega
      rw [Nat.cast_mul, cast_twoPow, Int.toNat_of_nonneg hneg, zpow_neg]
      field_simp

/-! ### The nearest number -/

/-- A quotient is rounded by at most a half. -/
theorem divNearestEven_bounds (hden : 0 < den) (num : Nat) :
  2 * num ≤ (2 * divNearestEven num den + 1) * den ∧
    2 * divNearestEven num den * den ≤ 2 * num + den
  := by
  have hsum := Nat.div_add_mod num den
  have hrest := Nat.mod_lt num hden
  have hlow : (2 * (num / den) + 1) * den = 2 * (den * (num / den)) + den := by ring
  have hsame : 2 * (num / den) * den = 2 * (den * (num / den)) := by ring
  have hhigh : (2 * (num / den + 1) + 1) * den = 2 * (den * (num / den)) + 3 * den := by ring
  have hnext : 2 * (num / den + 1) * den = 2 * (den * (num / den)) + 2 * den := by ring
  rw [divNearestEven]
  split
  · omega
  · split
    · omega
    · split <;> omega

theorem abs_divNearestEven_sub_le (hden : 0 < den) (num : Nat) :
  |(divNearestEven num den : ℚ) - num / den| ≤ 1 / 2
  := by
  obtain ⟨hlow, hhigh⟩ := divNearestEven_bounds hden num
  have hpos : (0 : ℚ) < den := Nat.cast_pos.mpr hden
  have hlow' : (2 * num : ℚ) ≤ (2 * divNearestEven num den + 1) * den := by exact_mod_cast hlow
  have hhigh' : (2 * divNearestEven num den * den : ℚ) ≤ 2 * num + den := by exact_mod_cast hhigh
  rw [abs_le]
  constructor
  · rw [neg_le_sub_iff_le_add, div_le_iff₀ hpos]
    linarith
  · rw [sub_le_iff_le_add, ← sub_le_iff_le_add', le_div_iff₀ hpos]
    linarith

/-- A number that is at most a half away from a value is not below a whole number that the value
is not below. -/
theorem le_of_abs_sub_le_half {n : Nat} {k : Int} {value : ℚ}
    (h : |(n : ℚ) - value| ≤ 1 / 2) (hk : (k : ℚ) ≤ value) :
  k ≤ n
  := by
  by_contra hlt
  have hstep : (n : ℚ) + 1 ≤ k := by exact_mod_cast Int.add_one_le_of_lt (Int.not_le.mp hlt)
  rw [abs_le] at h
  linarith

/-- A number that is at most a half away from a value is not above a whole number that the value
is not above. -/
theorem ge_of_abs_sub_le_half {n : Nat} {k : Int} {value : ℚ}
    (h : |(n : ℚ) - value| ≤ 1 / 2) (hk : value ≤ k) :
  n ≤ k
  := by
  by_contra hlt
  have hstep : (k : ℚ) + 1 ≤ n := by exact_mod_cast Int.add_one_le_of_lt (Int.not_le.mp hlt)
  rw [abs_le] at h
  linarith

namespace FloatFormat

/-- Whether a format keeps bits, and has exponents. -/
structure IsProper (format : FloatFormat) : Prop where
  precision_pos : 0 < format.precision
  exponent_le : format.minExponent ≤ format.maxExponent

theorem isProper_double :
  double.IsProper
  := ⟨by decide, by decide⟩

/-- Whether a value has at most as many bits before the point at an exponent as a format keeps, and
not fewer unless the exponent is the least one. -/
structure Scales (format : FloatFormat) (value : ℚ) (exponent : Int) : Prop where
  min_le : format.minExponent ≤ exponent
  lt_pow : value < 2 ^ (format.precision + exponent)
  pow_le : exponent = format.minExponent ∨ 2 ^ (format.precision - 1 + exponent) ≤ value

/-- Whether a value is one of a format: it has at most as many bits as the format keeps, and not
fewer unless its exponent is the least one. -/
def Holds (format : FloatFormat) : Floating → Prop
  | .finite _ significand exponent =>
    significand < twoPow format.precision ∧
    (format.minExponent ≤ exponent ∧ exponent ≤ format.maxExponent) ∧
    (exponent = format.minExponent ∨ twoPow (format.precision - 1) ≤ significand)
  | _ => True

variable {format : FloatFormat}

/-- A quotient lies between the powers of two that the lengths of its terms give. -/
theorem quotient_bounds (hnum : 0 < num) (hden : 0 < den) :
  (2 : ℚ) ^ ((num.log2 : Int) - den.log2 - 1) < num / den ∧
    (num / den : ℚ) < 2 ^ ((num.log2 : Int) - den.log2 + 1)
  := by
  have hpos : (0 : ℚ) < den := Nat.cast_pos.mpr hden
  constructor
  · rw [lt_div_iff₀ hpos]
    calc (2 : ℚ) ^ ((num.log2 : Int) - den.log2 - 1) * den
        < 2 ^ ((num.log2 : Int) - den.log2 - 1) * 2 ^ ((den.log2 : Int) + 1) :=
          mul_lt_mul_of_pos_left (lt_zpow_log2 den) (zpow_two_pos _)
      _ = 2 ^ (num.log2 : Int) := by
          rw [← zpow_add₀ two_ne_zero]
          congr 1
          ring
      _ ≤ num := zpow_log2_le hnum
  · rw [div_lt_iff₀ hpos]
    calc (num : ℚ) < 2 ^ ((num.log2 : Int) + 1) := lt_zpow_log2 num
      _ = 2 ^ ((num.log2 : Int) - den.log2 + 1) * 2 ^ (den.log2 : Int) := by
          rw [← zpow_add₀ two_ne_zero]
          congr 1
          ring
      _ ≤ 2 ^ ((num.log2 : Int) - den.log2 + 1) * den :=
          mul_le_mul_of_nonneg_left (zpow_log2_le hden) (zpow_two_pos _).le

/-- An exponent at which a value has as many bits as the format keeps scales it, unless it is below
the least one. -/
theorem scales_max {value : ℚ} {exponent : Int}
    (hlow : 2 ^ (format.precision - 1 + exponent) ≤ value)
    (hhigh : value < 2 ^ (format.precision + exponent)) :
  format.Scales value (max format.minExponent exponent)
  := by
  constructor
  · apply Int.le_max_left
  · apply lt_of_lt_of_le hhigh
    apply zpow_le_zpow_right₀ one_le_two
    have hmax := Int.le_max_right format.minExponent exponent
    omega
  · rcases Int.le_total exponent format.minExponent with hle | hle
    · left
      apply Int.max_eq_left hle
    · right
      rw [Int.max_eq_right hle]
      apply hlow

/-- The exponent that is chosen for a quotient scales it. -/
theorem exponentFor_scales (hproper : format.IsProper) (hnum : 0 < num) (hden : 0 < den) :
  format.Scales (num / den) (format.exponentFor num den)
  := by
  obtain ⟨hlow, hhigh⟩ := quotient_bounds hnum hden
  have hprecision := hproper.precision_pos
  have hkept : ((format.precision - 1 : Nat) : Int) = format.precision - 1 := by omega
  generalize hguess : (num.log2 : Int) - den.log2 - (format.precision - 1 : Nat) = guess
  have htest : (shiftQuotient num den guess).1 / (shiftQuotient num den guess).2
        < twoPow (format.precision - 1)
      ↔ (num / den : ℚ) < 2 ^ (format.precision - 1 + guess) := by
    have hshifted := shiftQuotient_pos hden num guess
    rw [Nat.div_lt_iff_lt_mul hshifted, zpow_add₀ two_ne_zero, ← div_lt_iff₀ (zpow_two_pos _),
      ← shiftQuotient_div, div_lt_iff₀ (Nat.cast_pos.mpr hshifted), ← Nat.cast_lt (α := ℚ),
      Nat.cast_mul, cast_twoPow, hkept]
  rw [exponentFor, hguess]
  apply scales_max
  · split
    · have hexponent : (format.precision : Int) - 1 + (guess - 1)
          = num.log2 - den.log2 - 1 := by omega
      rw [hexponent]
      apply hlow.le
    · next hless => exact not_lt.mp (mt htest.mpr hless)
  · split
    · next hless =>
        have hexponent : (format.precision : Int) + (guess - 1) = format.precision - 1 + guess := by
          omega
        rw [hexponent]
        apply htest.mp hless
    · have hexponent : (format.precision : Int) + guess = num.log2 - den.log2 + 1 := by omega
      rw [hexponent]
      apply hhigh

/-! ### Rounded values -/

/-- How a value comes out of rounding its magnitude: it is beyond the format, or it is a whole
number, at most a half away, at an exponent that scales it. -/
inductive Rounds (format : FloatFormat) (negative : Bool) (value : ℚ) : Floating → Prop where
  | infinite (h : (2 ^ (format.precision : Int) - 1 / 2) * 2 ^ format.maxExponent ≤ value) :
    Rounds format negative value (.infinite negative)
  | finite {significand : Nat} {exponent : Int} (count : Nat) (shift : Int)
      (hholds : format.Holds (.finite negative significand exponent))
      (hscales : format.Scales value shift)
      (hcount : |(count : ℚ) - value / 2 ^ shift| ≤ 1 / 2)
      (hsame : (significand * 2 ^ exponent : ℚ) = count * 2 ^ shift) :
    Rounds format negative value (.finite negative significand exponent)

/-- A value that has too many bits at an exponent from the greatest one on is beyond the format. -/
theorem overflow_le {value : ℚ} {shift : Int} (hshift : format.maxExponent ≤ shift)
    (h : 2 ^ (format.precision : Int) - 1 / 2 ≤ value / 2 ^ shift) :
  (2 ^ (format.precision : Int) - 1 / 2) * 2 ^ format.maxExponent ≤ value
  := by
  have hone : (1 : ℚ) ≤ 2 ^ (format.precision : Int) := one_le_zpow₀ one_le_two (by omega)
  have hpow : (2 : ℚ) ^ format.maxExponent ≤ 2 ^ shift := zpow_le_zpow_right₀ one_le_two hshift
  calc (2 ^ (format.precision : Int) - 1 / 2) * (2 : ℚ) ^ format.maxExponent
      ≤ (2 ^ (format.precision : Int) - 1 / 2) * 2 ^ shift := by
        apply mul_le_mul_of_nonneg_left hpow
        linarith
    _ ≤ value := by
        rw [← le_div_iff₀ (zpow_two_pos shift)]
        apply h

/-- A whole number that is at most a half away from a scaled value has at most one bit more than
the format keeps, and then it is a power of two. -/
theorem Scales.count_le {value : ℚ} {shift : Int} (hscales : format.Scales value shift)
    {count : Nat} (hcount : |(count : ℚ) - value / 2 ^ shift| ≤ 1 / 2) :
  count ≤ twoPow format.precision
  := by
  have hle : (count : Int) ≤ (twoPow format.precision : Nat) := by
    apply ge_of_abs_sub_le_half hcount
    rw [Int.cast_natCast, cast_twoPow, div_le_iff₀ (zpow_two_pos shift), ← zpow_add₀ two_ne_zero]
    apply hscales.lt_pow.le
  exact_mod_cast hle

/-- A whole number that is at most a half away from a scaled value has as many bits as the format
keeps, unless the exponent is the least one. -/
theorem Scales.le_count (hproper : format.IsProper) {value : ℚ} {shift : Int}
    (hscales : format.Scales value shift) {count : Nat}
    (hcount : |(count : ℚ) - value / 2 ^ shift| ≤ 1 / 2) :
  shift = format.minExponent ∨ twoPow (format.precision - 1) ≤ count
  := by
  have hprecision := hproper.precision_pos
  apply hscales.pow_le.imp_right
  intro hpow
  have hkept : ((format.precision - 1 : Nat) : Int) = format.precision - 1 := by omega
  have hle : ((twoPow (format.precision - 1) : Nat) : Int) ≤ count := by
    apply le_of_abs_sub_le_half hcount
    rw [Int.cast_natCast, cast_twoPow, le_div_iff₀ (zpow_two_pos shift), ← zpow_add₀ two_ne_zero,
      hkept]
    apply hpow
  exact_mod_cast hle

/-- A whole number of one bit more than the format keeps is put at the next exponent. -/
theorem Scales.rounds_carry (hproper : format.IsProper) (negative : Bool) {value : ℚ} {shift : Int}
    (hscales : format.Scales value shift) {count : Nat}
    (hcount : |(count : ℚ) - value / 2 ^ shift| ≤ 1 / 2)
    (hcarry : count = twoPow format.precision) :
  format.Rounds negative value
    (if shift + 1 > format.maxExponent then .infinite negative
      else .finite negative (twoPow (format.precision - 1)) (shift + 1))
  := by
  have hprecision := hproper.precision_pos
  have hleast := hscales.min_le
  have hfull : (count : ℚ) = 2 ^ (format.precision : Int) := by rw [hcarry, cast_twoPow]
  split
  · next hover =>
      apply Rounds.infinite
      apply overflow_le (Int.lt_add_one_iff.mp hover)
      have hhalf := (abs_le.mp hcount).2
      linarith
  · next hfits =>
      refine .finite count shift ⟨?_, ⟨?_, Int.not_lt.mp hfits⟩, .inr (le_refl _)⟩ hscales hcount ?_
      · apply Nat.pow_lt_pow_right Nat.one_lt_two
        omega
      · omega
      · rw [hfull, cast_twoPow, ← zpow_add₀ two_ne_zero, ← zpow_add₀ two_ne_zero]
        congr 1
        omega

/-- A whole number of at most as many bits as the format keeps is put at the exponent itself. -/
theorem Scales.rounds_count (hproper : format.IsProper) (negative : Bool) {value : ℚ} {shift : Int}
    (hscales : format.Scales value shift) {count : Nat}
    (hcount : |(count : ℚ) - value / 2 ^ shift| ≤ 1 / 2)
    (hcarry : count ≠ twoPow format.precision) :
  format.Rounds negative value
    (if shift > format.maxExponent then .infinite negative else .finite negative count shift)
  := by
  have hexponent := hproper.exponent_le
  split
  · next hover =>
      apply Rounds.infinite
      have hlast : format.maxExponent ≤ shift - 1 := by omega
      apply overflow_le hlast
      have hpow := hscales.pow_le.resolve_left (by omega)
      have hsum : (format.precision : Int) - 1 + shift = format.precision + (shift - 1) := by omega
      rw [hsum, zpow_add₀ two_ne_zero, ← le_div_iff₀ (zpow_two_pos _)] at hpow
      linarith
  · next hfits =>
      have hless := Nat.lt_of_le_of_ne (hscales.count_le hcount) hcarry
      exact .finite count shift
        ⟨hless, ⟨hscales.min_le, Int.not_lt.mp hfits⟩, hscales.le_count hproper hcount⟩ hscales
        hcount rfl

/-- A quotient is rounded to the nearest whole number at an exponent that scales it. -/
theorem rounds_round (hproper : format.IsProper) (negative : Bool) (num : Nat) (hden : 0 < den) :
  format.Rounds negative (num / den) (format.round negative num den)
  := by
  have hexponent := hproper.exponent_le
  obtain rfl | hnum := Nat.eq_zero_or_pos num
  · rw [round, if_pos rfl, Nat.cast_zero, zero_div]
    have hleast : format.Scales 0 format.minExponent := ⟨le_refl _, zpow_two_pos _, .inl rfl⟩
    refine .finite 0 format.minExponent ⟨twoPow_pos _, ⟨le_refl _, hexponent⟩, .inl rfl⟩ hleast ?_
      rfl
    norm_num
  · have hscales := exponentFor_scales hproper hnum hden
    rw [round, if_neg (Nat.ne_of_gt hnum)]
    generalize format.exponentFor num den = shift at hscales
    have hcount := abs_divNearestEven_sub_le (shiftQuotient_pos hden num shift)
      (shiftQuotient num den shift).1
    rw [shiftQuotient_div] at hcount
    dsimp only
    generalize divNearestEven (shiftQuotient num den shift).1 (shiftQuotient num den shift).2
      = count at hcount
    split
    · next hcarry => exact hscales.rounds_carry hproper negative hcount hcarry
    · next hcarry => exact hscales.rounds_count hproper negative hcount hcarry

end FloatFormat

/-! ### Values of the format -/

namespace Floating

/-- The magnitude of a finite value; zero for the others. -/
def magnitude : Floating → ℚ
  | .finite _ significand exponent => significand * 2 ^ exponent
  | _ => 0

/-- The number that a finite value stands for; zero for the others. -/
def value (x : Floating) : ℚ :=
  if x.isNegative then -x.magnitude else x.magnitude

/-- Whether a value is neither an infinity nor a NaN. -/
def isFinite : Floating → Bool
  | .finite _ _ _ => true
  | _ => false

theorem eq_finite {x : Floating} (h : x.isFinite = true) :
  ∃ negative significand exponent, x = .finite negative significand exponent
  := by
  cases x with
  | finite negative significand exponent => exact ⟨_, _, _, rfl⟩
  | infinite negative => cases h
  | nan negative => cases h

end Floating

namespace FloatFormat

variable {format : FloatFormat} {negative other : Bool} {significand : Nat} {exponent : Int}
  {value : ℚ} {rounded found : Floating}

/-- A value of a format has at most as many bits as the format keeps. -/
theorem Holds.magnitude_lt (h : format.Holds (.finite negative significand exponent)) :
  (significand * 2 ^ exponent : ℚ) < 2 ^ (format.precision + exponent)
  := by
  rw [zpow_add₀ two_ne_zero, ← cast_twoPow]
  apply mul_lt_mul_of_pos_right _ (zpow_two_pos exponent)
  exact_mod_cast h.1

/-- A value of a format is below the least quotient that is beyond the format. -/
theorem Holds.magnitude_lt_overflow (h : format.Holds (.finite negative significand exponent)) :
  (significand * 2 ^ exponent : ℚ)
    < (2 ^ (format.precision : Int) - 1 / 2) * 2 ^ format.maxExponent
  := by
  have hpow : (2 : ℚ) ^ exponent ≤ 2 ^ format.maxExponent :=
    zpow_le_zpow_right₀ one_le_two h.2.1.2
  have hkept : (significand : ℚ) + 1 ≤ 2 ^ (format.precision : Int) := by
    rw [← cast_twoPow]
    exact_mod_cast Nat.succ_le_of_lt h.1
  calc (significand * 2 ^ exponent : ℚ)
      ≤ significand * 2 ^ format.maxExponent :=
        mul_le_mul_of_nonneg_left hpow (Nat.cast_nonneg _)
    _ < (2 ^ (format.precision : Int) - 1 / 2) * 2 ^ format.maxExponent := by
        apply mul_lt_mul_of_pos_right _ (zpow_two_pos _)
        linarith

/-- A number of as many bits as the format keeps is at least the power of two of its first bit. -/
theorem pow_le_of_bits (hproper : format.IsProper) {count : Nat}
    (h : twoPow (format.precision - 1) ≤ count) (exponent : Int) :
  (2 : ℚ) ^ (format.precision - 1 + exponent) ≤ count * 2 ^ exponent
  := by
  have hprecision := hproper.precision_pos
  have hkept : ((format.precision - 1 : Nat) : Int) = format.precision - 1 := by omega
  rw [zpow_add₀ two_ne_zero, ← hkept, ← cast_twoPow]
  exact mul_le_mul_of_nonneg_right (Nat.cast_le.mpr h) (zpow_two_pos exponent).le

/-- A number is a multiple of the powers of two below its exponent. -/
theorem mul_zpow_eq {shift : Int} (h : shift ≤ exponent) (significand : Nat) :
  (significand * 2 ^ exponent : ℚ)
    = ((significand * twoPow (exponent - shift).toNat : Nat) : Int) * 2 ^ shift
  := by
  have hshift : 0 ≤ exponent - shift := by omega
  rw [Int.cast_natCast, Nat.cast_mul, cast_twoPow, Int.toNat_of_nonneg hshift, mul_assoc,
    ← zpow_add₀ two_ne_zero]
  congr 2
  omega

/-- A value that is scaled beyond the exponent of a value of the format is greater, and stays so
without its fraction. -/
theorem Scales.lt_pow_of_lt {shift : Int} (hscales : format.Scales value shift)
    (hholds : format.Holds (.finite negative significand exponent)) (h : exponent < shift) :
  (significand * 2 ^ exponent : ℚ) < 2 ^ (format.precision - 1 + shift) ∧
    2 ^ (format.precision - 1 + shift) ≤ value
  := by
  have hleast := hholds.2.1.1
  constructor
  · apply lt_of_lt_of_le hholds.magnitude_lt
    apply zpow_le_zpow_right₀ one_le_two
    omega
  · apply hscales.pow_le.resolve_left
    omega

/-- A value that is not above a value of the format is not rounded to one that is. -/
theorem Rounds.le (h : format.Rounds negative value rounded)
    (hholds : format.Holds (.finite other significand exponent))
    (hle : value ≤ significand * 2 ^ exponent) :
  rounded.isFinite = true ∧ rounded.magnitude ≤ significand * 2 ^ exponent
  := by
  cases h with
  | infinite hover =>
      have hbelow := hholds.magnitude_lt_overflow
      linarith
  | finite count shift _ hscales hcount hsame =>
      refine ⟨rfl, ?_⟩
      rw [Floating.magnitude, hsame]
      rcases lt_or_ge exponent shift with hlt | hge
      · obtain ⟨hbelow, habove⟩ := hscales.lt_pow_of_lt hholds hlt
        linarith
      · rw [mul_zpow_eq hge] at hle ⊢
        apply mul_le_mul_of_nonneg_right _ (zpow_two_pos shift).le
        rw [← div_le_iff₀ (zpow_two_pos shift)] at hle
        exact_mod_cast ge_of_abs_sub_le_half hcount hle

/-- A value that is not below a value of the format is not rounded to one that is. -/
theorem Rounds.ge (hproper : format.IsProper) (h : format.Rounds negative value rounded)
    (hholds : format.Holds (.finite other significand exponent))
    (hle : significand * 2 ^ exponent ≤ value) :
  rounded = .infinite negative ∨ significand * 2 ^ exponent ≤ rounded.magnitude
  := by
  cases h with
  | infinite hover => exact .inl rfl
  | finite count shift _ hscales hcount hsame =>
      right
      rw [Floating.magnitude, hsame]
      rcases lt_or_ge exponent shift with hlt | hge
      · have hleast := hholds.2.1.1
        apply (hscales.lt_pow_of_lt hholds hlt).1.le.trans
        apply pow_le_of_bits hproper ((hscales.le_count hproper hcount).resolve_left _)
        omega
      · rw [mul_zpow_eq hge] at hle ⊢
        apply mul_le_mul_of_nonneg_right _ (zpow_two_pos shift).le
        rw [← le_div_iff₀ (zpow_two_pos shift)] at hle
        exact_mod_cast le_of_abs_sub_le_half hcount hle

/-- Rounding a value that has as many bits as the format keeps errs by at most half a unit of the
last one. -/
theorem Rounds.abs_sub_le (h : format.Rounds negative value rounded)
    (hfinite : rounded.isFinite = true)
    (hnormal : 2 ^ (format.precision - 1 + format.minExponent) ≤ value) :
  |rounded.magnitude - value| ≤ value / 2 ^ (format.precision : Int)
  := by
  cases h with
  | infinite hover => cases hfinite
  | finite count shift _ hscales hcount hsame =>
      have hshift := zpow_two_pos shift
      have hpow : 2 ^ (format.precision - 1 + shift) ≤ value := by
        rcases hscales.pow_le with rfl | hpow
        · apply hnormal
        · apply hpow
      have hunit : (2 : ℚ) ^ shift / 2 ≤ value / 2 ^ (format.precision : Int) := by
        rw [le_div_iff₀ (zpow_two_pos _)]
        apply le_trans (le_of_eq _) hpow
        rw [sub_add_eq_add_sub, zpow_sub_one₀ two_ne_zero, zpow_add₀ two_ne_zero]
        ring
      have hscaled : (count * 2 ^ shift : ℚ) - value = (count - value / 2 ^ shift) * 2 ^ shift := by
        field_simp
      rw [Floating.magnitude, hsame, hscaled, abs_mul, abs_of_pos hshift]
      apply le_trans (mul_le_mul_of_nonneg_right hcount hshift.le)
      linarith

/-- A value of a format that is not at its least exponent has as many bits as the format keeps. -/
theorem Holds.pow_le (hproper : format.IsProper)
    (h : format.Holds (.finite negative significand exponent))
    (hleast : format.minExponent < exponent) :
  (2 : ℚ) ^ (format.precision - 1 + exponent) ≤ significand * 2 ^ exponent
  := by
  have hprecision := hproper.precision_pos
  have hkept : ((format.precision - 1 : Nat) : Int) = format.precision - 1 := by omega
  have hbits : (twoPow (format.precision - 1) : ℚ) ≤ significand :=
    Nat.cast_le.mpr (h.2.2.resolve_left (by omega))
  rw [zpow_add₀ two_ne_zero, ← hkept, ← cast_twoPow]
  apply mul_le_mul_of_nonneg_right hbits (zpow_two_pos exponent).le

/-- A value of a format with a smaller exponent than another one that has as many bits as the format
keeps is smaller. -/
theorem Holds.magnitude_lt_of_lt (hproper : format.IsProper) {others : Nat} {shift : Int}
    (h : format.Holds (.finite negative significand exponent))
    (hother : format.Holds (.finite other others shift)) (hlt : exponent < shift) :
  (significand * 2 ^ exponent : ℚ) < others * 2 ^ shift
  := by
  have hleast := h.2.1.1
  calc (significand * 2 ^ exponent : ℚ) < 2 ^ (format.precision + exponent) := h.magnitude_lt
    _ ≤ 2 ^ (format.precision - 1 + shift) := by
        apply zpow_le_zpow_right₀ one_le_two
        omega
    _ ≤ others * 2 ^ shift := hother.pow_le hproper (by omega)

/-- Two values of a format of the same magnitude are the same, up to their sign. -/
theorem Holds.eq_of_magnitude_eq (hproper : format.IsProper) {others : Nat} {shift : Int}
    (h : format.Holds (.finite negative significand exponent))
    (hother : format.Holds (.finite other others shift))
    (hsame : (significand * 2 ^ exponent : ℚ) = others * 2 ^ shift) :
  significand = others ∧ exponent = shift
  := by
  rcases lt_trichotomy exponent shift with hlt | rfl | hlt
  · cases (h.magnitude_lt_of_lt hproper hother hlt).ne hsame
  · refine ⟨?_, rfl⟩
    exact_mod_cast mul_right_cancel₀ (zpow_two_pos exponent).ne' hsame
  · cases (hother.magnitude_lt_of_lt hproper h hlt).ne' hsame

/-- A finite value that something is rounded to is a value of the format, of the sign that it is
rounded with. -/
theorem Rounds.eq_finite (h : format.Rounds negative value rounded)
    (hfinite : rounded.isFinite = true) :
  ∃ significand exponent, rounded = .finite negative significand exponent ∧
    format.Holds (.finite negative significand exponent)
  := by
  cases h with
  | infinite hover => cases hfinite
  | finite count shift hholds hscales hcount hsame => exact ⟨_, _, rfl, hholds⟩

/-- A value of the format is what its magnitude is rounded to. -/
theorem Rounds.eq_of_eq (hproper : format.IsProper) (h : format.Rounds negative value rounded)
    (hholds : format.Holds (.finite negative significand exponent))
    (hvalue : value = significand * 2 ^ exponent) :
  rounded = .finite negative significand exponent
  := by
  obtain ⟨hfinite, hle⟩ := h.le hholds hvalue.le
  obtain ⟨bits, shift, rfl, hrounded⟩ := h.eq_finite hfinite
  have hge := (h.ge hproper hholds hvalue.ge).resolve_left (by rintro ⟨⟩)
  obtain ⟨rfl, rfl⟩ := hrounded.eq_of_magnitude_eq hproper hholds (le_antisymm hle hge)
  rfl

end FloatFormat

/-- A value of a format is left as it is when it is rounded to the format. -/
theorem Floating.toFormat_eq {format : FloatFormat} (hproper : format.IsProper) {x : Floating}
    (h : format.Holds x) :
  x.toFormat format = x
  := by
  cases x with
  | nan negative => rfl
  | infinite negative => rfl
  | finite negative significand exponent =>
      rw [toFormat]
      apply FloatFormat.Rounds.eq_of_eq hproper (FloatFormat.rounds_round hproper negative _
        (shiftQuotient_pos Nat.one_pos significand (-exponent))) h
      rw [shiftQuotient_div, Nat.cast_one, div_one, zpow_neg, div_inv_eq_mul]

end RowFilter
