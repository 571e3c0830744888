import RowFilter.Batch.LiteralCell
import RowFilter.Proofs.Number.Decimal

/-!
# Scaling by powers of ten

A decimal number of a double is found in double precision: the double is multiplied by the power of
ten of the scale, and what comes out is rounded to an integer.  Each of the steps errs by a few
units of the last bit (`IsNear`), which does not change an integer of at most fourteen digits:
`Literal.decimalOfFloat_nearest`.
-/

namespace RowFilter

/-! ### Units of the last bit -/

/-- Whether a number is near another one, up to some units in the fifty-third bit. -/
def IsNear (units : Nat) (near exact : ℚ) : Prop :=
  |near - exact| ≤ units * exact / 2 ^ (53 : Int)

namespace IsNear

variable {j k : Nat} {a b x y : ℚ}

/-- A number that is near another one is at most a little greater. -/
theorem le (h : IsNear k b y) :
  b ≤ y + k * y / 2 ^ (53 : Int)
  := by
  rw [IsNear, abs_le] at h
  linarith

/-- What is near zero is zero. -/
theorem eq_zero (h : IsNear k b 0) :
  b = 0
  := by
  rw [IsNear, sub_zero, mul_zero, zero_div] at h
  exact abs_eq_zero.mp (le_antisymm h (abs_nonneg b))

/-- What the units of two errors amount to, one on top of the other: there is less than a unit
more, as long as they are few. -/
theorem units_mul_le (hunits : j * k ≤ twoPow 53) (hx : 0 ≤ x) :
  j * (x + k * x / 2 ^ (53 : Int)) + k * x ≤ ((j + k + 1 : Nat) : ℚ) * x
  := by
  have hpow : (0 : ℚ) < 2 ^ (53 : Int) := zpow_two_pos 53
  have hle : (j * k : ℚ) / 2 ^ (53 : Int) ≤ 1 := by
    have hcast : ((j * k : Nat) : ℚ) ≤ (twoPow 53 : Nat) := Nat.cast_le.mpr hunits
    rw [div_le_one hpow, ← Nat.cast_mul]
    rwa [cast_twoPow] at hcast
  have hsum : j * (x + k * x / 2 ^ (53 : Int)) + k * x
      = (j + k) * x + j * k / 2 ^ (53 : Int) * x := by
    ring
  have hbound := mul_le_mul_of_nonneg_right hle hx
  rw [hsum]
  push_cast
  linarith

/-- What is near a number that is near a third one is near that. -/
theorem trans (h : IsNear j a b) (h' : IsNear k b y) (hy : 0 ≤ y) (hunits : j * k ≤ twoPow 53) :
  IsNear (j + k + 1) a y
  := by
  have hpow : (0 : ℚ) < 2 ^ (53 : Int) := zpow_two_pos 53
  have hb : j * b ≤ j * (y + k * y / 2 ^ (53 : Int)) :=
    mul_le_mul_of_nonneg_left h'.le (Nat.cast_nonneg j)
  calc |a - y| ≤ |a - b| + |b - y| := abs_sub_le a b y
    _ ≤ j * b / 2 ^ (53 : Int) + k * y / 2 ^ (53 : Int) := add_le_add h h'
    _ = (j * b + k * y) / 2 ^ (53 : Int) := (add_div _ _ _).symm
    _ ≤ ((j + k + 1 : Nat) : ℚ) * y / 2 ^ (53 : Int) := by
        apply div_le_div_of_nonneg_right _ hpow.le
        apply le_trans _ (units_mul_le hunits hy)
        linarith

/-- The product of two numbers that are near others is near the product of these. -/
theorem mul (h : IsNear j a x) (h' : IsNear k b y) (hx : 0 ≤ x) (hy : 0 ≤ y) (hb : 0 ≤ b)
    (hunits : j * k ≤ twoPow 53) :
  IsNear (j + k + 1) (a * b) (x * y)
  := by
  have hpow : (0 : ℚ) < 2 ^ (53 : Int) := zpow_two_pos 53
  have hsplit : a * b - x * y = (a - x) * b + x * (b - y) := by ring
  have hfirst : |(a - x) * b| ≤ j * x / 2 ^ (53 : Int) * (y + k * y / 2 ^ (53 : Int)) := by
    rw [abs_mul, abs_of_nonneg hb]
    exact mul_le_mul h h'.le hb (le_trans (abs_nonneg _) h)
  have hsecond : |x * (b - y)| ≤ x * (k * y / 2 ^ (53 : Int)) := by
    rw [abs_mul, abs_of_nonneg hx]
    exact mul_le_mul_of_nonneg_left h' hx
  calc |a * b - x * y| ≤ |(a - x) * b| + |x * (b - y)| := by
        rw [hsplit]
        apply abs_add_le
    _ ≤ j * x / 2 ^ (53 : Int) * (y + k * y / 2 ^ (53 : Int)) + x * (k * y / 2 ^ (53 : Int)) :=
        add_le_add hfirst hsecond
    _ = x * (j * (y + k * y / 2 ^ (53 : Int)) + k * y) / 2 ^ (53 : Int) := by ring
    _ ≤ ((j + k + 1 : Nat) : ℚ) * (x * y) / 2 ^ (53 : Int) := by
        apply div_le_div_of_nonneg_right _ hpow.le
        have hle := mul_le_mul_of_nonneg_left (units_mul_le (j := j) (k := k) hunits hy) hx
        linarith

end IsNear

/-! ### Steps in double precision -/

namespace FloatFormat

/-- Whether a magnitude is zero, or in the range of the doubles that have all of their bits. -/
def IsOrdinary (value : ℚ) : Prop :=
  value = 0 ∨ 2 ^ (-1022 : Int) ≤ value ∧ value ≤ 2 ^ (1023 : Int)

variable {negative : Bool} {value : ℚ} {rounded : Floating}

theorem magnitude_nonneg (x : Floating) :
  0 ≤ x.magnitude
  := by
  cases x with
  | finite negative significand exponent =>
      exact mul_nonneg (Nat.cast_nonneg _) (zpow_two_pos exponent).le
  | infinite negative => exact le_refl _
  | nan negative => exact le_refl _

/-- An ordinary magnitude is rounded to a finite double near it. -/
theorem Rounds.isNear (h : double.Rounds negative value rounded) (hordinary : IsOrdinary value) :
  rounded.isFinite = true ∧ IsNear 1 rounded.magnitude value
  := by
  rcases hordinary with rfl | ⟨hlow, hhigh⟩
  · have hzero : double.Holds (.finite false 0 (-1074)) := ⟨by decide, by decide, .inl rfl⟩
    obtain ⟨hfinite, hle⟩ := h.le hzero (by norm_num)
    refine ⟨hfinite, ?_⟩
    rw [Nat.cast_zero, zero_mul] at hle
    rw [le_antisymm hle (magnitude_nonneg rounded), IsNear]
    norm_num
  · have hfinite : rounded.isFinite = true := by
      cases h with
      | infinite hover =>
          have habove : (2 : ℚ) ^ (1023 : Int)
              < (2 ^ ((53 : Nat) : Int) - 1 / 2) * 2 ^ (971 : Int) :=
            calc (2 : ℚ) ^ (1023 : Int) = 2 ^ (52 : Int) * 2 ^ (971 : Int) := by
                  rw [← zpow_add₀ two_ne_zero]
                  rfl
              _ < (2 ^ ((53 : Nat) : Int) - 1 / 2) * 2 ^ (971 : Int) :=
                  mul_lt_mul_of_pos_right (by norm_num) (zpow_two_pos _)
          cases (hhigh.trans_lt habove).not_ge hover
      | finite => rfl
    refine ⟨hfinite, ?_⟩
    have herror := h.abs_sub_le hfinite hlow
    rw [IsNear, Nat.cast_one, one_mul]
    exact herror

end FloatFormat

namespace Floating

/-- The product of two finite doubles is what the product of their magnitudes is rounded to. -/
theorem rounds_mul (negative other : Bool) (significand others : Nat) (exponent shift : Int) :
  FloatFormat.double.Rounds (negative != other)
    ((finite negative significand exponent).magnitude * (finite other others shift).magnitude)
    ((finite negative significand exponent).mul .double (finite other others shift))
  := by
  have hround := FloatFormat.rounds_round FloatFormat.isProper_double (negative != other)
    (shiftQuotient (significand * others) 1 (-(exponent + shift))).1
    (shiftQuotient_pos Nat.one_pos (significand * others) (-(exponent + shift)))
  rw [shiftQuotient_div, Nat.cast_one, div_one, zpow_neg, div_inv_eq_mul, Nat.cast_mul,
    zpow_add₀ two_ne_zero, mul_mul_mul_comm] at hround
  exact hround

/-- The integer nearest to a double that is less than a half away from it. -/
theorem nearestInt?_eq {negative : Bool} {significand n : Nat} {exponent : Int}
    (h : |(finite negative significand exponent).magnitude - n| < 1 / 2) :
  (finite negative significand exponent).nearestInt? = some (if negative then -(n : Int) else n)
  := by
  have hquotient := shiftQuotient_div significand 1 (-exponent)
  have hpos := shiftQuotient_pos Nat.one_pos significand (-exponent)
  rw [nearestInt?]
  generalize (shiftQuotient significand 1 (-exponent)).1 = num at hquotient ⊢
  generalize (shiftQuotient significand 1 (-exponent)).2 = den at hquotient hpos ⊢
  rw [Nat.cast_one, div_one, zpow_neg, div_inv_eq_mul] at hquotient
  have hden : (0 : ℚ) < den := Nat.cast_pos.mpr hpos
  rw [magnitude, ← hquotient, abs_lt] at h
  have hlow : (n - 1 / 2) * (den : ℚ) < num := by
    rw [← lt_div_iff₀ hden]
    linarith
  have hhigh : (num : ℚ) < (n + 1 / 2) * den := by
    rw [← div_lt_iff₀ hden]
    linarith
  have hlow' : ((n * (2 * den) : Nat) : ℚ) < ((2 * num + den : Nat) : ℚ) := by
    push_cast
    linarith
  have hhigh' : ((2 * num + den : Nat) : ℚ) < (((n + 1) * (2 * den) : Nat) : ℚ) := by
    push_cast
    linarith
  have hnearest : divHalfAway num den = n := by
    rw [divHalfAway]
    apply Nat.div_eq_of_lt_le
    · exact (Nat.cast_lt.mp hlow').le
    · exact Nat.cast_lt.mp hhigh'
  rw [hnearest]

end Floating

namespace Literal

/-- Whether a double is a power of ten, up to five units of the last bit: the two are compared as
a quotient with one. -/
def isNearPower (x : Floating) (scale : Int) : Bool :=
  match x with
  | .finite false significand exponent =>
    let quotient := shiftQuotient (significand * tenPow (-scale).toNat) (tenPow scale.toNat)
      (-exponent)
    decide (((quotient.1 : Int) - quotient.2).natAbs * twoPow 53 ≤ 5 * quotient.2)
  | _ => false

-- There are 256 scales; the factor of each is computed.
theorem isNearPower_scaleFactor :
  ∀ scale : Fin 256, isNearPower (scaleFactor ((scale : Nat) - 128)) ((scale : Nat) - 128) = true
  := by
  decide +kernel

/-- A power of ten as a quotient of two that are whole. -/
theorem tenPow_div_tenPow (scale : Int) :
  ((tenPow (-scale).toNat : Nat) : ℚ) / (tenPow scale.toNat : Nat) = (10 ^ scale)⁻¹
  := by
  rw [cast_tenPow, cast_tenPow, ← zpow_sub₀ (by norm_num), ← zpow_neg]
  congr 1
  omega

/-- A double that is compared as a power of ten is near it. -/
theorem isNear_of_isNearPower {x : Floating} {scale : Int} (h : isNearPower x scale = true) :
  ∃ significand exponent, x = .finite false significand exponent ∧
    IsNear 5 x.magnitude (10 ^ scale)
  := by
  rw [isNearPower.eq_def] at h
  split at h
  · next significand exponent =>
      refine ⟨significand, exponent, rfl, ?_⟩
      have hten : (0 : ℚ) < 10 ^ scale := zpow_pos (by norm_num) scale
      have htenPow : 0 < tenPow scale.toNat := Nat.pow_pos (by decide)
      have hquotient := shiftQuotient_div (significand * tenPow (-scale).toNat)
        (tenPow scale.toNat) (-exponent)
      have hpos := shiftQuotient_pos htenPow (significand * tenPow (-scale).toNat) (-exponent)
      dsimp only at h
      generalize (shiftQuotient (significand * tenPow (-scale).toNat) (tenPow scale.toNat)
        (-exponent)).1 = num at hquotient h
      generalize (shiftQuotient (significand * tenPow (-scale).toNat) (tenPow scale.toNat)
        (-exponent)).2 = den at hquotient h hpos
      have hden : (0 : ℚ) < den := Nat.cast_pos.mpr hpos
      have hbound : |(num : ℚ) - den| * 2 ^ (53 : Int) ≤ 5 * den := by
        have hcast := (Nat.cast_le (α := ℚ)).mpr (of_decide_eq_true h)
        rw [Nat.cast_mul, cast_twoPow, Nat.cast_natAbs] at hcast
        push_cast at hcast
        exact hcast
      have hmagnitude : (Floating.finite false significand exponent).magnitude
          = num / den * 10 ^ scale := by
        rw [hquotient, Nat.cast_mul, mul_div_assoc, tenPow_div_tenPow, zpow_neg, div_inv_eq_mul,
          Floating.magnitude]
        field_simp
      have hsplit : num / den * 10 ^ scale - 10 ^ scale
          = ((num : ℚ) - den) / den * 10 ^ scale := by
        field_simp
      rw [IsNear, hmagnitude, hsplit, abs_mul, abs_of_pos hten, abs_div, abs_of_pos hden,
        Nat.cast_ofNat, mul_div_right_comm]
      apply mul_le_mul_of_nonneg_right _ hten.le
      rw [div_le_div_iff₀ hden (zpow_two_pos 53)]
      exact hbound
  · cases h

/-- The factor of a scale is near the power of ten. -/
theorem isNear_scaleFactor {scale : Int} (hlow : -128 ≤ scale) (hhigh : scale ≤ 127) :
  ∃ significand exponent, scaleFactor scale = .finite false significand exponent ∧
    IsNear 5 (scaleFactor scale).magnitude (10 ^ scale)
  := by
  have hscale : (((scale + 128).toNat : Nat) : Int) - 128 = scale := by omega
  have hpower := isNearPower_scaleFactor ⟨(scale + 128).toNat, by omega⟩
  dsimp only at hpower
  rw [hscale] at hpower
  exact isNear_of_isNearPower hpower

/-- The magnitude of a number of at most fourteen digits at some scale is ordinary. -/
theorem isOrdinary_of_scaled {value : ℚ} {scale : Int} {n : Nat} (hlow : -128 ≤ scale)
    (hhigh : scale ≤ 127) (hvalue : value * 10 ^ scale = n) (hn : n < tenPow 14) :
  FloatFormat.IsOrdinary value
  := by
  have hten (power : Int) : (0 : ℚ) < 10 ^ power := zpow_pos (by norm_num) power
  have hscaled : value = n * 10 ^ (-scale) := by
    rw [← hvalue, mul_assoc, ← zpow_add₀ (by norm_num), add_neg_cancel, zpow_zero, mul_one]
  rcases Nat.eq_zero_or_pos n with rfl | hpos
  · left
    rw [hscaled, Nat.cast_zero, zero_mul]
  · right
    have hone : (1 : ℚ) ≤ n := by exact_mod_cast hpos
    have hbound : (n : ℚ) ≤ 10 ^ (14 : Int) := by
      rw [← Nat.cast_lt (α := ℚ), cast_tenPow] at hn
      exact hn.le
    constructor
    · calc (2 : ℚ) ^ (-1022 : Int) ≤ 10 ^ (-127 : Int) := by
            rw [zpow_neg, zpow_neg]
            apply inv_anti₀ (hten 127)
            exact ten_zpow_le_two_zpow (m := 127) (n := 1022) (by decide)
        _ ≤ 10 ^ (-scale) := zpow_le_zpow_right₀ (by norm_num) (by omega)
        _ ≤ n * 10 ^ (-scale) := le_mul_of_one_le_left (hten _).le hone
        _ = value := hscaled.symm
    · calc value = n * 10 ^ (-scale) := hscaled
        _ ≤ 10 ^ (14 : Int) * 10 ^ (128 : Int) := by
            apply mul_le_mul hbound _ (hten _).le (hten _).le
            apply zpow_le_zpow_right₀ (by norm_num)
            omega
        _ = 10 ^ (142 : Int) := by
            rw [← zpow_add₀ (by norm_num)]
            rfl
        _ ≤ 2 ^ (1023 : Int) := ten_zpow_le_two_zpow (m := 142) (n := 1023) (by decide)

/-- What is near a number of at most fourteen digits, up to nine units, is less than a half away. -/
theorem abs_sub_lt_half {units n : Nat} {near : ℚ} (h : IsNear units near n) (hunits : units ≤ 9)
    (hn : n < tenPow 14) :
  |near - n| < 1 / 2
  := by
  have hbound : ((units * n : Nat) : ℚ) ≤ ((9 * tenPow 14 : Nat) : ℚ) :=
    Nat.cast_le.mpr (Nat.mul_le_mul hunits hn.le)
  have hnine : ((9 * tenPow 14 : Nat) : ℚ) < 1 / 2 * 2 ^ (53 : Int) := by
    rw [Nat.cast_mul, cast_tenPow]
    norm_num
  apply lt_of_le_of_lt h
  rw [div_lt_iff₀ (zpow_two_pos 53), ← Nat.cast_mul]
  apply lt_of_le_of_lt hbound hnine

/-- What is near a number of at most fourteen digits, up to nine units, is ordinary. -/
theorem isOrdinary_of_isNear {units n : Nat} {near : ℚ} (h : IsNear units near n)
    (hunits : units ≤ 9) (hn : n < tenPow 14) :
  FloatFormat.IsOrdinary near
  := by
  rcases Nat.eq_zero_or_pos n with rfl | hpos
  · left
    rw [Nat.cast_zero] at h
    exact h.eq_zero
  · right
    have hone : (1 : ℚ) ≤ n := by exact_mod_cast hpos
    have hhalf := abs_sub_lt_half h hunits hn
    rw [abs_lt] at hhalf
    have hbound : (n : ℚ) + 1 ≤ 10 ^ (14 : Int) :=
      calc (n : ℚ) + 1 ≤ (tenPow 14 : Nat) := by exact_mod_cast hn
        _ = 10 ^ (14 : Int) := cast_tenPow 14
    constructor
    · calc (2 : ℚ) ^ (-1022 : Int) ≤ 2 ^ (-1 : Int) :=
            zpow_le_zpow_right₀ one_le_two (by decide)
        _ = 1 / 2 := by norm_num
        _ ≤ near := by linarith
    · calc near ≤ 10 ^ (14 : Int) := by linarith
        _ ≤ 2 ^ (1023 : Int) := ten_zpow_le_two_zpow (m := 14) (n := 1023) (by decide)

/-- What is small enough fits a signed word. -/
theorem fitsSigned_of_natAbs_lt {bits : Nat} {m : Int} (h : m.natAbs < twoPow (bits - 1)) :
  fitsSigned bits m = true
  := by
  rw [fitsSigned, Bool.and_eq_true, decide_eq_true_iff, decide_eq_true_iff]
  omega

/-- A text of a number that has at most fourteen digits at the scale of a type is put in that type
exactly. -/
theorem decimalOfFloat_nearest {wide : Bool} {precision : Nat} {scale : Int}
    (hlow : -128 ≤ scale) (hhigh : scale ≤ 127) {numeral : DecimalNumeral} {m : Int}
    (hvalue : numeral.value * 10 ^ scale = m) (hm : m.natAbs < tenPow 14)
    (hprecision : m.natAbs < tenPow precision) :
  decimalOfFloat wide precision scale numeral.nearest = .ok (some (.int m))
  := by
  have hten : (0 : ℚ) < 10 ^ scale := zpow_pos (by norm_num) scale
  have hmagnitude : |numeral.value| * 10 ^ scale = m.natAbs := by
    rw [Nat.cast_natAbs, Int.cast_abs, ← hvalue, abs_mul, abs_of_pos hten]
  have hnearest := numeral.rounds_nearest
  obtain ⟨hfinite, hnear⟩ := hnearest.isNear (isOrdinary_of_scaled hlow hhigh hmagnitude hm)
  obtain ⟨significand, exponent, hnumeral, -⟩ := hnearest.eq_finite hfinite
  obtain ⟨factor, shift, hfactor, hfactorNear⟩ := isNear_scaleFactor hlow hhigh
  -- The error of the text and that of the factor, then the one of rounding the product.
  have hproduct := hnear.mul hfactorNear (abs_nonneg _) hten.le
    (FloatFormat.magnitude_nonneg _) (by decide)
  rw [hmagnitude, hnumeral, hfactor] at hproduct
  have hrounds :=
    Floating.rounds_mul numeral.sign.isMinus false significand factor exponent shift
  obtain ⟨hmulFinite, hmulNear⟩ :=
    hrounds.isNear (isOrdinary_of_isNear hproduct (by decide) hm)
  have hresult := hmulNear.trans hproduct (Nat.cast_nonneg _) (by decide)
  obtain ⟨bits, last, hmul, -⟩ := hrounds.eq_finite hmulFinite
  rw [hmul] at hresult
  have hinteger := Floating.nearestInt?_eq (abs_sub_lt_half hresult (by decide) hm)
  have hfits : fitsSigned (Casting.decimalBits wide) m = true :=
    fitsSigned_of_natAbs_lt (lt_of_lt_of_le hm (by cases wide <;> decide))
  rw [decimalOfFloat, hnumeral, hfactor, hmul, hinteger]
  dsimp only
  rw [Bool.bne_false, numeral.signed_natAbs hten hvalue, if_pos hfits, Casting.decimal,
    if_pos hprecision]

end Literal

end RowFilter
