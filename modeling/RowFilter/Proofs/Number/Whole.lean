import RowFilter.Number.FloatText
import RowFilter.Proofs.Number.Digits
import RowFilter.Proofs.Number.Placement

/-!
# The text of a whole number

Of the numbers that read back as a whole double of less than fifty-four bits, this one alone is
whole (`FloatFormat.isolates_of`).  So the shortest decimal is the number itself, without the zeros
at its end, and the point notation puts them back: `Floating.text_ofInt`.
-/

namespace RowFilter

theorem tenPow_pos (n : Nat) :
  0 < tenPow n
  := Nat.pow_pos (by decide)

theorem tenPow_zero :
  tenPow 0 = 1
  := rfl

theorem tenPow_add (m n : Nat) :
  tenPow (m + n) = tenPow m * tenPow n
  := Nat.pow_add 10 m n

/-- Zeros behind the digits of a number multiply it by a power of ten. -/
theorem decimalDigits_mul_tenPow {n : Nat} (hn : 0 < n) (k : Nat) :
  decimalDigits (n * tenPow k) = decimalDigits n ++ List.replicate k '0'
  := by
  induction k with
  | zero => rw [tenPow_zero, Nat.mul_one, List.replicate_zero, List.append_nil]
  | succ k ih =>
      have hpos : 0 < n * tenPow k := Nat.mul_pos hn (tenPow_pos k)
      have hdigits := Nat.toDigits_append_toDigits (b := 10) (d := 0) (by decide) hpos (by decide)
      have hnext : n * tenPow (k + 1) = 10 * (n * tenPow k) + 0 := by
        rw [tenPow_add, Nat.add_zero, ← Nat.mul_assoc, Nat.mul_comm]
        rfl
      rw [List.replicate_succ', ← List.append_assoc, ← ih, hnext, decimalDigits, ← hdigits]
      rfl

namespace ReadBack

variable {range : ReadBack} {n : Nat}

/-- Whether a number is the value that is read back, and the only whole number among the
quotients. -/
structure Isolates (range : ReadBack) (n : Nat) : Prop where
  den_pos : 0 < range.den
  value_eq : range.value = n * range.den
  contains_iff (k : Nat) : range.contains k = true ↔ k = n

/-- Quotients that reach less than one to either side of a whole number isolate it. -/
theorem isolates_of_gap {den below : Nat} (hden : 4 ≤ den) (hpos : 0 < below) (hbelow : below ≤ 2)
    {n : Nat} (hn : 0 < n) (closed : Bool) :
  (ReadBack.mk (n * den - below) (n * den) (n * den + 2) den closed).Isolates n
  := by
  refine ⟨Nat.lt_of_lt_of_le (by decide) hden, rfl, ?_⟩
  intro k
  have hvalue : den ≤ n * den := Nat.le_mul_of_pos_left den hn
  -- Other whole numbers lie a denominator or more to either side.
  have hnear (hlow : n * den < k * den + den) (hhigh : k * den < n * den + den) : k = n := by
    rw [← Nat.succ_mul, Nat.mul_lt_mul_right (by omega)] at hlow hhigh
    omega
  rw [contains]
  constructor
  · intro hcontains
    have hbounds : n * den - below ≤ k * den ∧ k * den ≤ n * den + 2 := by
      split at hcontains <;> grind
    apply hnear <;> omega
  · rintro rfl
    split <;> grind

/-- A number lies among the divided quotients if its multiple lies among the quotients. -/
theorem contains_onGrid (range : ReadBack) (exponent k : Nat) :
  (range.onGrid exponent).contains k = range.contains (k * tenPow exponent)
  := by
  have hden : k * (range.den * tenPow exponent) = k * tenPow exponent * range.den := by
    rw [Nat.mul_assoc, Nat.mul_comm range.den]
  rw [onGrid, if_pos (Int.natCast_nonneg exponent), Int.toNat_natCast, contains, contains]
  dsimp only
  rw [hden]

/-- A grid has a hit if and only if the whole number lies on it. -/
theorem Isolates.nearest?_onGrid (h : range.Isolates n) (tie : TieRule) (exponent : Nat) :
  (range.onGrid exponent).nearest? tie
    = if tenPow exponent ∣ n then some (n / tenPow exponent) else none
  := by
  have hpos := tenPow_pos exponent
  have hlower : (range.onGrid exponent).value / (range.onGrid exponent).den
      = n / tenPow exponent := by
    rw [onGrid, if_pos (Int.natCast_nonneg exponent), Int.toNat_natCast]
    dsimp only
    rw [h.value_eq, ← Nat.div_div_eq_div_mul, Nat.mul_div_cancel _ h.den_pos]
  have hhit (k : Nat) : (range.onGrid exponent).contains k = true ↔ k * tenPow exponent = n := by
    rw [contains_onGrid, h.contains_iff]
  rw [nearest?.eq_def]
  dsimp only
  rw [hlower]
  by_cases hdvd : tenPow exponent ∣ n
  · have hupper : (range.onGrid exponent).contains (n / tenPow exponent + 1) = false := by
      rw [← Bool.not_eq_true, hhit, Nat.succ_mul, Nat.div_mul_cancel hdvd]
      omega
    rw [if_pos hdvd, (hhit _).mpr (Nat.div_mul_cancel hdvd), hupper]
  · have hmiss (k : Nat) : (range.onGrid exponent).contains k = false := by
      rw [← Bool.not_eq_true, hhit]
      rintro rfl
      exact hdvd (Nat.dvd_mul_left _ _)
    rw [if_neg hdvd, hmiss, hmiss]

/-- The point stands behind the digits of the whole number. -/
theorem Isolates.pointPosition_eq (h : range.Isolates n) (hn : 0 < n) :
  range.pointPosition = (decimalDigits n).length
  := by
  have hvalue : range.value * tenPow 350 / range.den = n * tenPow 350 := by
    rw [h.value_eq, Nat.mul_right_comm, Nat.mul_div_cancel _ h.den_pos]
  rw [pointPosition, hvalue, decimalDigits_mul_tenPow hn, List.length_append, List.length_replicate,
    Nat.cast_add]
  exact Int.add_sub_cancel _ _

/-- The search ends at a power of ten that divides the whole number, at the least with one. -/
theorem Isolates.search_eq (h : range.Isolates n) (tie : TieRule) {position fuel : Nat}
    (hposition : position ≤ 17) (hfuel : 18 ≤ position + fuel) :
  ∃ exponent : Nat, tenPow exponent ∣ n ∧
    range.search tie position fuel = ⟨n / tenPow exponent, exponent⟩
  := by
  induction fuel with
  | zero => omega
  | succ fuel ih =>
      obtain ⟨exponent, hexponent⟩ : ∃ exponent : Nat, position = 17 - fuel + exponent :=
        ⟨position - (17 - fuel), by omega⟩
      have hgrid : (position : Int) - (17 - fuel : Nat) = exponent := by omega
      rw [search, hgrid, h.nearest?_onGrid]
      by_cases hdvd : tenPow exponent ∣ n
      · rw [if_pos hdvd]
        exact ⟨exponent, hdvd, rfl⟩
      · rw [if_neg hdvd]
        apply ih
        -- One divides all numbers, so that the exponents that are left are not below zero.
        have hne : exponent ≠ 0 := by
          rintro rfl
          exact hdvd (Nat.one_dvd n)
        omega

end ReadBack

namespace Decimal

/-- Whether a decimal is a whole number, written with zeros that are left out at its end. -/
def Writes (number : Decimal) (n : Nat) : Prop :=
  ∃ zeros : Nat, number.exponent = zeros ∧ number.digits * tenPow zeros = n

/-- Zeros that are dropped are left out. -/
theorem Writes.dropZeros {number : Decimal} {n : Nat} (h : number.Writes n) (fuel : Nat) :
  (number.dropZeros fuel).Writes n
  := by
  induction fuel, number using dropZeros.induct with
  | case1 number => exact h
  | case2 number fuel hzero ih =>
      rw [Decimal.dropZeros, if_pos hzero]
      apply ih
      obtain ⟨zeros, hexponent, hdigits⟩ := h
      refine ⟨zeros + 1, ?_, ?_⟩
      · dsimp only
        rw [hexponent, Nat.cast_succ]
      · have hten : number.digits / 10 * 10 = number.digits :=
          Nat.div_mul_cancel (Nat.dvd_of_mod_eq_zero hzero.1)
        rw [Nat.add_comm, tenPow_add, ← Nat.mul_assoc]
        exact (congrArg (· * tenPow zeros) hten).trans hdigits
  | case3 number fuel hzero =>
      rw [Decimal.dropZeros, if_neg hzero]
      exact h

end Decimal

/-- The point notation of a whole number is its digits. -/
theorem FloatLayout.decimal_plain {number : Decimal} {n : Nat} (h : number.Writes n) (hn : 0 < n) :
  plain.decimal number = decimalDigits n
  := by
  obtain ⟨zeros, hexponent, rfl⟩ := h
  have hdigits : 0 < number.digits := Nat.pos_of_mul_pos_right hn
  have hlength : 0 < (decimalDigits number.digits).length :=
    List.length_pos_of_ne_nil (decimalDigits_ne_nil _)
  have hposition : ¬ ((decimalDigits number.digits).length : Int) + zeros ≤ 0 := by omega
  have hcount : (((decimalDigits number.digits).length : Int) + zeros).toNat
      = (decimalDigits number.digits).length + zeros := by omega
  rw [decimalDigits_mul_tenPow hdigits, decimal]
  dsimp only [plain]
  rw [hexponent, pointNotation, if_neg hposition, hcount, List.drop_eq_nil_of_le (by omega),
    List.take_of_length_le (by omega), Nat.add_sub_cancel_left]
  exact List.append_nil _

namespace FloatFormat

variable {negative : Bool} {significand n : Nat} {exponent : Int}

/-- The double of a whole number of less than fifty-four bits is at an exponent that is not above
zero. -/
theorem exponent_nonpos (h : double.Holds (.finite negative significand exponent))
    (hvalue : (significand * 2 ^ exponent : ℚ) = n) (hn : n < twoPow 53) :
  exponent ≤ 0
  := by
  by_contra hpos
  have hleast : double.minExponent < exponent := by
    change -1074 < exponent
    omega
  have hpow := h.pow_le isProper_double hleast
  have hbound : (n : ℚ) < 2 ^ (53 : Int) := by
    rw [← Nat.cast_lt (α := ℚ), cast_twoPow] at hn
    exact hn
  rw [hvalue] at hpow
  have hexponent : ((double.precision : Int) - 1 + exponent) < 53 :=
    (zpow_lt_zpow_iff_right₀ one_lt_two).mp (hpow.trans_lt hbound)
  change 53 - 1 + exponent < 53 at hexponent
  omega

/-- A whole double of less than fifty-four bits is the only whole number that reads back as it. -/
theorem isolates_of (h : double.Holds (.finite negative significand exponent))
    (hvalue : (significand * 2 ^ exponent : ℚ) = n) (hn : n < twoPow 53) (hpos : 0 < n) :
  (ReadBack.of .double significand exponent).Isolates n
  := by
  have hexponent := exponent_nonpos h hvalue hn
  have hsignificand : significand = n * twoPow (-exponent).toNat := by
    rw [← Nat.cast_inj (R := ℚ), Nat.cast_mul, cast_twoPow, Int.toNat_of_nonneg (by omega),
      ← hvalue, mul_assoc, ← zpow_add₀ two_ne_zero, add_neg_cancel, zpow_zero, mul_one]
  have hshift : (2 - exponent).toNat = 2 + (-exponent).toNat := by omega
  have hden : 1 * twoPow (2 - exponent).toNat = 4 * twoPow (-exponent).toNat := by
    rw [hshift, Nat.one_mul]
    exact Nat.pow_add 2 2 _
  have hscale (k : Nat) : shiftQuotient k 1 (2 - exponent) = (k, 4 * twoPow (-exponent).toNat) := by
    rw [shiftQuotient, if_pos (by omega), hden]
  have hmul : 4 * significand = n * (4 * twoPow (-exponent).toNat) := by
    rw [hsignificand, Nat.mul_left_comm]
  have hfour : 4 ≤ 4 * twoPow (-exponent).toNat := Nat.le_mul_of_pos_right 4 (twoPow_pos _)
  rw [ReadBack.of]
  simp only [hscale, hmul]
  apply ReadBack.isolates_of_gap hfour
  · split <;> decide
  · split <;> decide
  · exact hpos

/-- The shortest decimal of a whole double of less than fifty-four bits is the number itself. -/
theorem shortest_writes (h : double.Holds (.finite negative significand exponent))
    (hvalue : (significand * 2 ^ exponent : ℚ) = n) (hn : n < twoPow 53) (hpos : 0 < n)
    (tie : TieRule) :
  (double.shortest tie significand exponent).Writes n
  := by
  have hisolates := isolates_of h hvalue hn hpos
  have hlength : (decimalDigits n).length ≤ 16 := by
    rw [decimalDigits, Nat.length_toDigits_le_iff (by decide) (by decide)]
    exact hn.trans (by decide)
  have hnonempty : 0 < (decimalDigits n).length :=
    List.length_pos_of_ne_nil (decimalDigits_ne_nil n)
  have hfuel : 18 ≤ (decimalDigits n).length + 17 := by omega
  obtain ⟨zeros, hdvd, hsearch⟩ := hisolates.search_eq tie (by omega) hfuel
  rw [shortest, hisolates.pointPosition_eq hpos, hsearch]
  apply Decimal.Writes.dropZeros
  exact ⟨zeros, rfl, Nat.div_mul_cancel hdvd⟩

end FloatFormat

namespace Floating

/-- A positive whole double of less than fifty-four bits is written as the integer. -/
theorem text_of_whole {negative : Bool} {significand n : Nat} {exponent : Int}
    (h : FloatFormat.double.Holds (.finite negative significand exponent))
    (hvalue : (significand * 2 ^ exponent : ℚ) = n) (hn : n < twoPow 53) (hpos : 0 < n) :
  text .double .plain (.finite negative significand exponent)
    = String.ofList ((if negative then ['-'] else []) ++ decimalDigits n)
  := by
  have hne : significand ≠ 0 := by
    rintro rfl
    rw [Nat.cast_zero, zero_mul] at hvalue
    have hzero : n = 0 := by exact_mod_cast hvalue.symm
    omega
  have hshortest := FloatFormat.shortest_writes h hvalue hn hpos FloatLayout.plain.tie
  rw [text, if_neg hne, FloatLayout.decimal_plain hshortest hpos]
  cases negative <;> rfl

/-- An integer of at most fifty-three bits, or the next one, is written in double precision as the
integer. -/
theorem text_ofInt {n : Int} (h : n.natAbs ≤ twoPow 53) :
  text .double .plain (FloatFormat.double.ofInt n) = signedText n
  := by
  rcases h.lt_or_eq with hlt | heq
  · by_cases hzero : n = 0
    · rw [hzero]
      decide
    · obtain ⟨hfinite, hmagnitude⟩ := (FloatFormat.rounds_ofInt n).magnitude_eq h
      obtain ⟨significand, exponent, hvalue, hholds⟩ :=
        (FloatFormat.rounds_ofInt n).eq_finite hfinite
      rw [hvalue] at hmagnitude ⊢
      rw [text_of_whole hholds hmagnitude hlt (Int.natAbs_pos.mpr hzero), ← String.ofList_toList
        (s := signedText n), toList_signedText]
      simp only [decide_eq_true_eq]
  · obtain rfl | rfl := Int.natAbs_eq_natAbs_iff.mp (heq.trans (Int.natAbs_natCast _).symm)
    · decide +kernel
    · decide +kernel

end Floating

end RowFilter
