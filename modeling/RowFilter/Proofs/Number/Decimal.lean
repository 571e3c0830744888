import RowFilter.Proofs.Number.Digits
import RowFilter.Proofs.Number.Nearest

/-!
# Decimal notation

A `DecimalNumeral` is a number in decimal notation: a sign or none, digits with a point among or
beside them, and an exponent or none.  It stands for an exact number, `DecimalNumeral.value`.
A text of such a numeral is read as the double nearest to that number
(`DecimalNumeral.readFloating?_chars`, `DecimalNumeral.rounds_nearest`).
-/

namespace RowFilter

/-- A sign in front of digits, or none. -/
inductive NumeralSign where
  | absent
  | plus
  | minus
deriving DecidableEq, Repr

namespace NumeralSign

/-- The characters of a sign. -/
def chars : NumeralSign → List Char
  | .absent => []
  | .plus => ['+']
  | .minus => ['-']

/-- Whether a sign is a minus sign. -/
def isMinus : NumeralSign → Bool
  | .minus => true
  | _ => false

end NumeralSign

/-- The exponent of a numeral: its letter, a sign or none, and digits. -/
structure NumeralExponent where
  capital : Bool
  sign : NumeralSign
  digits : List Char
  digits_isDigit : ∀ c ∈ digits, c.isDigit = true
  digits_ne_nil : digits ≠ []

namespace NumeralExponent

/-- The characters of an exponent. -/
def chars (exponent : NumeralExponent) : List Char :=
  (if exponent.capital then 'E' else 'e') :: (exponent.sign.chars ++ exponent.digits)

/-- The power of ten that an exponent stands for. -/
def power (exponent : NumeralExponent) : Int :=
  if exponent.sign.isMinus then -(digitsValue 0 exponent.digits : Int)
  else digitsValue 0 exponent.digits

end NumeralExponent

/-- A number in decimal notation, with at least one digit before or after the point. -/
structure DecimalNumeral where
  sign : NumeralSign
  whole : List Char
  fraction : Option (List Char)
  exponent : Option NumeralExponent
  whole_isDigit : ∀ c ∈ whole, c.isDigit = true
  fraction_isDigit : ∀ c ∈ fraction.getD [], c.isDigit = true
  digits_ne_nil : whole ++ fraction.getD [] ≠ []

namespace DecimalNumeral

variable (numeral : DecimalNumeral)

/-- The characters after the digits before the point. -/
def tail : List Char :=
  numeral.fraction.elim [] (fun digits => '.' :: digits)
    ++ numeral.exponent.elim [] NumeralExponent.chars

/-- The characters of a numeral. -/
def chars : List Char :=
  numeral.sign.chars ++ (numeral.whole ++ numeral.tail)

/-- The number that the digits stand for if the point is left out. -/
def digits : Nat :=
  digitsValue 0 (numeral.whole ++ numeral.fraction.getD [])

/-- The power of ten of the last digit. -/
def power : Int :=
  numeral.exponent.elim 0 NumeralExponent.power - (numeral.fraction.getD []).length

/-- The number that a numeral stands for. -/
def value : ℚ :=
  (if numeral.sign.isMinus then -1 else 1) * (numeral.digits * 10 ^ numeral.power)

/-- The double nearest to the number that a numeral stands for. -/
def nearest : Floating :=
  FloatFormat.double.ofDecimal numeral.sign.isMinus numeral.digits numeral.power

end DecimalNumeral

/-! ### Reading -/

/-- A sign is split off what comes after it, if that begins with neither sign. -/
theorem splitSign_append (sign : NumeralSign) {text : List Char} (hminus : '-' ∉ text.head?)
    (hplus : '+' ∉ text.head?) :
  splitSign (sign.chars ++ text) = (sign.isMinus, text)
  := by
  cases sign with
  | absent => exact splitSign_eq hminus hplus
  | plus => rfl
  | minus => rfl

/-- What is not a digit does not begin a text of digits. -/
theorem not_mem_head?_of_isDigit {digits : List Char} (h : ∀ c ∈ digits, c.isDigit = true)
    {c : Char} (hc : c.isDigit = false) :
  c ∉ digits.head?
  := by
  intro hmem
  cases hc.symm.trans (h c (List.mem_of_mem_head? hmem))

/-- A run of digits is told from what comes after it, if that does not begin with a digit. -/
theorem span_isDigit {digits rest : List Char} (h : ∀ c ∈ digits, c.isDigit = true)
    (hrest : ∀ c ∈ rest.head?, c.isDigit = false) :
  (digits ++ rest).takeWhile Char.isDigit = digits ∧
    (digits ++ rest).dropWhile Char.isDigit = rest
  := by
  rw [List.takeWhile_append_of_pos h, List.dropWhile_append_of_pos h]
  cases rest with
  | nil => exact ⟨List.append_nil digits, rfl⟩
  | cons c rest =>
      have hc := hrest c rfl
      rw [List.takeWhile_cons_of_neg (by simp [hc]), List.dropWhile_cons_of_neg (by simp [hc]),
        List.append_nil]
      exact ⟨rfl, rfl⟩

section

variable {format : FloatFormat} {negative : Bool} {whole rest : List Char} {exponent : Int}

/-- Digits without a point are read as they stand. -/
theorem readMagnitude?_whole (hwhole : ∀ c ∈ whole, c.isDigit = true)
    (hrest : ∀ c ∈ rest.head?, c.isDigit = false) (hpoint : '.' ∉ rest.head?) (hne : whole ≠ [])
    (hexponent : readExponent? rest = some exponent) :
  readMagnitude? format negative (whole ++ rest)
    = some (format.ofDecimal negative (digitsValue 0 whole) (exponent - 0))
  := by
  obtain ⟨htake, hdrop⟩ := span_isDigit hwhole hrest
  have hnone : whole.isEmpty = false := by
    rw [← Bool.not_eq_true, List.isEmpty_iff]
    apply hne
  have hnotPoint : ∀ after, rest ≠ '.' :: after := by
    rintro after rfl
    apply hpoint rfl
  simp only [readMagnitude?, htake, hdrop, hnone, Bool.false_and, if_neg Bool.false_ne_true,
    hexponent, Option.map_some, List.append_nil]
  rfl

/-- Digits with a point are read as if without the point, at the power of the last digit. -/
theorem readMagnitude?_point {digits : List Char} (hwhole : ∀ c ∈ whole, c.isDigit = true)
    (hdigits : ∀ c ∈ digits, c.isDigit = true) (hrest : ∀ c ∈ rest.head?, c.isDigit = false)
    (hne : whole ++ digits ≠ []) (hexponent : readExponent? rest = some exponent) :
  readMagnitude? format negative (whole ++ '.' :: (digits ++ rest))
    = some (format.ofDecimal negative (digitsValue 0 (whole ++ digits)) (exponent - digits.length))
  := by
  have hpoint : ∀ c ∈ ('.' :: (digits ++ rest)).head?, c.isDigit = false := by
    rintro c ⟨⟩
    rfl
  obtain ⟨htake, hdrop⟩ := span_isDigit hwhole hpoint
  obtain ⟨hfraction, hafter⟩ := span_isDigit hdigits hrest
  have hnone : (whole.isEmpty && digits.isEmpty) = false := by
    rw [← Bool.not_eq_true, Bool.and_eq_true, List.isEmpty_iff, List.isEmpty_iff]
    rintro ⟨rfl, rfl⟩
    apply hne rfl
  simp only [readMagnitude?, htake, hdrop, hfraction, hafter, hnone, if_neg Bool.false_ne_true,
    hexponent, Option.map_some]

end

namespace NumeralExponent

/-- An exponent is read as the power that it stands for. -/
theorem readExponent?_chars (exponent : NumeralExponent) :
  readExponent? exponent.chars = some exponent.power
  := by
  have hsplit := splitSign_append exponent.sign
    (not_mem_head?_of_isDigit exponent.digits_isDigit (c := '-') rfl)
    (not_mem_head?_of_isDigit exponent.digits_isDigit (c := '+') rfl)
  have hdigits := readDigits?_eq exponent.digits_ne_nil exponent.digits_isDigit
  rw [chars, readExponent?, readInteger?_eq hsplit hdigits, power]
  cases exponent.capital <;> rfl

end NumeralExponent

namespace DecimalNumeral

variable (numeral : DecimalNumeral)

/-- After the sign, a numeral begins with a digit or a point. -/
theorem exists_head :
  ∃ c rest, numeral.whole ++ numeral.tail = c :: rest ∧ (c.isDigit = true ∨ c = '.')
  := by
  cases hwhole : numeral.whole with
  | cons c rest =>
      have hc : c ∈ numeral.whole := by
        rw [hwhole]
        apply List.mem_cons_self
      exact ⟨c, rest ++ numeral.tail, rfl, .inl (numeral.whole_isDigit c hc)⟩
  | nil =>
      cases hfraction : numeral.fraction with
      | none =>
          apply absurd _ numeral.digits_ne_nil
          rw [hwhole, hfraction]
          rfl
      | some digits =>
          refine ⟨'.', digits ++ numeral.exponent.elim [] NumeralExponent.chars, ?_, .inr rfl⟩
          rw [tail, hfraction]
          rfl

/-- Digits and points are the same in lower case. -/
theorem toLower_eq {c : Char} (h : c.isDigit = true ∨ c = '.') :
  c.toLower = c
  := by
  rcases h with h | rfl
  · apply dif_neg
    rintro ⟨hletter, -⟩
    rw [Char.isDigit, Bool.and_eq_true, decide_eq_true_iff, decide_eq_true_iff] at h
    exact absurd (UInt32.le_trans hletter h.2) (by decide)
  · rfl

/-- An exponent begins with its letter. -/
theorem mem_head?_exponent {c : Char}
    (h : c ∈ (numeral.exponent.elim [] NumeralExponent.chars).head?) :
  c = 'e' ∨ c = 'E'
  := by
  cases hexponent : numeral.exponent with
  | none =>
      rw [hexponent] at h
      cases h
  | some exponent =>
      rw [hexponent] at h
      cases h
      cases exponent.capital
      · exact .inl rfl
      · exact .inr rfl

theorem isDigit_of_mem_head?_exponent {c : Char}
    (h : c ∈ (numeral.exponent.elim [] NumeralExponent.chars).head?) :
  c.isDigit = false
  := by
  obtain rfl | rfl := numeral.mem_head?_exponent h <;> rfl

theorem not_mem_head?_exponent :
  '.' ∉ (numeral.exponent.elim [] NumeralExponent.chars).head?
  := by
  intro h
  rcases numeral.mem_head?_exponent h with hc | hc <;> cases hc

theorem readExponent?_elim :
  readExponent? (numeral.exponent.elim [] NumeralExponent.chars)
    = some (numeral.exponent.elim 0 NumeralExponent.power)
  := by
  cases numeral.exponent with
  | none => rfl
  | some exponent => exact exponent.readExponent?_chars

/-- What comes after the sign is read as the value of a format that is nearest. -/
theorem readMagnitude?_chars (format : FloatFormat) (negative : Bool) :
  readMagnitude? format negative (numeral.whole ++ numeral.tail)
    = some (format.ofDecimal negative numeral.digits numeral.power)
  := by
  have hdigits := numeral.fraction_isDigit
  have hne := numeral.digits_ne_nil
  rw [tail, digits, power]
  cases hfraction : numeral.fraction with
  | none =>
      rw [hfraction, Option.getD_none, List.append_nil] at hne
      rw [Option.elim_none, List.nil_append, readMagnitude?_whole numeral.whole_isDigit
        (fun c => numeral.isDigit_of_mem_head?_exponent) numeral.not_mem_head?_exponent hne
        numeral.readExponent?_elim, Option.getD_none, List.append_nil]
      rfl
  | some digits =>
      rw [hfraction] at hdigits hne
      rw [Option.elim_some, List.cons_append]
      apply readMagnitude?_point numeral.whole_isDigit hdigits
        (fun c => numeral.isDigit_of_mem_head?_exponent) hne numeral.readExponent?_elim

/-- A numeral is read as the double nearest to what it stands for. -/
theorem readFloating?_chars :
  readFloating? .double numeral.chars = some numeral.nearest
  := by
  obtain ⟨c, rest, hbody, hc⟩ := numeral.exists_head
  have hsign (sign : Char) (h : ¬ (sign.isDigit = true ∨ sign = '.')) :
      sign ∉ (numeral.whole ++ numeral.tail).head? := by
    rw [hbody]
    rintro ⟨⟩
    apply h hc
  have hsplit : splitSign numeral.chars = (numeral.sign.isMinus, numeral.whole ++ numeral.tail) :=
    splitSign_append numeral.sign (hsign '-' (by decide)) (hsign '+' (by decide))
  have hword (letter : Char) (letters : List Char) (h : ¬ (letter.isDigit = true ∨ letter = '.')) :
      (numeral.whole ++ numeral.tail).map Char.toLower ≠ letter :: letters := by
    rw [hbody, List.map_cons, toLower_eq hc]
    rintro ⟨⟩
    apply h hc
  have hinf : (numeral.whole ++ numeral.tail).map Char.toLower ≠ "inf".toList :=
    hword 'i' ['n', 'f'] (by decide)
  have hinfinity : (numeral.whole ++ numeral.tail).map Char.toLower ≠ "infinity".toList :=
    hword 'i' ['n', 'f', 'i', 'n', 'i', 't', 'y'] (by decide)
  rw [readFloating?, hsplit]
  dsimp only
  rw [if_neg (hword 'n' _ (by decide)), decide_eq_false hinf, decide_eq_false hinfinity,
    Bool.or_false, if_neg Bool.false_ne_true, readMagnitude?_chars]
  rfl

end DecimalNumeral

/-! ### The nearest double -/

theorem cast_tenPow (n : Nat) :
  (tenPow n : ℚ) = 10 ^ (n : Int)
  := by
  rw [zpow_natCast]
  exact Nat.cast_pow 10 n

/-- A power of eight is below that of ten. -/
theorem two_zpow_le_ten_zpow {m n : Nat} (h : m ≤ 3 * n) :
  (2 : ℚ) ^ (m : Int) ≤ 10 ^ (n : Int)
  := by
  calc (2 : ℚ) ^ (m : Int) ≤ 2 ^ ((3 * n : Nat) : Int) := by
        apply zpow_le_zpow_right₀ one_le_two
        exact_mod_cast h
    _ = (2 ^ 3) ^ n := by rw [zpow_natCast, pow_mul]
    _ ≤ 10 ^ n := pow_le_pow_left₀ (by norm_num) (by norm_num) n
    _ = 10 ^ (n : Int) := (zpow_natCast _ _).symm

/-- A power of ten is below that of sixteen. -/
theorem ten_zpow_le_two_zpow {m n : Nat} (h : 4 * m ≤ n) :
  (10 : ℚ) ^ (m : Int) ≤ 2 ^ (n : Int)
  := by
  calc (10 : ℚ) ^ (m : Int) = 10 ^ m := zpow_natCast _ _
    _ ≤ (2 ^ 4) ^ m := pow_le_pow_left₀ (by norm_num) (by norm_num) m
    _ = 2 ^ ((4 * m : Nat) : Int) := by rw [zpow_natCast, pow_mul]
    _ ≤ 2 ^ (n : Int) := by
        apply zpow_le_zpow_right₀ one_le_two
        exact_mod_cast h

/-- A number has no more digits before the point than bits. -/
theorem mul_ten_zpow_le (n : Nat) (exponent : Int) :
  (n * 10 ^ exponent : ℚ) ≤ 10 ^ (((n.log2 + 1 : Nat) : Int) + exponent)
  := by
  have hpow : (2 : ℚ) ^ ((n.log2 + 1 : Nat) : Int) ≤ 10 ^ ((n.log2 + 1 : Nat) : Int) :=
    two_zpow_le_ten_zpow (by omega)
  rw [zpow_add₀ (by norm_num)]
  apply mul_le_mul_of_nonneg_right _ (zpow_pos (by norm_num) exponent).le
  exact (lt_zpow_log2 n).le.trans hpow

namespace FloatFormat

variable {negative : Bool} {value : ℚ}

/-- What is far above the doubles is beyond them. -/
theorem rounds_infinite (h : 10 ^ (400 : Int) ≤ value) :
  double.Rounds negative value (.infinite negative)
  := by
  apply Rounds.infinite
  calc ((2 : ℚ) ^ ((53 : Nat) : Int) - 1 / 2) * 2 ^ (971 : Int)
      ≤ 2 ^ ((53 : Nat) : Int) * 2 ^ (971 : Int) := by
        apply mul_le_mul_of_nonneg_right _ (zpow_two_pos _).le
        linarith
    _ = 2 ^ ((1024 : Nat) : Int) := by
        rw [← zpow_add₀ two_ne_zero]
        rfl
    _ ≤ 10 ^ (400 : Int) := two_zpow_le_ten_zpow (n := 400) (by decide)
    _ ≤ value := h

/-- What is far below the least double is rounded to zero. -/
theorem rounds_zero (hnonneg : 0 ≤ value) (h : value ≤ 10 ^ (-400 : Int)) :
  double.Rounds negative value (double.round negative 0 1)
  := by
  have hsmall : value ≤ 2 ^ (-1075 : Int) := by
    apply h.trans
    rw [zpow_neg, zpow_neg]
    apply inv_anti₀ (zpow_two_pos 1075)
    exact two_zpow_le_ten_zpow (m := 1075) (n := 400) (by decide)
  have hscales : double.Scales value (-1074) := by
    refine ⟨le_refl _, ?_, .inl rfl⟩
    apply hsmall.trans_lt
    apply zpow_lt_zpow_right₀ one_lt_two (by decide)
  have hhalf : (2 : ℚ) ^ (-1075 : Int) = 1 / 2 * 2 ^ (-1074 : Int) := by
    rw [show (-1075 : Int) = -1 + -1074 by rfl, zpow_add₀ two_ne_zero]
    norm_num
  rw [round, if_pos rfl]
  refine .finite 0 (-1074) ⟨twoPow_pos _, ⟨by decide, by decide⟩, .inl rfl⟩ hscales ?_ rfl
  rw [Nat.cast_zero, zero_sub, abs_neg, abs_of_nonneg (div_nonneg hnonneg (zpow_two_pos _).le),
    div_le_iff₀ (zpow_two_pos _), ← hhalf]
  apply hsmall

/-- A number in decimal notation is rounded to the double that is taken for it. -/
theorem rounds_ofDecimal (negative : Bool) (digits : Nat) (exponent : Int) :
  double.Rounds negative (digits * 10 ^ exponent) (double.ofDecimal negative digits exponent)
  := by
  have hten (power : Int) : (0 : ℚ) < 10 ^ power := zpow_pos (by norm_num) power
  rw [ofDecimal]
  split
  · next hzero =>
      have hround := rounds_round isProper_double negative 0 Nat.one_pos
      rw [hzero, Nat.cast_zero, zero_mul]
      rw [Nat.cast_zero, zero_div] at hround
      exact hround
  · next hpos =>
      have hone : (1 : ℚ) ≤ digits := by exact_mod_cast Nat.one_le_iff_ne_zero.mpr hpos
      split
      · next hlarge =>
          apply rounds_infinite
          calc (10 : ℚ) ^ (400 : Int) ≤ 10 ^ exponent :=
                zpow_le_zpow_right₀ (by norm_num) hlarge.le
            _ ≤ digits * 10 ^ exponent := le_mul_of_one_le_left (hten exponent).le hone
      · split
        · next hsmall =>
            apply rounds_zero (mul_nonneg (Nat.cast_nonneg _) (hten exponent).le)
            apply (mul_ten_zpow_le digits exponent).trans
            apply zpow_le_zpow_right₀ (by norm_num)
            omega
        · split
          · next hnonneg =>
              have hround := rounds_round isProper_double negative
                (digits * tenPow exponent.toNat) Nat.one_pos
              rw [Nat.cast_mul, cast_tenPow, Int.toNat_of_nonneg hnonneg, Nat.cast_one,
                div_one] at hround
              exact hround
          · next hneg =>
              have hpow : 0 < tenPow (-exponent).toNat := Nat.pow_pos (by decide)
              have hround := rounds_round isProper_double negative digits hpow
              rw [cast_tenPow, Int.toNat_of_nonneg (by omega), zpow_neg, div_inv_eq_mul] at hround
              exact hround

end FloatFormat

namespace DecimalNumeral

variable (numeral : DecimalNumeral)

theorem magnitude_nonneg :
  (0 : ℚ) ≤ numeral.digits * 10 ^ numeral.power
  := mul_nonneg (Nat.cast_nonneg _) (zpow_pos (by norm_num) _).le

/-- The magnitude of the number that a numeral stands for is rounded to the nearest double. -/
theorem rounds_nearest :
  FloatFormat.double.Rounds numeral.sign.isMinus |numeral.value| numeral.nearest
  := by
  have hmagnitude : |numeral.value| = numeral.digits * 10 ^ numeral.power := by
    rw [value, abs_mul, abs_of_nonneg numeral.magnitude_nonneg]
    cases numeral.sign.isMinus <;> norm_num
  rw [hmagnitude]
  apply FloatFormat.rounds_ofDecimal

/-- An integer that a numeral stands for at some scale has the sign of the numeral. -/
theorem signed_natAbs {scaled : ℚ} {m : Int} (hscaled : 0 < scaled)
    (hvalue : numeral.value * scaled = m) :
  (if numeral.sign.isMinus = true then -(m.natAbs : Int) else m.natAbs) = m
  := by
  have hproduct := mul_nonneg numeral.magnitude_nonneg hscaled.le
  rw [value, mul_assoc] at hvalue
  cases hsign : numeral.sign.isMinus with
  | true =>
      rw [hsign, if_pos rfl, neg_one_mul] at hvalue
      have hneg : (m : ℚ) ≤ 0 := by linarith
      have hle : m ≤ 0 := by exact_mod_cast hneg
      rw [if_pos rfl]
      omega
  | false =>
      rw [hsign, if_neg Bool.false_ne_true, one_mul] at hvalue
      have hnonneg : (0 : ℚ) ≤ m := by linarith
      have hle : 0 ≤ m := by exact_mod_cast hnonneg
      rw [if_neg Bool.false_ne_true]
      omega

end DecimalNumeral

end RowFilter
