import RowFilter.Number.Numeral
import RowFilter.Text.Blank

/-!
# Reading digits back

The digits that a number is written in have the value of the number (`digitsValue_decimalDigits`),
and nothing in the decimal text of an integer is blank or left over.  So such a text is read as the
integer that it was written for, if that fits the word that is read: `readSigned?_signedText` and
`readUnsigned?_signedText`.
-/

namespace RowFilter

/-! ### Digits -/

theorem digitsValue_nil (before : Nat) :
  digitsValue before [] = before
  := rfl

-- Unfolded by name: unification would compare the values before, and compute them.
theorem digitsValue_cons (before : Nat) (c : Char) (rest : List Char) :
  digitsValue before (c :: rest) = digitsValue (before * 10 + digitValue c) rest
  := by
  delta digitsValue
  rfl

/-- Digits are valued as the standard library does. -/
theorem digitsValue_eq_ofDigitChars (before : Nat) (digits : List Char) :
  digitsValue before digits = Nat.ofDigitChars 10 digits before
  := by
  induction digits generalizing before with
  | nil => rw [digitsValue_nil, Nat.ofDigitChars_nil]
  | cons c rest ih =>
      rw [digitsValue_cons, Nat.ofDigitChars_cons, ih, digitValue, Nat.mul_comm]

theorem digitsValue_decimalDigits (n : Nat) :
  digitsValue 0 (decimalDigits n) = n
  := by
  rw [digitsValue_eq_ofDigitChars, decimalDigits]
  apply Nat.ofDigitChars_toDigits (by decide) (by decide)

theorem isDigit_of_mem_decimalDigits {n : Nat} {c : Char} (h : c ∈ decimalDigits n) :
  c.isDigit = true
  := Nat.isDigit_of_mem_toDigits (by decide) (by decide) h

theorem decimalDigits_ne_nil (n : Nat) :
  decimalDigits n ≠ []
  := Nat.toDigits_ne_nil

/-- Digits, of which there is at least one, are read as their value. -/
theorem readDigits?_eq {digits : List Char} (hne : digits ≠ [])
    (h : ∀ c ∈ digits, c.isDigit = true) :
  readDigits? digits = some (digitsValue 0 digits)
  := by
  have hempty : digits.isEmpty = false := by
    rw [← Bool.not_eq_true, List.isEmpty_iff]
    apply hne
  have hall : digits.all Char.isDigit = true := List.all_eq_true.mpr h
  rw [readDigits?, hempty, hall]
  rfl

/-- A text that begins with neither sign has none. -/
theorem splitSign_eq {text : List Char} (hminus : '-' ∉ text.head?) (hplus : '+' ∉ text.head?) :
  splitSign text = (false, text)
  := by
  rw [splitSign.eq_def]
  split
  · cases hminus rfl
  · cases hplus rfl
  · rfl

/-- A sign and digits are read as an integer. -/
theorem readInteger?_eq {text digits : List Char} {negative : Bool} {n : Nat}
    (hsplit : splitSign text = (negative, digits)) (hdigits : readDigits? digits = some n) :
  readInteger? text = some (if negative then -(n : Int) else n)
  := by
  rw [readInteger?, hsplit]
  dsimp only
  rw [hdigits]
  rfl

/-! ### Blanks -/

/-- A text that begins with no blank has none in front. -/
theorem trimStart_append {text : List Char} (hne : text ≠ [])
    (h : ∀ c ∈ text, isWhiteSpace c = false) (rest : List Char) :
  trimStart (text ++ rest) = text ++ rest
  := by
  cases text with
  | nil => cases hne rfl
  | cons c text =>
      apply List.dropWhile_cons_of_neg
      rw [h c List.mem_cons_self]
      apply Bool.false_ne_true

/-- Blanks in the middle of a text are left as they are. -/
theorem trim_append {before after : List Char} (hbefore : before ≠ [])
    (hbefores : ∀ c ∈ before, isWhiteSpace c = false) (hafter : after ≠ [])
    (hafters : ∀ c ∈ after, isWhiteSpace c = false) (between : List Char) :
  trim (before ++ (between ++ after)) = before ++ (between ++ after)
  := by
  have hreverse : ∀ c ∈ after.reverse, isWhiteSpace c = false := by
    intro c hc
    apply hafters c (List.mem_reverse.mp hc)
  have hne : after.reverse ≠ [] := by
    rw [Ne, List.reverse_eq_nil_iff]
    apply hafter
  rw [trim, trimStart_append hbefore hbefores, ← List.append_assoc, List.reverse_append,
    trimStart_append hne hreverse, ← List.reverse_append, List.reverse_reverse]

/-- A text without blanks is left as it is. -/
theorem trim_eq_self {text : List Char} (h : ∀ c ∈ text, isWhiteSpace c = false) :
  trim text = text
  := by
  have hstart {text : List Char} (h : ∀ c ∈ text, isWhiteSpace c = false) :
      trimStart text = text := by
    cases text with
    | nil => rfl
    | cons c rest =>
        rw [← List.append_nil (c :: rest)]
        apply trimStart_append (List.cons_ne_nil c rest) h
  have hreverse : ∀ c ∈ text.reverse, isWhiteSpace c = false := by
    intro c hc
    apply h c (List.mem_reverse.mp hc)
  rw [trim, hstart h, hstart hreverse, List.reverse_reverse]

theorem isWhiteSpace_of_isDigit {c : Char} (h : c.isDigit = true) :
  isWhiteSpace c = false
  := by
  have hrange : 48 ≤ c.toNat ∧ c.toNat ≤ 57 := by
    rw [Char.isDigit, Bool.and_eq_true, decide_eq_true_iff, decide_eq_true_iff] at h
    exact h
  rw [← Bool.not_eq_true, isWhiteSpace, inRanges, List.any_eq_true]
  rintro ⟨range, hmem, hc⟩
  rw [Bool.and_eq_true, decide_eq_true_iff, decide_eq_true_iff] at hc
  simp only [whiteSpaceRanges, List.mem_cons, List.not_mem_nil, or_false] at hmem
  rcases hmem with rfl | rfl | rfl | rfl | rfl | rfl | rfl | rfl | rfl | rfl <;> omega

/-! ### Integers -/

/-- The decimal text of an integer is its digits, after a minus sign if it is negative. -/
theorem toList_signedText (n : Int) :
  (signedText n).toList = (if n < 0 then ['-'] else []) ++ decimalDigits n.natAbs
  := by
  rw [signedText]
  split
  · rw [String.toList_append, decimalText, String.toList_ofList, String.toList_ofList]
  · rw [decimalText, String.toList_ofList, List.nil_append]

theorem trim_signedText (n : Int) :
  trim (signedText n).toList = (signedText n).toList
  := by
  apply trim_eq_self
  intro c hc
  rw [toList_signedText, List.mem_append] at hc
  rcases hc with hsign | hdigit
  · split at hsign
    · obtain rfl := List.mem_singleton.mp hsign
      rfl
    · cases hsign
  · apply isWhiteSpace_of_isDigit (isDigit_of_mem_decimalDigits hdigit)

/-- The digits of a number begin with neither sign. -/
theorem not_mem_head?_decimalDigits {c : Char} (h : c.isDigit = false) (n : Nat) :
  c ∉ (decimalDigits n).head?
  := by
  intro hc
  cases h.symm.trans (isDigit_of_mem_decimalDigits (List.mem_of_mem_head? hc))

theorem readDigits?_decimalDigits (n : Nat) :
  readDigits? (decimalDigits n) = some n
  := by
  rw [readDigits?_eq (decimalDigits_ne_nil n) fun c => isDigit_of_mem_decimalDigits,
    digitsValue_decimalDigits]

/-- The decimal text of an integer is read as the integer. -/
theorem readInteger?_signedText (n : Int) :
  readInteger? (signedText n).toList = some n
  := by
  rw [toList_signedText]
  split
  · have hsplit : splitSign ('-' :: decimalDigits n.natAbs) = (true, decimalDigits n.natAbs) := rfl
    rw [List.singleton_append, readInteger?_eq hsplit (readDigits?_decimalDigits _), if_pos rfl]
    congr 1
    omega
  · have hsplit := splitSign_eq (not_mem_head?_decimalDigits rfl n.natAbs)
      (not_mem_head?_decimalDigits rfl n.natAbs)
    rw [List.nil_append, readInteger?_eq hsplit (readDigits?_decimalDigits _),
      if_neg Bool.false_ne_true]
    congr 1
    omega

/-- The decimal text of an integer is read as a signed integer if it is one of sixty-four bits. -/
theorem readSigned?_signedText (n : Int) :
  readSigned? (trim (signedText n).toList) = if fitsSigned 64 n then some n else none
  := by
  rw [trim_signedText, readSigned?, readInteger?_signedText, Option.filter_some]

/-- A text without a plus sign is read as an unsigned integer by its digits. -/
theorem readUnsigned?_eq {text : List Char} (hplus : '+' ∉ text.head?) :
  readUnsigned? text = (readDigits? text).filter fun n : Nat => fitsUnsigned 64 n
  := by
  rw [readUnsigned?.eq_def]
  split
  · cases hplus rfl
  · rfl

/-- The decimal text of an integer is read as an unsigned integer if it is one of sixty-four
bits. -/
theorem readUnsigned?_signedText (n : Int) :
  readUnsigned? (trim (signedText n).toList) = if fitsUnsigned 64 n then some n.toNat else none
  := by
  rw [trim_signedText, toList_signedText]
  split
  · next hn =>
      have hfits : fitsUnsigned 64 n = false := by
        rw [fitsUnsigned, decide_eq_false (by omega), Bool.false_and]
      rw [hfits, if_neg Bool.false_ne_true]
      rfl
  · next hn =>
      have habs : ((n.natAbs : Nat) : Int) = n := by omega
      rw [List.nil_append, readUnsigned?_eq (not_mem_head?_decimalDigits rfl _),
        readDigits?_decimalDigits, Option.filter_some, habs]
      congr 2
      omega

end RowFilter
