import RowFilter.Calendar.Instant
import RowFilter.Proofs.Calendar.Days
import RowFilter.Proofs.Number.Digits

/-!
# Reading moments back

What a format writes, it reads back: a number that is filled up with zeros is read as the number
(`Format.readDigits_fieldText`), and a year by its four digits or by its sign
(`Format.readNumber_year`).  From these the items of a date and of a time of day are read one after
the other (`Format.allReadBack_dashedDate`, `Format.allReadBack_plainClock`).  All that they show is
true of the moment that was written (`FieldValues.AreOf`), and so shows its date and its time of day
(`FieldValues.AreOf.date?_eq`, `FieldValues.AreOf.clock?_eq`).
-/

namespace RowFilter

namespace Format

/-! ### Filled up numbers -/

theorem isDigit_of_mem_fieldText {width n : Nat} {c : Char} (h : c ∈ fieldText width .zeros n) :
  c.isDigit = true
  := by
  rcases List.mem_append.mp h with hzero | hdigit
  · rw [List.eq_of_mem_replicate hzero]
    rfl
  · apply isDigit_of_mem_decimalDigits hdigit

theorem fieldText_ne_nil (width n : Nat) :
  fieldText width .zeros n ≠ []
  := by
  rw [fieldText]
  apply List.append_ne_nil_of_right_ne_nil
  apply decimalDigits_ne_nil

/-- A number that fits the width is as wide. -/
theorem length_fieldText {width n : Nat} (hwidth : 0 < width) (h : n < tenPow width) :
  (fieldText width .zeros n).length = width
  := by
  have hlength : (decimalDigits n).length ≤ width :=
    (Nat.length_toDigits_le_iff (by decide) hwidth).mpr h
  rw [fieldText, List.length_append, List.length_replicate]
  omega

/-- A number that is filled up with zeros has its value. -/
theorem digitsValue_fieldText (width n : Nat) :
  digitsValue 0 (fieldText width .zeros n) = n
  := by
  rw [fieldText, digitsValue_eq_ofDigitChars, Nat.ofDigitChars_append,
    Nat.ofDigitChars_replicate_zero, Nat.mul_zero, ← digitsValue_eq_ofDigitChars,
    digitsValue_decimalDigits]

/-! ### Characters of dates and times of day -/

/-- The characters that stand beside the digits of dates and of times of day. -/
def marks : List Char := ['-', '+', ':', '.']

/-- Whether a character is one that dates and times of day are written in. -/
def IsMark (c : Char) : Prop :=
  c.isDigit = true ∨ c ∈ marks

theorem isWhiteSpace_of_isMark {c : Char} (h : IsMark c) :
  isWhiteSpace c = false
  := by
  rcases h with hdigit | hmark
  · apply isWhiteSpace_of_isDigit hdigit
  · simp only [marks, List.mem_cons, List.not_mem_nil, or_false] at hmark
    rcases hmark with rfl | rfl | rfl | rfl <;> rfl

theorem isMark_of_mem_fieldText {width n : Nat} {c : Char} (h : c ∈ fieldText width .zeros n) :
  IsMark c
  := .inl (isDigit_of_mem_fieldText h)

theorem isMark_of_mem_cons_fieldText {mark c : Char} {width n : Nat} (hmark : mark ∈ marks)
    (h : c ∈ mark :: fieldText width .zeros n) :
  IsMark c
  := by
  rcases List.mem_cons.mp h with rfl | hdigit
  · exact .inr hmark
  · apply isMark_of_mem_fieldText hdigit

theorem isMark_of_mem_yearText {year : Int} {c : Char} (h : c ∈ yearText .zeros year) :
  IsMark c
  := by
  rw [yearText] at h
  split at h
  · apply isMark_of_mem_cons_fieldText (by decide) h
  · split at h
    · apply isMark_of_mem_cons_fieldText (by decide) h
    · apply isMark_of_mem_fieldText h

theorem isMark_of_mem_fractionText {nanosecond : Nat} {c : Char}
    (h : c ∈ fractionText nanosecond) :
  IsMark c
  := by
  have hpoint : '.' ∈ marks := by decide
  rw [fractionText] at h
  split at h
  · cases h
  · split at h
    · apply isMark_of_mem_cons_fieldText hpoint h
    · split at h <;> apply isMark_of_mem_cons_fieldText hpoint h

theorem isMark_of_mem_literal {mark c : Char} (hmark : mark ∈ marks) (h : c ∈ [mark]) :
  IsMark c
  := by
  obtain rfl := List.mem_singleton.mp h
  exact .inr hmark

theorem isMark_of_mem_dashedDate {date : Date} {clock : Clock} :
  ∀ c ∈ dashedDate.flatMap (itemText date clock), IsMark c
  := by
  intro c hc
  obtain ⟨item, hitem, hc⟩ := List.mem_flatMap.mp hc
  simp only [dashedDate, zeros, List.mem_cons, List.not_mem_nil, or_false] at hitem
  rcases hitem with rfl | rfl | rfl | rfl | rfl
  · apply isMark_of_mem_yearText hc
  · apply isMark_of_mem_literal (by decide) hc
  · apply isMark_of_mem_fieldText hc
  · apply isMark_of_mem_literal (by decide) hc
  · apply isMark_of_mem_fieldText hc

theorem isMark_of_mem_clock {date : Date} {clock : Clock} :
  ∀ c ∈ (plainClock ++ [FormatItem.fraction]).flatMap (itemText date clock), IsMark c
  := by
  intro c hc
  obtain ⟨item, hitem, hc⟩ := List.mem_flatMap.mp hc
  simp only [plainClock, zeros, List.cons_append, List.nil_append, List.mem_cons,
    List.not_mem_nil, or_false] at hitem
  rcases hitem with rfl | rfl | rfl | rfl | rfl | rfl
  · apply isMark_of_mem_fieldText hc
  · apply isMark_of_mem_literal (by decide) hc
  · apply isMark_of_mem_fieldText hc
  · apply isMark_of_mem_literal (by decide) hc
  · apply isMark_of_mem_fieldText hc
  · apply isMark_of_mem_fractionText hc

/-! ### Reading numbers -/

/-- Whether a text does not go on with a digit. -/
def StopsDigits (rest : List Char) : Prop :=
  ∀ c ∈ rest.head?, c.isDigit = false

theorem takeWhile_isDigit_append {digits rest : List Char} (h : ∀ c ∈ digits, c.isDigit = true)
    (hrest : StopsDigits rest) :
  (digits ++ rest).takeWhile Char.isDigit = digits
  := by
  rw [List.takeWhile_append_of_pos h]
  cases rest with
  | nil => rw [List.takeWhile_nil, List.append_nil]
  | cons c rest =>
      have hc : ¬ c.isDigit = true := by
        rw [hrest c rfl]
        apply Bool.false_ne_true
      rw [List.takeWhile_cons_of_neg hc, List.append_nil]

/-- Digits are read as far as they go, or as many of them as may be read. -/
theorem readDigits_append {limit : Nat} {digits rest : List Char}
    (hdigits : ∀ c ∈ digits, c.isDigit = true) (hne : digits ≠ []) (hlimit : digits.length ≤ limit)
    (hrest : digits.length = limit ∨ StopsDigits rest) :
  readDigits limit (digits ++ rest) = some (digitsValue 0 digits, rest)
  := by
  have hread : ((digits ++ rest).take limit).takeWhile Char.isDigit = digits := by
    rw [List.take_append, List.take_of_length_le hlimit]
    apply takeWhile_isDigit_append hdigits
    rcases hrest with hlength | hstops
    · rw [hlength, Nat.sub_self, List.take_zero]
      rintro c ⟨⟩
    · intro c hc
      apply hstops c
      rw [List.head?_take] at hc
      split at hc
      · cases hc
      · apply hc
  rw [readDigits, hread, List.isEmpty_eq_false_iff.mpr hne, List.drop_left]
  rfl

theorem readDigits_of_stopsDigits {text : List Char} (h : StopsDigits text) (limit : Nat) :
  readDigits limit text = none
  := by
  have hdigits : (text.take limit).takeWhile Char.isDigit = [] := by
    cases text with
    | nil => rw [List.take_nil, List.takeWhile_nil]
    | cons c text =>
        cases limit with
        | zero => rfl
        | succ limit =>
            rw [List.take_succ_cons, List.takeWhile_cons_of_neg]
            rw [h c rfl]
            apply Bool.false_ne_true
  rw [readDigits, hdigits]
  rfl

/-- A number is read as far as its digits go. -/
theorem readDigits_fieldText {limit width n : Nat} {rest : List Char}
    (hlimit : (fieldText width .zeros n).length ≤ limit)
    (hrest : (fieldText width .zeros n).length = limit ∨ StopsDigits rest) :
  readDigits limit (fieldText width .zeros n ++ rest) = some (n, rest)
  := by
  rw [readDigits_append (fun c => isDigit_of_mem_fieldText) (fieldText_ne_nil width n) hlimit hrest,
    digitsValue_fieldText]

/-- A number that fits the width is read by as many digits, however the text goes on. -/
theorem readDigits_width {width n : Nat} (hpos : 0 < width) (hn : n < tenPow width)
    (rest : List Char) :
  readDigits width (fieldText width .zeros n ++ rest) = some (n, rest)
  := by
  have hlength := length_fieldText hpos hn
  exact readDigits_fieldText (Nat.le_of_eq hlength) (.inl hlength)

theorem readAllDigits_fieldText {width n : Nat} {rest : List Char} (h : StopsDigits rest) :
  readAllDigits (fieldText width .zeros n ++ rest) = some (n, rest)
  := by
  apply readDigits_fieldText _ (.inr h)
  rw [List.length_append]
  apply Nat.le_add_right

/-- The digits past the ninth leave no place to fill up. -/
theorem length_kept (digits : List Char) :
  9 - (digits.take 9).length = 9 - digits.length
  := by
  rw [List.length_take]
  omega

/-- The fraction of a second is read as far as its digits go. -/
theorem readNanoseconds_append {digits rest : List Char} (hne : digits ≠ [])
    (hdigits : ∀ c ∈ digits, c.isDigit = true) (hrest : StopsDigits rest) :
  readNanoseconds (digits ++ rest)
    = some (digitsValue 0 (digits.take 9) * tenPow (9 - digits.length), rest)
  := by
  rw [readNanoseconds, takeWhile_isDigit_append hdigits hrest,
    List.isEmpty_eq_false_iff.mpr hne, if_neg Bool.false_ne_true]
  dsimp only
  rw [length_kept, List.drop_left]

/-- A fraction of a second is read by its digits. -/
theorem readNanoseconds_fieldText {width n : Nat} {rest : List Char} (hpos : 0 < width)
    (hwidth : width ≤ 9) (hn : n < tenPow width) (hrest : StopsDigits rest) :
  readNanoseconds (fieldText width .zeros n ++ rest) = some (n * tenPow (9 - width), rest)
  := by
  have hlength := length_fieldText hpos hn
  rw [readNanoseconds_append (fieldText_ne_nil width n) (fun c => isDigit_of_mem_fieldText) hrest,
    List.take_of_length_le (by omega), digitsValue_fieldText, hlength]

theorem trimStart_fieldText (width n : Nat) (rest : List Char) :
  trimStart (fieldText width .zeros n ++ rest) = fieldText width .zeros n ++ rest
  := trimStart_append (fieldText_ne_nil width n)
    (fun _ hc => isWhiteSpace_of_isDigit (isDigit_of_mem_fieldText hc)) rest

/-- A text without a sign is read as a number by its digits. -/
theorem readNumber_eq {number : CalendarNumber} {text : List Char} (htrim : trimStart text = text)
    (hminus : '-' ∉ text.head?) (hplus : '+' ∉ text.head?) :
  readNumber number text
    = (readDigits (number.width?.getD text.length) text).map fun (n, rest) => ((n : Int), rest)
  := by
  rw [readNumber, htrim]
  dsimp only
  split
  · split
    · cases hminus rfl
    · cases hplus rfl
    · rfl
  · rfl

/-- Digits begin with no other character. -/
theorem notMem_head?_digits {c : Char} (h : c.isDigit = false) {digits : List Char}
    (hne : digits ≠ []) (hdigits : ∀ c ∈ digits, c.isDigit = true) (rest : List Char) :
  c ∉ (digits ++ rest).head?
  := by
  cases digits with
  | nil => cases hne rfl
  | cons first others =>
      rintro ⟨⟩
      cases h.symm.trans (hdigits c List.mem_cons_self)

/-- A number without a sign is read as far as its digits go, or as many of them as it is wide. -/
theorem readNumber_digits {number : CalendarNumber} {limit : Nat} {digits rest : List Char}
    (hwidth : number.width? = some limit) (hne : digits ≠ [])
    (hdigits : ∀ c ∈ digits, c.isDigit = true) (hlimit : digits.length ≤ limit)
    (hrest : digits.length = limit ∨ StopsDigits rest) :
  readNumber number (digits ++ rest) = some ((digitsValue 0 digits : Int), rest)
  := by
  have htrim : trimStart (digits ++ rest) = digits ++ rest :=
    trimStart_append hne (fun c hc => isWhiteSpace_of_isDigit (hdigits c hc)) rest
  rw [readNumber_eq htrim (notMem_head?_digits rfl hne hdigits rest)
    (notMem_head?_digits rfl hne hdigits rest), hwidth, Option.getD_some,
    readDigits_append hdigits hne hlimit hrest]
  rfl

/-- A number that is read without a sign is read by as many digits as it is wide. -/
theorem readNumber_fieldText {number : CalendarNumber} {width n : Nat} (hpos : 0 < width)
    (hn : n < tenPow width) (hwidth : number.width? = some width) (rest : List Char) :
  readNumber number (fieldText width .zeros n ++ rest) = some ((n : Int), rest)
  := by
  have hlength := length_fieldText hpos hn
  rw [readNumber_digits hwidth (fieldText_ne_nil width n) (fun c => isDigit_of_mem_fieldText)
    (Nat.le_of_eq hlength) (.inl hlength), digitsValue_fieldText]

/-- A year in four digits, or in any number of them after its sign, is read as the year. -/
theorem readNumber_year (year : Int) {rest : List Char} (hrest : StopsDigits rest) :
  readNumber .year (yearText .zeros year ++ rest) = some (year, rest)
  := by
  rw [yearText]
  split
  · next hnegative =>
      have hread : readNumber .year ('-' :: fieldText 4 .zeros year.natAbs ++ rest)
          = (readAllDigits (fieldText 4 .zeros year.natAbs ++ rest)).map
            fun (n, rest) => (-(n : Int), rest) := rfl
      have hneg : -(year.natAbs : Int) = year := by omega
      rw [hread, readAllDigits_fieldText hrest, Option.map_some]
      dsimp only
      rw [hneg]
  · next hpositive =>
      have habs : (year.natAbs : Int) = year := by omega
      split
      · have hread : readNumber .year ('+' :: fieldText 4 .zeros year.natAbs ++ rest)
            = (readAllDigits (fieldText 4 .zeros year.natAbs ++ rest)).map
              fun (n, rest) => ((n : Int), rest) := rfl
        rw [hread, readAllDigits_fieldText hrest, Option.map_some]
        dsimp only
        rw [habs]
      · next hsmall =>
          have hfits : year.natAbs < tenPow 4 := by
            change year.natAbs < 10000
            omega
          rw [readNumber_fieldText (by decide) hfits rfl, habs]

/-! ### Reading items -/

section Items

variable {date : Date} {clock : Clock} {item : FormatItem} {items : List FormatItem}
  {shown others : List (CalendarField × Int)} {rest : List Char}

/-- Whether the text of an item, with another text after it, is read back as far as it goes, and
shows some fields. -/
def ReadsBack (date : Date) (clock : Clock) (item : FormatItem)
    (shown : List (CalendarField × Int)) (rest : List Char) : Prop :=
  readItem item (itemText date clock item ++ rest) = some (shown, rest)

/-- Whether the texts of items are read back, one after the other. -/
inductive AllReadBack (date : Date) (clock : Clock) :
    List FormatItem → List (CalendarField × Int) → List Char → Prop
  | nil (rest : List Char) : AllReadBack date clock [] [] rest
  | cons {item : FormatItem} {items : List FormatItem} {shown others : List (CalendarField × Int)}
      {rest : List Char}
      (h : ReadsBack date clock item shown (items.flatMap (itemText date clock) ++ rest))
      (hitems : AllReadBack date clock items others rest) :
    AllReadBack date clock (item :: items) (shown ++ others) rest

theorem AllReadBack.append {before : List FormatItem}
    (hitems : AllReadBack date clock items others rest)
    (hbefore : AllReadBack date clock before shown (items.flatMap (itemText date clock) ++ rest)) :
  AllReadBack date clock (before ++ items) (shown ++ others) rest
  := by
  generalize hafter : items.flatMap (itemText date clock) ++ rest = after at hbefore
  induction hbefore with
  | nil => apply hitems
  | cons h _ ih =>
      subst hafter
      rw [List.append_assoc]
      apply AllReadBack.cons _ (ih rfl)
      rw [List.flatMap_append, List.append_assoc]
      apply h

theorem setFields_append (values : FieldValues) :
  setFields values (shown ++ others)
    = (setFields values shown).bind fun values => setFields values others
  := by
  induction shown generalizing values with
  | nil => rfl
  | cons pair shown ih =>
      rw [List.cons_append, setFields, setFields]
      cases values.set? pair.1 pair.2 with
      | none => rfl
      | some next => apply ih next

/-- Items that are read back set the fields that they show. -/
theorem AllReadBack.readItems (h : AllReadBack date clock items shown rest) (values : FieldValues) :
  readItems items values (items.flatMap (itemText date clock) ++ rest)
    = (setFields values shown).map fun next => (next, rest)
  := by
  induction h generalizing values with
  | nil rest => rfl
  | @cons item items shown others rest h _ ih =>
      rw [ReadsBack] at h
      rw [List.flatMap_cons, List.append_assoc, Format.readItems, h, setFields_append]
      cases hset : setFields values shown with
      | none => simp [hset]
      | some next => simp [hset, ih]

theorem readsBack_literal (c : Char) (rest : List Char) :
  ReadsBack date clock (.literal c) [] rest
  := by
  rw [ReadsBack, itemText, List.singleton_append, readItem, if_pos rfl]

theorem readsBack_blank {c : Char} (hblank : isWhiteSpace c = true) (hrest : trimStart rest = rest) :
  ReadsBack date clock (.blank c) [] rest
  := by
  have htrim : trimStart (c :: rest) = trimStart rest := List.dropWhile_cons_of_pos hblank
  rw [ReadsBack, itemText, List.singleton_append, readItem, htrim, hrest]

/-- A number that is read back from its text, and is in its range, shows its fields. -/
theorem readsBack_of_readNumber {number : CalendarNumber} {n : Int}
    (h : readNumber number (numberText date clock .zeros number ++ rest) = some (n, rest))
    (hrange : number.range.1 ≤ n ∧ n ≤ number.range.2) :
  ReadsBack date clock (zeros number) (number.fields n) rest
  := by
  rw [ReadsBack, zeros, itemText, readItem, h]
  apply if_pos hrange

/-- The years of dates are in the range of the years that are read. -/
theorem year_range (date : Date) :
  CalendarNumber.year.range.1 ≤ date.year ∧ date.year ≤ CalendarNumber.year.range.2
  := by
  have hlow : -262143 ≤ date.year := date.minYear_le
  have hhigh : date.year ≤ 262142 := date.le_maxYear
  have hpow : (twoPow 31 : Int) = 2147483648 := rfl
  rw [CalendarNumber.range, hpow]
  dsimp only
  omega

theorem readsBack_year (h : StopsDigits rest) :
  ReadsBack date clock (zeros .year) [(.year, date.year)] rest
  := by
  apply readsBack_of_readNumber (readNumber_year date.year h) (year_range date)

/-- A number in two digits shows its fields. -/
theorem readsBack_twoDigits {number : CalendarNumber} {n : Nat}
    (htext : numberText date clock .zeros number = fieldText 2 .zeros n)
    (hwidth : number.width? = some 2) (hn : n < 100)
    (hrange : number.range.1 ≤ n ∧ (n : Int) ≤ number.range.2) :
  ReadsBack date clock (zeros number) (number.fields n) rest
  := by
  apply readsBack_of_readNumber _ hrange
  rw [htext]
  apply readNumber_fieldText (by decide) hn hwidth

theorem readsBack_month :
  ReadsBack date clock (zeros .month) [(.month, (date.month : Int))] rest
  := by
  obtain ⟨⟨hlow, hhigh⟩, _⟩ := date.month_day_bounds
  apply readsBack_twoDigits rfl rfl (by omega)
  rw [CalendarNumber.range]
  dsimp only
  omega

theorem readsBack_day :
  ReadsBack date clock (zeros .day) [(.day, (date.day : Int))] rest
  := by
  obtain ⟨_, hhigh⟩ := date.month_day_bounds
  have hlow := date.day_pos
  apply readsBack_twoDigits rfl rfl (by omega)
  rw [CalendarNumber.range]
  dsimp only
  omega

theorem readsBack_hour (h : clock.IsRegular) :
  ReadsBack date clock (zeros .hour)
    [(.half, (clock.hour : Int) / 12), (.hourOfHalf, (clock.hour : Int) % 12)] rest
  := by
  have hhour := h.hour_lt
  apply readsBack_twoDigits rfl rfl (by omega)
  rw [CalendarNumber.range]
  dsimp only
  omega

theorem readsBack_minute (h : clock.IsRegular) :
  ReadsBack date clock (zeros .minute) [(.minute, (clock.minute : Int))] rest
  := by
  have hminute := h.minute_lt
  apply readsBack_twoDigits rfl rfl (by omega)
  rw [CalendarNumber.range]
  dsimp only
  omega

theorem numberText_second (h : clock.IsRegular) :
  numberText date clock .zeros .second = fieldText 2 .zeros clock.second
  := by
  rw [numberText, Nat.div_eq_of_lt h.nanosecond_lt, Nat.add_zero]

theorem readsBack_second (h : clock.IsRegular) :
  ReadsBack date clock (zeros .second) [(.second, (clock.second : Int))] rest
  := by
  have hsecond := h.second_lt
  apply readsBack_twoDigits (numberText_second h) rfl (by omega)
  rw [CalendarNumber.range]
  dsimp only
  omega

/-- A fraction of a second is not written, if there is none, or is a point before as many digits as
suffice. -/
theorem fractionText_cases {n : Nat} (h : n < 1000000000) :
  n = 0 ∧ fractionText n = [] ∨
  0 < n ∧ ∃ width value, 0 < width ∧ width ≤ 9 ∧ value < tenPow width ∧
    value * tenPow (9 - width) = n ∧ fractionText n = '.' :: fieldText width .zeros value
  := by
  rw [fractionText, Nat.mod_eq_of_lt h]
  split
  · next hzero => exact .inl ⟨hzero, rfl⟩
  · next hpos =>
      refine .inr ⟨Nat.pos_of_ne_zero hpos, ?_⟩
      split
      · next hmillis =>
          refine ⟨3, n / 1000000, by decide, by decide, ?_, ?_, rfl⟩
          · change n / 1000000 < 1000
            omega
          · change n / 1000000 * 1000000 = n
            omega
      · split
        · next hmicros =>
            refine ⟨6, n / 1000, by decide, by decide, ?_, ?_, rfl⟩
            · change n / 1000 < 1000000
              omega
            · change n / 1000 * 1000 = n
              omega
        · exact ⟨9, n, by decide, by decide, h, Nat.mul_one n, rfl⟩

/-- The field that the fraction of a time of day shows, if it is written. -/
def fractionFields (clock : Clock) : List (CalendarField × Int) :=
  if clock.nanosecond = 0 then [] else [(.nanosecond, (clock.nanosecond : Int))]

/-- The fraction of a second is read back at the end of a text. -/
theorem readsBack_fraction (h : clock.IsRegular) :
  ReadsBack date clock .fraction (fractionFields clock) []
  := by
  rw [ReadsBack, itemText, fractionFields, List.append_nil]
  obtain ⟨hzero, htext⟩ | ⟨hpos, width, value, hwidth, hnine, hvalue, hn, htext⟩ :=
    fractionText_cases h.nanosecond_lt
  · rw [htext, if_pos hzero]
    rfl
  · have hread := @readNanoseconds_fieldText width value [] hwidth hnine hvalue (by rintro c ⟨⟩)
    rw [List.append_nil, hn] at hread
    rw [htext, if_neg (Nat.ne_of_gt hpos), readItem, hread]
    rfl

end Items

end Format

/-! ### Fields of a moment -/

namespace FieldValues

variable {date : Date} {clock : Clock} {values : FieldValues}

/-- The fields of a moment. -/
def ofMoment (date : Date) (clock : Clock) : FieldValues
  | .half => some (clock.hour / 12)
  | .hourOfHalf => some (clock.hour % 12)
  | .minute => some clock.minute
  | .second => some clock.second
  | .nanosecond => some clock.nanosecond
  | field => date.field? field

/-- Whether each field that is shown is the one of a moment. -/
def AreOf (values : FieldValues) (date : Date) (clock : Clock) : Prop :=
  ∀ field, values field = Option.none ∨ values field = ofMoment date clock field

/-- Setting a field of a moment leaves the values of the moment those of it, and keeps what was
shown before. -/
theorem AreOf.set? (h : values.AreOf date clock) {field : CalendarField} {n : Int}
    (hn : ofMoment date clock field = some n) :
  ∃ next, values.set? field n = some next ∧ next.AreOf date clock ∧ next field = some n ∧
    ∀ other m, values other = some m → next other = some m
  := by
  rw [FieldValues.set?]
  cases hvalue : values field with
  | none =>
      refine ⟨_, rfl, ?_, if_pos rfl, ?_⟩
      · intro other
        dsimp only
        split
        · next hother => exact .inr (hother ▸ hn.symm)
        · apply h
      · intro other m hother
        rw [if_neg, hother]
        rintro rfl
        cases hvalue.symm.trans hother
  | some m =>
      have hsame : m = n := by
        obtain hnone | hmoment := h field
        · cases hvalue.symm.trans hnone
        · exact Option.some.inj (hvalue.symm.trans (hmoment.trans hn))
      exact ⟨values, if_pos hsame, h, hsame ▸ hvalue, fun _ _ hother => hother⟩

/-- Fields of a moment are all set. -/
theorem AreOf.setFields {shown : List (CalendarField × Int)}
    (hshown : ∀ pair ∈ shown, ofMoment date clock pair.1 = some pair.2)
    (h : values.AreOf date clock) :
  ∃ next, Format.setFields values shown = some next ∧ next.AreOf date clock ∧
    (∀ pair ∈ shown, next pair.1 = some pair.2) ∧
    ∀ other m, values other = some m → next other = some m
  := by
  induction shown generalizing values with
  | nil => exact ⟨values, rfl, h, by simp, fun _ _ hother => hother⟩
  | cons pair shown ih =>
      rw [List.forall_mem_cons] at hshown
      obtain ⟨between, hset, hbetween, hhere, hkept⟩ := h.set? hshown.1
      obtain ⟨next, hsets, hnext, hthere, hlater⟩ := ih hshown.2 hbetween
      refine ⟨next, ?_, hnext, ?_, ?_⟩
      · rw [Format.setFields, hset, Option.bind_some, hsets]
      · rw [List.forall_mem_cons]
        exact ⟨hlater _ _ hhere, hthere⟩
      · intro other m hother
        apply hlater _ _ (hkept _ _ hother)

/-- The fields of a moment are those of its date. -/
theorem ofMoment_eq_field? {field : CalendarField} (h : field ∈ dateFields) :
  ofMoment date clock field = date.field? field
  := by
  simp only [dateFields, List.mem_cons, List.not_mem_nil, or_false] at h
  rcases h with rfl | rfl | rfl | rfl | rfl | rfl | rfl | rfl | rfl | rfl | rfl | rfl | rfl <;> rfl

theorem AreOf.suits (h : values.AreOf date clock) :
  values.suits date = true
  := by
  rw [FieldValues.suits, List.all_eq_true]
  intro field hfield
  rw [Bool.or_eq_true, decide_eq_true_iff, decide_eq_true_iff, ← ofMoment_eq_field? hfield]
  apply h

/-- A year, its century and the year in it fit together. -/
theorem resolveYear?_splitYear {year : Int} {shown century rest : Option Int}
    (hshown : shown = Option.none ∨ shown = some year)
    (hcentury : century = Option.none ∨ century = (splitYear year).1)
    (hrest : rest = Option.none ∨ rest = (splitYear year).2)
    (hyear : shown = Option.none → century = Option.none) :
  ∃ found, resolveYear? shown century rest = some found ∧ (shown = some year → found = some year)
  := by
  rw [splitYear] at hcentury hrest
  by_cases hpos : 0 ≤ year
  · rw [if_pos hpos] at hcentury hrest
    rcases hshown with rfl | rfl <;> rcases hcentury with rfl | rfl <;>
      rcases hrest with rfl | rfl <;> simp [resolveYear?, hpos] at hyear ⊢
  · rw [if_neg hpos] at hcentury hrest
    obtain rfl : century = Option.none := by simpa using hcentury
    obtain rfl : rest = Option.none := by simpa using hrest
    exact ⟨shown, by cases shown <;> rfl, id⟩

/-- Fields of a moment that show the year, the month and the day show the date. -/
theorem AreOf.date?_eq (h : values.AreOf date clock) (hyear : values .year = some date.year)
    (hmonth : values .month = some (date.month : Int)) (hday : values .day = some (date.day : Int)) :
  values.date? = some date
  := by
  obtain ⟨found, hfound, hsame⟩ := resolveYear?_splitYear (.inr hyear) (h .century)
    (h .yearOfCentury) (by rw [hyear]; rintro ⟨⟩)
  obtain rfl := hsame hyear
  obtain ⟨isoFound, hisoFound, _⟩ := resolveYear?_splitYear (h .isoYear) (.inl rfl)
    (h .isoYearOfCentury) fun _ => rfl
  have hdate : Date.of? date.year date.month date.day = some date :=
    Date.of?_eq_some_iff.mpr ⟨rfl, rfl, rfl⟩
  have hinYear : values.dateInYear? date.year = some (some date) := by
    rw [dateInYear?, hmonth, hday]
    dsimp only
    rw [Int.toNat_natCast, Int.toNat_natCast, hdate]
  rw [date?, hfound, hisoFound]
  simp [hinYear, h.suits]

/-- Fields of a moment that show the hour, the minute and the second, and the fraction unless there
is none, show the time of day. -/
theorem AreOf.clock?_eq (h : values.AreOf date clock) (hregular : clock.IsRegular)
    (hhalf : values .half = some ((clock.hour : Int) / 12))
    (hhour : values .hourOfHalf = some ((clock.hour : Int) % 12))
    (hminute : values .minute = some (clock.minute : Int))
    (hsecond : values .second = some (clock.second : Int))
    (hnanosecond : clock.nanosecond ≠ 0 →
      values .nanosecond = some (clock.nanosecond : Int)) :
  values.clock? = some clock
  := by
  have hnano : ((values .nanosecond).getD 0).toNat = clock.nanosecond := by
    obtain hnone | hsome := h .nanosecond
    · rw [hnone]
      by_cases hzero : clock.nanosecond = 0
      · rw [hzero]
        rfl
      · cases hnone.symm.trans (hnanosecond hzero)
    · rw [hsome]
      rfl
  have hhours : ((clock.hour : Int) / 12 * 12 + (clock.hour : Int) % 12).toNat = clock.hour := by
    omega
  obtain ⟨hhourLt, hminuteLt, hsecondLt, _⟩ := hregular
  rw [clock?, hhalf, hhour, hminute, hsecond]
  dsimp only
  rw [hnano, hhours, Int.toNat_natCast, Option.getD_some, Int.toNat_natCast, Clock.of?,
    if_neg (by omega), if_neg (by omega)]

end FieldValues

/-! ### Dates and times of day -/

namespace Format

variable {date : Date} {clock : Clock}

/-- Items that are read back in a whole text, and show fields of a moment, are read as values of
it. -/
theorem AllReadBack.read? {items : List FormatItem} {shown : List (CalendarField × Int)}
    (h : AllReadBack date clock items shown [])
    (hshown : ∀ pair ∈ shown, FieldValues.ofMoment date clock pair.1 = some pair.2) :
  ∃ values, Format.read? items (items.flatMap (itemText date clock)) = some values ∧
    values.AreOf date clock ∧ ∀ pair ∈ shown, values pair.1 = some pair.2
  := by
  have hnone : FieldValues.none.AreOf date clock := fun _ => .inl rfl
  obtain ⟨values, hset, hvalues, hthere, _⟩ := hnone.setFields hshown
  have hread := h.readItems FieldValues.none
  rw [List.append_nil, hset, Option.map_some] at hread
  exact ⟨values, by rw [Format.read?, hread], hvalues, hthere⟩

/-- The fields of a date in the year, the month and the day of the month. -/
def dayFields (date : Date) : List (CalendarField × Int) :=
  [(.year, date.year), (.month, (date.month : Int)), (.day, (date.day : Int))]

/-- The fields of a time of day in the hour, the minute and the second. -/
def clockFields (clock : Clock) : List (CalendarField × Int) :=
  [(.half, (clock.hour : Int) / 12), (.hourOfHalf, (clock.hour : Int) % 12),
   (.minute, (clock.minute : Int)), (.second, (clock.second : Int))]

theorem stopsDigits_cons {c : Char} (h : c.isDigit = false) (rest : List Char) :
  StopsDigits (c :: rest)
  := by
  rintro d ⟨⟩
  apply h

/-- A date in the year, the month and the day of the month is read back. -/
theorem allReadBack_dashedDate (rest : List Char) :
  AllReadBack date clock dashedDate (dayFields date) rest
  := .cons (readsBack_year (stopsDigits_cons rfl _))
    (.cons (readsBack_literal '-' _)
      (.cons readsBack_month
        (.cons (readsBack_literal '-' _)
          (.cons readsBack_day (.nil rest)))))

/-- A time of day in the hour, the minute and the second is read back. -/
theorem allReadBack_plainClock (h : clock.IsRegular) (rest : List Char) :
  AllReadBack date clock plainClock (clockFields clock) rest
  := .cons (readsBack_hour h)
    (.cons (readsBack_literal ':' _)
      (.cons (readsBack_minute h)
        (.cons (readsBack_literal ':' _)
          (.cons (readsBack_second h) (.nil rest)))))

end Format

end RowFilter
