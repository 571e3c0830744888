import RowFilter.Operand.Converter
import RowFilter.Proofs.Calendar.Readback

/-!
# Reading literals back

The text of a literal, read as a value of a type that the literal is a value of
(`Literal.IsValueOf`), is the literal again (`Converter.standard_toText`).  A date is read back in the
first of the accepted formats, and an instant in the first format of a date with a time of day: it
has no offset from universal time, so it is no internet timestamp (`Instant.readInternet?_text`).
-/

namespace RowFilter

/-! ### Dates and moments -/

namespace Format

variable {date : Date} {clock : Clock}

/-- A time of day with its fraction is read back at the end of a text. -/
theorem allReadBack_clockFormat (h : clock.IsRegular) :
  AllReadBack date clock clockFormat (clockFields clock ++ fractionFields clock) []
  := by
  rw [← List.append_nil (fractionFields clock)]
  exact .append (.cons (readsBack_fraction h) (.nil [])) (allReadBack_plainClock h _)

/-- The items of a date and a time of day, with a blank between them. -/
def momentFormat : List FormatItem :=
  dateFormat ++ .blank ' ' :: clockFormat

theorem toList_write_momentFormat :
  (write momentFormat date clock).toList
    = dashedDate.flatMap (itemText date clock) ++ ([' '] ++
      clockFormat.flatMap (itemText date clock))
  := by
  rw [write, String.toList_ofList, momentFormat, List.flatMap_append, List.flatMap_cons]
  rfl

/-- A date and a time of day, with a blank between them, are read back. -/
theorem allReadBack_momentFormat (h : clock.IsRegular) :
  AllReadBack date clock momentFormat
    (dayFields date ++ (clockFields clock ++ fractionFields clock)) []
  := by
  have htrim : trimStart (clockFormat.flatMap (itemText date clock))
      = clockFormat.flatMap (itemText date clock) := trimStart_fieldText 2 clock.hour _
  have hblank : ReadsBack date clock (.blank ' ') []
      (clockFormat.flatMap (itemText date clock) ++ []) := by
    rw [List.append_nil]
    apply readsBack_blank rfl htrim
  have hclock : AllReadBack date clock (.blank ' ' :: clockFormat)
      ([] ++ (clockFields clock ++ fractionFields clock)) [] :=
    .cons hblank (allReadBack_clockFormat h)
  exact .append hclock (allReadBack_dashedDate _)

/-- The fields that a date and a time of day show are those of the moment. -/
theorem ofMoment_of_mem {pair : CalendarField × Int}
    (h : pair ∈ dayFields date ++ (clockFields clock ++ fractionFields clock)) :
  FieldValues.ofMoment date clock pair.1 = some pair.2
  := by
  rw [List.mem_append, List.mem_append] at h
  rcases h with hday | hclock | hfraction
  · simp only [dayFields, List.mem_cons, List.not_mem_nil, or_false] at hday
    rcases hday with rfl | rfl | rfl <;> rfl
  · simp only [clockFields, List.mem_cons, List.not_mem_nil, or_false] at hclock
    rcases hclock with rfl | rfl | rfl | rfl <;> rfl
  · rw [fractionFields] at hfraction
    split at hfraction
    · cases hfraction
    · obtain rfl := List.mem_singleton.mp hfraction
      rfl

/-- A date is read back from its text. -/
theorem readDate?_text (date : Date) :
  Format.readDate? dashedDate date.text.toList = some date
  := by
  have hitems : AllReadBack date Clock.midnight dashedDate (dayFields date) [] :=
    allReadBack_dashedDate []
  obtain ⟨values, hread, hvalues, hshown⟩ := hitems.read? fun pair hpair =>
    ofMoment_of_mem (List.mem_append_left _ hpair)
  simp only [dayFields, List.forall_mem_cons] at hshown
  obtain ⟨hyear, hmonth, hday, _⟩ := hshown
  rw [Date.text, write, String.toList_ofList, Format.readDate?, dateFormat, hread,
    Option.bind_some, hvalues.date?_eq hyear hmonth hday]

/-- A moment is read back from its text. -/
theorem read?_momentFormat (h : clock.IsRegular) :
  ∃ values, Format.read? momentFormat (write momentFormat date clock).toList = some values ∧
    values.date? = some date ∧ values.clock? = some clock
  := by
  obtain ⟨values, hread, hvalues, hshown⟩ :=
    (allReadBack_momentFormat h).read? fun _ => ofMoment_of_mem
  rw [write, String.toList_ofList]
  rw [List.forall_mem_append, List.forall_mem_append] at hshown
  obtain ⟨hdate, hclock, hfraction⟩ := hshown
  simp only [dayFields, clockFields, List.forall_mem_cons] at hdate hclock
  obtain ⟨hyear, hmonth, hday, _⟩ := hdate
  obtain ⟨hhalf, hhour, hminute, hsecond, _⟩ := hclock
  refine ⟨values, hread, hvalues.date?_eq hyear hmonth hday,
    hvalues.clock?_eq h hhalf hhour hminute hsecond ?_⟩
  intro hnanosecond
  apply hfraction (.nanosecond, (clock.nanosecond : Int))
  rw [fractionFields, if_neg hnanosecond]
  apply List.mem_singleton_self

end Format

namespace Instant

open Format

/-- A moment is read back from its text. -/
theorem readMoment?_write {date : Date} {clock : Clock} (h : clock.IsRegular) :
  readMoment? "%Y-%m-%d %H:%M:%S%.f" (write momentFormat date clock).toList
    = some (instantOf date clock)
  := by
  have hitems : Format.ofText? "%Y-%m-%d %H:%M:%S%.f" = some momentFormat := by decide
  obtain ⟨values, hread, hdate, hclock⟩ := @read?_momentFormat date clock h
  rw [readMoment?, hitems]
  simp [hread, hdate, hclock]

/-! ### Internet timestamps -/

variable {date : Date} {clock : Clock}

theorem readExactly_fieldText {width n : Nat} (hpos : 0 < width) (hn : n < tenPow width)
    (rest : List Char) :
  readExactly width (fieldText width .zeros n ++ rest) = some (n, rest)
  := by
  rw [readExactly, readDigits_width hpos hn, Option.filter_some, if_pos]
  rw [List.length_append, length_fieldText hpos hn, Nat.add_comm]
  apply decide_eq_true rfl

theorem readExactly_of_stopsDigits {text : List Char} (h : StopsDigits text) (count : Nat) :
  readExactly count text = none
  := by
  rw [readExactly, readDigits_of_stopsDigits h]
  rfl

theorem readOne_cons {accepted : List Char} {c : Char} (h : accepted.contains c = true)
    (rest : List Char) :
  readOne accepted (c :: rest) = some rest
  := if_pos h

/-- A date is read from its text if the year has four digits, and otherwise none is. -/
theorem readDate_text (date : Date) (rest : List Char) :
  readDate (dashedDate.flatMap (itemText date clock) ++ rest)
    = if 0 ≤ date.year ∧ date.year ≤ 9999 then some (date, rest) else none
  := by
  have htext : dashedDate.flatMap (itemText date clock) ++ rest
      = yearText .zeros date.year ++ '-' :: (fieldText 2 .zeros date.month ++ '-' ::
        (fieldText 2 .zeros date.day ++ rest)) := by
    simp [dashedDate, zeros, itemText, numberText]
  rw [htext, readDate, yearText]
  split
  · next hnegative =>
      rw [List.cons_append, readExactly_of_stopsDigits (stopsDigits_cons rfl _), if_neg (by omega)]
      rfl
  · next hpositive =>
      split
      · rw [List.cons_append, readExactly_of_stopsDigits (stopsDigits_cons rfl _),
          if_neg (by omega)]
        rfl
      · next hsmall =>
          obtain ⟨⟨_, hmonth⟩, hday⟩ := date.month_day_bounds
          have hyearFits : date.year.natAbs < tenPow 4 := by
            change date.year.natAbs < 10000
            omega
          have hmonthFits : date.month < tenPow 2 := Nat.lt_of_le_of_lt hmonth (by decide)
          have hdayFits : date.day < tenPow 2 := Nat.lt_of_le_of_lt hday (by decide)
          have habs : (date.year.natAbs : Int) = date.year := by omega
          have hdate : Date.of? date.year date.month date.day = some date :=
            Date.of?_eq_some_iff.mpr ⟨rfl, rfl, rfl⟩
          rw [readExactly_fieldText (by decide) hyearFits, if_pos (by omega)]
          simp [readOne_cons, readExactly_fieldText, hmonthFits, hdayFits, habs, hdate]

theorem readFraction_fractionText {n : Nat} (h : n < 1000000000) :
  readFraction (fractionText n) = some (n, [])
  := by
  obtain ⟨hzero, htext⟩ | ⟨_, width, value, hwidth, hnine, hvalue, hn, htext⟩ :=
    fractionText_cases h
  · rw [htext, hzero]
    rfl
  · have hread := @readNanoseconds_fieldText width value [] hwidth hnine hvalue (by rintro c ⟨⟩)
    rw [List.append_nil, hn] at hread
    rw [htext, readFraction, hread]

/-- A time of day is read from its text. -/
theorem readClock_text (h : clock.IsRegular) :
  readClock (clockFormat.flatMap (itemText date clock)) = some (clock, [])
  := by
  have htext : clockFormat.flatMap (itemText date clock)
      = fieldText 2 .zeros clock.hour ++ ':' :: (fieldText 2 .zeros clock.minute ++ ':' ::
        (fieldText 2 .zeros clock.second ++ fractionText clock.nanosecond)) := by
    have hsecond : numberText date clock .zeros .second = _ := numberText_second h
    simp [clockFormat, plainClock, zeros, itemText, hsecond]
    simp [numberText]
  have hhour : clock.hour < tenPow 2 := Nat.lt_trans h.hour_lt (by decide)
  have hminute : clock.minute < tenPow 2 := Nat.lt_trans h.minute_lt (by decide)
  have hsecond : clock.second < tenPow 2 := Nat.lt_trans h.second_lt (by decide)
  have hclock : Clock.of? clock.hour clock.minute clock.second clock.nanosecond = some clock := by
    obtain ⟨hhour, hminute, hsecond, _⟩ := h
    rw [Clock.of?, if_neg (by omega), if_neg (by omega)]
  rw [htext, readClock]
  simp [readOne_cons, readExactly_fieldText, hhour, hminute, hsecond,
    readFraction_fractionText h.nanosecond_lt, hclock]

/-- The text of a moment is no internet timestamp: it has no offset from universal time. -/
theorem readInternet?_text (h : clock.IsRegular) :
  readInternet? (write momentFormat date clock).toList = none
  := by
  rw [toList_write_momentFormat, readInternet?, readDate_text]
  split
  · simp [readOne_cons, separators, readClock_text h, readOffset]
  · rfl

end Instant

namespace DateFormats

/-- A date is read back in the first of the formats that are accepted by default. -/
theorem readDate?_text (date : Date) :
  DateFormats.default.readDate? date.text.toList = some date
  := by
  have hitems : Format.ofText? "%Y-%m-%d" = some Format.dashedDate := by decide
  have hdate : readDateIn? "%Y-%m-%d" date.text.toList = some date := by
    rw [readDateIn?, hitems, Option.bind_some, Format.readDate?_text]
  rw [readDate?, DateFormats.default, List.findSome?_cons, hdate]
  rfl

/-- A moment is read back as its instant, if this fits sixty-four bits. -/
theorem readInstant?_write (formats : DateFormats) {date : Date} {clock : Clock}
    (h : clock.IsRegular) :
  formats.readInstant? (Format.write Format.momentFormat date clock).toList
    = fitInstant? (instantOf date clock)
  := by
  rw [readInstant?, Instant.readInternet?_text h]
  dsimp only
  rw [Instant.momentFormats, List.findSome?_cons, Instant.readMoment?_write h]

end DateFormats

/-! ### Blanks -/

theorem Date.trim_text (date : Date) :
  trim date.text.toList = date.text.toList
  := by
  rw [Date.text, Format.write, String.toList_ofList]
  apply trim_eq_self
  intro c hc
  apply Format.isWhiteSpace_of_isMark (Format.isMark_of_mem_dashedDate c hc)

theorem Format.trim_write_momentFormat (date : Date) (clock : Clock) :
  trim (write momentFormat date clock).toList = (write momentFormat date clock).toList
  := by
  rw [toList_write_momentFormat]
  apply trim_append
  · intro hnil
    simp [dashedDate, itemText] at hnil
  · intro c hc
    apply isWhiteSpace_of_isMark (isMark_of_mem_dashedDate c hc)
  · apply List.append_ne_nil_of_left_ne_nil
    apply fieldText_ne_nil
  · intro c hc
    apply isWhiteSpace_of_isMark (isMark_of_mem_clock c hc)

/-! ### Literals -/

namespace Literal

/-- Whether a literal is a value of a type: integers fit sixty-four bits, as do the nanoseconds of
an instant, and the calendar reaches the day of a date. -/
inductive IsValueOf : Literal → DataType → Prop
  | bool (b : Bool) : IsValueOf (.bool b) .boolean
  | int (size : IntSize) {n : Int} (h : fitsSigned 64 n = true) : IsValueOf (.int n) (.int size)
  | uint (size : IntSize) {n : Nat} (h : fitsUnsigned 64 n = true) :
    IsValueOf (.uint n) (.uint size)
  | text (layout : TextLayout) (s : String) : IsValueOf (.text s) (.text layout)
  | date32 {days : Int} {date : Date} (h : Date.ofDays? days = some date) :
    IsValueOf (.date days) .date32
  | date64 {days : Int} {date : Date} (h : Date.ofDays? days = some date) :
    IsValueOf (.date days) .date64
  | instant (unit : TimeUnit) (zone : Option String) {nanos : Int}
      (h : fitsSigned 64 nanos = true) :
    IsValueOf (.instant nanos) (.timestamp unit zone)
  | dictionary (key : DataType) {literal : Literal} {value : DataType}
      (h : IsValueOf literal value) :
    IsValueOf literal (.dictionary key value)

end Literal

namespace Converter

/-- The text of a day is read back as the day, in the types of days. -/
theorem readDate?_toText {days : Int} {date : Date} (h : Date.ofDays? days = some date) :
  ((DateFormats.default.readDate? (trim (Literal.date days).toText.toList)).map fun date =>
    Literal.date date.toDays) = some (.date days)
  := by
  rw [Literal.toText, h, Date.trim_text, DateFormats.readDate?_text, Option.map_some,
    Date.toDays_of_ofDays? h]

/-- The text of an instant is read back as the instant. -/
theorem readInstant?_toText (formats : DateFormats) {nanos : Int} (h : fitsSigned 64 nanos = true) :
  formats.readInstant? (trim (Literal.instant nanos).toText.toList) = some nanos
  := by
  obtain ⟨⟨date, clock⟩, hmoment⟩ := exists_momentOf? h
  obtain ⟨hinstant, hregular⟩ := instantOf_of_momentOf? hmoment
  have htext : (Literal.instant nanos).toText = Format.write Format.momentFormat date clock := by
    rw [Literal.toText, hmoment]
    rfl
  rw [htext, Format.trim_write_momentFormat, formats.readInstant?_write hregular, hinstant,
    fitInstant?, if_pos h]

/-- The text of a literal is converted back to the literal, in every type of which it is a value. -/
theorem standard_toText {literal : Literal} {type : DataType} (h : literal.IsValueOf type) :
  standard DateFormats.default literal.toText type = .ok literal
  := by
  induction h with
  | bool b => cases b <;> rfl
  | int size h => rw [standard, Literal.toText, readSigned?_signedText, if_pos h]; rfl
  | @uint size n h =>
      have hread : readUnsigned? (trim (decimalText n).toList) = some n := by
        have hsigned : decimalText n = signedText n := rfl
        rw [hsigned, readUnsigned?_signedText, if_pos h, Int.toNat_natCast]
      rw [standard, Literal.toText, hread]
      rfl
  | text layout s => rfl
  | date32 h => rw [standard, readDate?_toText h]; rfl
  | date64 h => rw [standard, readDate?_toText h]; rfl
  | instant unit zone h => rw [standard, readInstant?_toText _ h]; rfl
  | dictionary key h ih => rw [standard, ih]

/-- The first instant of sixty-four bits is converted back from its text in dictionaries of zoned
timestamps, and so are days of years before the year zero and after the year 9999. -/
theorem standard_toText_far :
  let first : Literal := .instant (-9223372036854775808)
  let stamps := DataType.dictionary (.int .w8)
    (.dictionary (.int .w32) (.timestamp .second (some "+01:00")))
  first.IsValueOf stamps ∧ first.toText = "1677-09-21 00:12:43.145224192" ∧
  standard DateFormats.default first.toText stamps = .ok first ∧
  Literal.IsValueOf (.date (-800000)) .date32 ∧
  (Literal.date (-800000)).toText = "-0221-09-04" ∧
  standard DateFormats.default (Literal.date (-800000)).toText .date32 = .ok (.date (-800000)) ∧
  Literal.IsValueOf (.date 4000000) .date64 ∧ (Literal.date 4000000).toText = "+12921-08-18" ∧
  standard DateFormats.default (Literal.date 4000000).toText .date64 = .ok (.date 4000000)
  := by
  intro first stamps
  have hfirst : first.IsValueOf stamps :=
    .dictionary _ (.dictionary _ (.instant .second (some "+01:00") (by decide)))
  obtain ⟨ancient, hancient⟩ := Date.exists_ofDays? (show -70000000 ≤ (-800000 : Int) by decide)
    (by decide)
  obtain ⟨future, hfuture⟩ := Date.exists_ofDays? (show -70000000 ≤ (4000000 : Int) by decide)
    (by decide)
  exact ⟨hfirst, by decide, standard_toText hfirst, .date32 hancient, by decide,
    standard_toText (.date32 hancient), .date64 hfuture, by decide,
    standard_toText (.date64 hfuture)⟩

end Converter

end RowFilter
