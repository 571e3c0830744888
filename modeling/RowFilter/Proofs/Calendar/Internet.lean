import RowFilter.Calendar.Instant
import RowFilter.Proofs.Calendar.Items

/-!
# Internet timestamps

An internet timestamp is a date and a time of day in digits of fixed numbers, a mark between them,
and an offset from universal time (`Instant.ShowsInternet`).  These are the texts that are read as
such, each as the instant that it shows (`Instant.readInternet?_eq_some_iff`).
-/

namespace RowFilter

namespace Instant

open Format

variable {text shown rest : List Char} {date : Date} {clock : Clock}

/-! ### Numerals -/

/-- Whether a text is a number in so many digits. -/
structure IsNumeral (count : Nat) (text : List Char) (n : Nat) : Prop where
  length_eq : text.length = count
  isDigit : ∀ c ∈ text, c.isDigit = true
  value_eq : digitsValue 0 text = n

theorem IsNumeral.readExactly {count n : Nat} (h : IsNumeral count shown n) (hpos : 0 < count)
    (rest : List Char) :
  readExactly count (shown ++ rest) = some (n, rest)
  := by
  obtain ⟨hlength, hdigits, rfl⟩ := h
  have hne : shown ≠ [] := by
    rintro rfl
    apply Nat.ne_of_lt hpos hlength
  rw [Instant.readExactly, readDigits_append hdigits hne (Nat.le_of_eq hlength) (.inl hlength),
    Option.filter_some, if_pos]
  rw [List.length_append, hlength, Nat.add_comm]
  apply decide_eq_true rfl

theorem readExactly_eq_some {count n : Nat} (h : readExactly count text = some (n, rest)) :
  ∃ shown, text = shown ++ rest ∧ IsNumeral count shown n
  := by
  obtain ⟨hread, hlength⟩ := Option.filter_eq_some_iff.mp h
  obtain ⟨digits, rfl, hdigits, hvalue⟩ := readDigits_eq_some hread
  have hcount := of_decide_eq_true hlength
  rw [List.length_append] at hcount
  exact ⟨digits, rfl, by omega, hdigits, hvalue⟩

theorem readOne_eq_some_iff {accepted : List Char} :
  readOne accepted text = some rest ↔ ∃ c ∈ accepted, text = c :: rest
  := by
  cases text with
  | nil => simp [readOne]
  | cons c text =>
      rw [readOne]
      constructor
      · intro h
        split at h
        · next hc =>
            obtain rfl := Option.some.inj h
            exact ⟨c, List.contains_iff_mem.mp hc, rfl⟩
        · cases h
      · rintro ⟨_, hc, ⟨⟩⟩
        apply if_pos (List.contains_iff_mem.mpr hc)

theorem readOne_singleton (c : Char) (rest : List Char) :
  readOne [c] (c :: rest) = some rest
  := readOne_eq_some_iff.mpr ⟨c, List.mem_singleton_self c, rfl⟩

/-! ### Dates -/

/-- Whether a text shows a date: the year in four digits and the month and the day in two, with
dashes between them. -/
inductive ShowsDate (date : Date) : List Char → Prop
  | dashed {year month day : List Char} {n : Nat} (hyear : IsNumeral 4 year n)
      (hdate : date.year = n) (hmonth : IsNumeral 2 month date.month)
      (hday : IsNumeral 2 day date.day) :
    ShowsDate date (year ++ '-' :: (month ++ '-' :: day))

theorem ShowsDate.readDate (h : ShowsDate date shown) (rest : List Char) :
  readDate (shown ++ rest) = some (date, rest)
  := by
  obtain ⟨hyear, hdate, hmonth, hday⟩ := h
  have hof : Date.of? date.year date.month date.day = some date :=
    Date.of?_eq_some_iff.mpr ⟨rfl, rfl, rfl⟩
  rw [hdate] at hof
  simp [Instant.readDate, hyear.readExactly, hmonth.readExactly, hday.readExactly,
    readOne_singleton, hof]

theorem readDate_eq_some (h : readDate text = some (date, rest)) :
  ∃ shown, text = shown ++ rest ∧ ShowsDate date shown
  := by
  simp only [readDate, bind, Option.bind_eq_some_iff, Prod.exists, readOne_eq_some_iff,
    List.mem_singleton, exists_eq_left, Date.of?_eq_some_iff, pure] at h
  obtain ⟨_, _, hreadYear, _, rfl, _, _, hreadMonth, _, rfl, _, _, hreadDay, _, ⟨hdate, rfl, rfl⟩,
    ⟨⟩⟩ := h
  obtain ⟨_, rfl, hyear⟩ := readExactly_eq_some hreadYear
  obtain ⟨_, rfl, hmonth⟩ := readExactly_eq_some hreadMonth
  obtain ⟨_, rfl, hday⟩ := readExactly_eq_some hreadDay
  exact ⟨_, by simp, .dashed hyear hdate hmonth hday⟩

/-! ### Times of day -/

/-- Whether a text shows the fraction of a second in nanoseconds: nothing for none, or else a point
and digits, of which those past the ninth do not count. -/
inductive ShowsFraction : List Char → Nat → Prop
  | absent : ShowsFraction [] 0
  | point {digits : List Char} (hne : digits ≠ []) (hdigits : ∀ c ∈ digits, c.isDigit = true) :
    ShowsFraction ('.' :: digits) (digitsValue 0 (digits.take 9) * tenPow (9 - digits.length))

/-- Whether a text shows a time of day: the hour, the minute and the second in two digits, with
colons between them, and the fraction of the second. -/
inductive ShowsClock (clock : Clock) : List Char → Prop
  | colons {hour minute second fraction : List Char} {h m s n : Nat} (hhour : IsNumeral 2 hour h)
      (hminute : IsNumeral 2 minute m) (hsecond : IsNumeral 2 second s)
      (hfraction : ShowsFraction fraction n) (hclock : Clock.of? h m s n = some clock) :
    ShowsClock clock (hour ++ ':' :: (minute ++ ':' :: (second ++ fraction)))

/-- Whether a text goes on neither with a digit nor with a point. -/
def StopsFraction (rest : List Char) : Prop :=
  StopsDigits rest ∧ '.' ∉ rest.head?

theorem ShowsFraction.readFraction {n : Nat} (h : ShowsFraction shown n)
    (hrest : StopsFraction rest) :
  readFraction (shown ++ rest) = some (n, rest)
  := by
  obtain ⟨hdigits, hpoint⟩ := hrest
  cases h with
  | absent =>
      rw [List.nil_append, Instant.readFraction.eq_def]
      split
      · cases hpoint rfl
      · rfl
  | point hne hdigit => apply readNanoseconds_append hne hdigit hdigits

theorem readFraction_eq_some {n : Nat} (h : readFraction text = some (n, rest)) :
  ∃ shown, text = shown ++ rest ∧ ShowsFraction shown n
  := by
  rw [readFraction.eq_def] at h
  split at h
  · obtain ⟨digits, rfl, hne, hdigits, rfl⟩ := readNanoseconds_eq_some h
    exact ⟨_, rfl, .point hne hdigits⟩
  · obtain ⟨rfl, rfl⟩ := Prod.mk.inj (Option.some.inj h)
    exact ⟨[], rfl, .absent⟩

theorem ShowsClock.readClock (h : ShowsClock clock shown) (hrest : StopsFraction rest) :
  readClock (shown ++ rest) = some (clock, rest)
  := by
  obtain ⟨hhour, hminute, hsecond, hfraction, hclock⟩ := h
  simp [Instant.readClock, hhour.readExactly, hminute.readExactly, hsecond.readExactly,
    readOne_singleton, hfraction.readFraction hrest, hclock]

theorem readClock_eq_some (h : readClock text = some (clock, rest)) :
  ∃ shown, text = shown ++ rest ∧ ShowsClock clock shown
  := by
  simp only [readClock, bind, Option.bind_eq_some_iff, Prod.exists, readOne_eq_some_iff,
    List.mem_singleton, exists_eq_left, pure] at h
  obtain ⟨_, _, hreadHour, _, rfl, _, _, hreadMinute, _, rfl, _, _, hreadSecond, _, _,
    hreadFraction, _, hclock, ⟨⟩⟩ := h
  obtain ⟨_, rfl, hhour⟩ := readExactly_eq_some hreadHour
  obtain ⟨_, rfl, hminute⟩ := readExactly_eq_some hreadMinute
  obtain ⟨_, rfl, hsecond⟩ := readExactly_eq_some hreadSecond
  obtain ⟨_, rfl, hfraction⟩ := readFraction_eq_some hreadFraction
  exact ⟨_, by simp, .colons hhour hminute hsecond hfraction hclock⟩

/-! ### Offsets -/

/-- The seconds of hours and minutes. -/
def secondsOf (hours minutes : Nat) : Int :=
  hours * 3600 + minutes * 60

/-- Whether a text shows an offset from universal time in seconds: `Z` for none, or a sign, hours
and minutes in two digits with a colon between them. -/
inductive ShowsOffset : List Char → Int → Prop
  | universal {letter : Char} (hletter : letter = 'Z' ∨ letter = 'z') : ShowsOffset [letter] 0
  | signed {sign : Char} {hours minutes : List Char} {h m : Nat}
      (hsign : sign = '+' ∨ sign = '-' ∨ sign = '−') (hhours : IsNumeral 2 hours h)
      (hminutes : IsNumeral 2 minutes m) (hh : h ≤ 23) (hm : m ≤ 59) :
    ShowsOffset (sign :: (hours ++ ':' :: minutes))
      (if sign = '+' then secondsOf h m else -secondsOf h m)

theorem ShowsOffset.readOffset {offset : Int} (h : ShowsOffset shown offset) (rest : List Char) :
  readOffset (shown ++ rest) = some (offset, rest)
  := by
  cases h with
  | universal hletter =>
      rcases hletter with rfl | rfl <;> rfl
  | @signed sign hours minutes h m hsign hhours hminutes hh hm =>
      have hlimits : ¬ (23 < h ∨ 59 < m) := by omega
      rcases hsign with rfl | rfl | rfl <;>
        simp [Instant.readOffset, hhours.readExactly, hminutes.readExactly, readOne_singleton,
          hlimits, secondsOf]

theorem stopsFraction_cons {c : Char} (hdigit : c.isDigit = false) (hpoint : c ≠ '.')
    (rest : List Char) :
  StopsFraction (c :: rest)
  := ⟨stopsDigits_cons hdigit rest, fun h => hpoint (Option.some.inj h)⟩

/-- An offset begins with a letter or with a sign. -/
theorem ShowsOffset.stopsFraction {offset : Int} (h : ShowsOffset shown offset)
    (rest : List Char) :
  StopsFraction (shown ++ rest)
  := by
  cases h with
  | universal hletter =>
      rcases hletter with rfl | rfl <;> apply stopsFraction_cons rfl (by decide)
  | signed hsign =>
      rcases hsign with rfl | rfl | rfl <;> apply stopsFraction_cons rfl (by decide)

theorem readOffset_eq_some {offset : Int} (h : readOffset text = some (offset, rest)) :
  ∃ shown, text = shown ++ rest ∧ ShowsOffset shown offset
  := by
  rw [readOffset.eq_def] at h
  split at h
  · cases h
  · next sign after =>
      split at h
      · next hletter =>
          obtain ⟨rfl, rfl⟩ := Prod.mk.inj (Option.some.inj h)
          rw [Bool.or_eq_true, decide_eq_true_iff, decide_eq_true_iff] at hletter
          exact ⟨[sign], rfl, .universal hletter⟩
      · split at h
        · next hsign =>
            simp only [Bool.or_eq_true, decide_eq_true_iff, or_assoc] at hsign
            simp only [bind, Option.bind_eq_some_iff, Prod.exists, readOne_eq_some_iff,
              List.mem_singleton, exists_eq_left] at h
            obtain ⟨_, _, hreadHours, _, rfl, _, _, hreadMinutes, h⟩ := h
            obtain ⟨_, rfl, hhours⟩ := readExactly_eq_some hreadHours
            obtain ⟨_, rfl, hminutes⟩ := readExactly_eq_some hreadMinutes
            split at h
            · cases h
            · next hlimits =>
                obtain ⟨rfl, rfl⟩ := Prod.mk.inj (Option.some.inj h)
                exact ⟨_, by simp, .signed hsign hhours hminutes (by omega) (by omega)⟩
        · cases h

/-! ### Whole texts -/

/-- Whether a text is an internet timestamp that shows a date, a time of day and an offset from
universal time. -/
inductive ShowsInternet (date : Date) (clock : Clock) (offset : Int) : List Char → Prop
  | joined {day time zone : List Char} {mark : Char} (hday : ShowsDate date day)
      (hmark : mark ∈ separators) (htime : ShowsClock clock time)
      (hzone : ShowsOffset zone offset) :
    ShowsInternet date clock offset (day ++ mark :: (time ++ zone))

/-- The texts that are read as internet timestamps are those that show a moment, each as the instant
of the moment, less its offset. -/
theorem readInternet?_eq_some_iff {nanos : Int} :
  readInternet? text = some nanos ↔
    ∃ date clock offset, ShowsInternet date clock offset text ∧
      nanos = instantOf date clock - offset * secondNanos
  := by
  constructor
  · intro h
    simp only [readInternet?, bind, Option.bind_eq_some_iff, Prod.exists, readOne_eq_some_iff] at h
    obtain ⟨date, _, hreadDate, _, ⟨mark, hmark, rfl⟩, clock, _, hreadClock, offset, rest,
      hreadOffset, h⟩ := h
    obtain ⟨_, rfl, hday⟩ := readDate_eq_some hreadDate
    obtain ⟨_, rfl, htime⟩ := readClock_eq_some hreadClock
    obtain ⟨_, rfl, hzone⟩ := readOffset_eq_some hreadOffset
    split at h
    · next hend =>
        obtain rfl := List.isEmpty_iff.mp hend
        obtain rfl := Option.some.inj h
        rw [List.append_nil]
        exact ⟨date, clock, offset, .joined hday hmark htime hzone, rfl⟩
    · cases h
  · rintro ⟨date, clock, offset, ⟨hday, hmark, htime, hzone⟩, rfl⟩
    have hseparator {after : List Char} := readOne_eq_some_iff.mpr ⟨_, hmark, Eq.refl (_ :: after)⟩
    have hclock := htime.readClock (hzone.stopsFraction [])
    have hoffset := hzone.readOffset []
    rw [List.append_nil] at hclock hoffset
    simp [readInternet?, hday.readDate, hseparator, hclock, hoffset]

theorem readInternet?_eq_none_iff :
  readInternet? text = none ↔ ¬ ∃ date clock offset, ShowsInternet date clock offset text
  := by
  rw [Option.eq_none_iff_forall_ne_some]
  constructor
  · rintro hnone ⟨date, clock, offset, hshows⟩
    apply hnone _ (readInternet?_eq_some_iff.mpr ⟨date, clock, offset, hshows, rfl⟩)
  · intro h nanos hread
    obtain ⟨date, clock, offset, hshows, _⟩ := readInternet?_eq_some_iff.mp hread
    apply h ⟨date, clock, offset, hshows⟩

end Instant

end RowFilter
