import RowFilter.Calendar.Week
import RowFilter.Proofs.Calendar.Days

/-!
# Counting the dates

The number of days from the epoch counts the dates of the calendar without a gap
(`Date.toDays_counts`): a date is found by its number (`Date.ofDays?_eq_some_iff`), there is one for
each number between those of the first and the last date (`Date.ofDays?_eq_none_iff`), later dates
have greater numbers (`Date.isBefore_iff`), and the day after a date has the next one
(`Date.next?_eq_some_iff`).
-/

namespace RowFilter

namespace Date

/-! ### Years -/

theorem daysBeforeYear_mono {a b : Int} (h : a ≤ b) :
  daysBeforeYear a ≤ daysBeforeYear b
  := by
  rw [daysBeforeYear, daysBeforeYear]
  omega

theorem lt_of_daysBeforeYear_lt {a b : Int} (h : daysBeforeYear a < daysBeforeYear b) :
  a < b
  := by
  apply Int.not_le.mp
  intro hle
  apply Int.not_le.mpr h (daysBeforeYear_mono hle)

/-- A day is in one year only. -/
theorem yearOf_eq {year day : Int} (hfirst : daysBeforeYear year ≤ day)
    (hnext : day < daysBeforeYear (year + 1)) :
  yearOf day = year
  := by
  obtain ⟨hlow, hhigh⟩ := yearOf_spec day
  have hle : yearOf day < year + 1 := lt_of_daysBeforeYear_lt (Int.lt_of_le_of_lt hlow hnext)
  have hge : year < yearOf day + 1 := lt_of_daysBeforeYear_lt (Int.lt_of_le_of_lt hfirst hhigh)
  omega

/-! ### Months -/

theorem total_take_succ (lengths : List Nat) (index : Nat) :
  total (lengths.take (index + 1)) = total (lengths.take index) + lengths.getD index 0
  := by
  induction lengths generalizing index with
  | nil => rw [List.take_nil, List.take_nil, List.getD_nil, Nat.add_zero]
  | cons length rest ih =>
      cases index with
      | zero => exact Nat.add_comm length 0
      | succ index =>
          rw [List.take_succ_cons, List.take_succ_cons, total, total, ih, List.getD_cons_succ,
            Nat.add_assoc]

/-- The days before the next month are those before a month and those of it. -/
theorem daysBeforeMonth_succ (leap : Bool) {month : Nat} (h : 1 ≤ month) :
  daysBeforeMonth leap (month + 1) = daysBeforeMonth leap month + monthLength leap month
  := by
  obtain ⟨index, rfl⟩ : ∃ index, month = index + 1 := ⟨month - 1, by omega⟩
  rw [daysBeforeMonth, daysBeforeMonth, monthLength, Nat.add_sub_cancel, Nat.add_sub_cancel,
    total_take_succ]

theorem daysBeforeMonth_mono (leap : Bool) {month later : Nat} (h : 1 ≤ month)
    (hlater : month ≤ later) :
  daysBeforeMonth leap month ≤ daysBeforeMonth leap later
  := by
  induction hlater with
  | refl => exact Nat.le_refl _
  | @step later hle ih =>
      rw [daysBeforeMonth_succ leap (Nat.le_trans h hle)]
      exact Nat.le_add_right_of_le ih

/-- The days before the thirteenth month are those of the year. -/
theorem daysBeforeMonth_thirteen (leap : Bool) :
  daysBeforeMonth leap 13 = yearLength leap
  := by
  cases leap <;> rfl

/-- A day of a month is found by its number in the year. -/
theorem monthAndDay_eq {lengths : List Nat} {index day : Nat} (month : Nat) (hpos : 1 ≤ day)
    (hday : day ≤ lengths.getD index 0) :
  monthAndDay month (total (lengths.take index) + day) lengths = some (month + index, day)
  := by
  induction lengths generalizing month index with
  | nil =>
      rw [List.getD_nil] at hday
      omega
  | cons length rest ih =>
      rw [monthAndDay]
      cases index with
      | zero =>
          rw [List.getD_cons_zero] at hday
          rw [List.take_zero, total, Nat.zero_add, if_pos hday, Nat.add_zero]
      | succ index =>
          have hlater : ¬ length + total (rest.take index) + day ≤ length := by omega
          have hrest : length + total (rest.take index) + day - length
              = total (rest.take index) + day := by omega
          rw [List.getD_cons_succ] at hday
          rw [List.take_succ_cons, total, if_neg hlater, hrest, ih (month + 1) hday,
            Nat.add_assoc, Nat.add_comm 1]

/-! ### Numbers of dates -/

variable {a b : Date}

/-- The number of a date in its year is at most that of the last day of its month. -/
theorem ordinal_le (date : Date) :
  date.ordinal ≤ daysBeforeMonth (isLeapYear date.year) (date.month + 1)
  := by
  obtain ⟨⟨hmonth, _⟩, _⟩ := date.month_day_bounds
  rw [ordinal, daysBeforeMonth_succ _ hmonth]
  exact Nat.add_le_add_left date.day_le _

theorem ordinal_bounds (date : Date) :
  1 ≤ date.ordinal ∧ date.ordinal ≤ yearLength (isLeapYear date.year)
  := by
  obtain ⟨⟨_, hmonth⟩, _⟩ := date.month_day_bounds
  have hlast : daysBeforeMonth (isLeapYear date.year) (date.month + 1)
      ≤ daysBeforeMonth (isLeapYear date.year) 13 :=
    daysBeforeMonth_mono _ (Nat.le_add_left 1 _) (Nat.succ_le_succ hmonth)
  rw [daysBeforeMonth_thirteen] at hlast
  exact ⟨Nat.le_add_left_of_le date.day_pos, Nat.le_trans date.ordinal_le hlast⟩

/-- A date is one of the days of its year. -/
theorem dayNumber_bounds (date : Date) :
  daysBeforeYear date.year ≤ date.toDays + epochDays ∧
    date.toDays + epochDays < daysBeforeYear (date.year + 1)
  := by
  obtain ⟨hpos, hle⟩ := date.ordinal_bounds
  rw [daysBeforeYear_succ, toDays]
  omega

/-- A date is found by its year and its day in the year. -/
theorem ofOrdinal?_ordinal (date : Date) :
  ofOrdinal? date.year date.ordinal = some date
  := by
  obtain ⟨⟨hmonth, _⟩, _⟩ := date.month_day_bounds
  have hindex : date.month = date.month - 1 + 1 := by omega
  have hday := date.day_le
  rw [hindex, monthLength] at hday
  rw [ofOrdinal?, ordinal, daysBeforeMonth, monthAndDay_eq 1 date.day_pos hday]
  apply of?_eq_some_iff.mpr
  exact ⟨rfl, by omega, rfl⟩

theorem ofDays?_toDays (date : Date) :
  ofDays? date.toDays = some date
  := by
  obtain ⟨hfirst, hnext⟩ := date.dayNumber_bounds
  have hyear : yearOf (date.toDays + epochDays) = date.year := yearOf_eq hfirst hnext
  have hordinal : (date.toDays + epochDays - daysBeforeYear date.year + 1).toNat
      = date.ordinal := by
    rw [toDays]
    omega
  rw [ofDays?, hyear, hordinal, ofOrdinal?_ordinal]

/-- A date is found by its number and by no other one. -/
theorem ofDays?_eq_some_iff {days : Int} {date : Date} :
  ofDays? days = some date ↔ date.toDays = days
  := by
  constructor
  · apply toDays_of_ofDays?
  · rintro rfl
    apply ofDays?_toDays

theorem toDays_inj :
  a.toDays = b.toDays ↔ a = b
  := by
  constructor
  · intro h
    apply Option.some.inj
    rw [← ofDays?_toDays a, ← ofDays?_toDays b, h]
  · rintro rfl
    rfl

/-! ### The first and the last date -/

/-- The first date. -/
def first : Date := ⟨minYear, 1, 1, by decide, by decide, by decide, by decide⟩

/-- The last date. -/
def last : Date := ⟨maxYear, 12, 31, by decide, by decide, by decide, by decide⟩

theorem toDays_first :
  first.toDays = daysBeforeYear minYear - epochDays
  := rfl

theorem toDays_last :
  last.toDays = daysBeforeYear (maxYear + 1) - epochDays - 1
  := rfl

theorem toDays_bounds (date : Date) :
  first.toDays ≤ date.toDays ∧ date.toDays ≤ last.toDays
  := by
  obtain ⟨hfirst, hnext⟩ := date.dayNumber_bounds
  have hlow : daysBeforeYear minYear ≤ daysBeforeYear date.year :=
    daysBeforeYear_mono date.minYear_le
  have hhigh : daysBeforeYear (date.year + 1) ≤ daysBeforeYear (maxYear + 1) :=
    daysBeforeYear_mono (Int.add_le_add_right date.le_maxYear 1)
  rw [toDays_first, toDays_last]
  omega

/-- There is a date for each number from that of the first to that of the last one. -/
theorem exists_toDays_eq {days : Int} (hfirst : first.toDays ≤ days)
    (hlast : days ≤ last.toDays) :
  ∃ date : Date, date.toDays = days
  := by
  obtain ⟨hlow, hhigh⟩ := yearOf_spec (days + epochDays)
  rw [toDays_first] at hfirst
  rw [toDays_last] at hlast
  have hminYear : minYear < yearOf (days + epochDays) + 1 :=
    lt_of_daysBeforeYear_lt (by omega)
  have hmaxYear : yearOf (days + epochDays) < maxYear + 1 :=
    lt_of_daysBeforeYear_lt (by omega)
  rw [daysBeforeYear_succ] at hhigh
  obtain ⟨date, hdate⟩ : ∃ date, ofDays? days = some date := by
    apply exists_ofOrdinal? (Int.lt_add_one_iff.mp hminYear) (Int.lt_add_one_iff.mp hmaxYear)
    · omega
    · omega
  exact ⟨date, toDays_of_ofDays? hdate⟩

theorem ofDays?_eq_none_iff {days : Int} :
  ofDays? days = none ↔ days < first.toDays ∨ last.toDays < days
  := by
  rw [Option.eq_none_iff_forall_ne_some]
  constructor
  · intro hnone
    rcases Int.lt_or_le days first.toDays with hbefore | hfirst
    · exact .inl hbefore
    · rcases Int.lt_or_le last.toDays days with hafter | hlast
      · exact .inr hafter
      · obtain ⟨date, hdate⟩ := exists_toDays_eq hfirst hlast
        cases hnone date (ofDays?_eq_some_iff.mpr hdate)
  · intro houtside date hdate
    obtain ⟨hlow, hhigh⟩ := date.toDays_bounds
    rw [ofDays?_eq_some_iff.mp hdate] at hlow hhigh
    omega

/-! ### The order of dates -/

/-- Whether a date is earlier than another one: dates are compared by the year, then by the month,
then by the day of the month. -/
def IsBefore (a b : Date) : Prop :=
  a.year < b.year ∨ a.year = b.year ∧ (a.month < b.month ∨ a.month = b.month ∧ a.day < b.day)

theorem isBefore_or_eq_or_isBefore (a b : Date) :
  a.IsBefore b ∨ a = b ∨ b.IsBefore a
  := by
  by_cases hequal : a.year = b.year ∧ a.month = b.month ∧ a.day = b.day
  · obtain ⟨hyear, hmonth, hday⟩ := hequal
    exact .inr (.inl (Date.ext hyear hmonth hday))
  · rw [IsBefore, IsBefore]
    omega

/-- Later dates have greater numbers. -/
theorem IsBefore.toDays_lt (h : a.IsBefore b) :
  a.toDays < b.toDays
  := by
  rcases h with hyear | ⟨hyear, hmonth | ⟨hmonth, hday⟩⟩
  · obtain ⟨_, hnext⟩ := a.dayNumber_bounds
    obtain ⟨hfirst, _⟩ := b.dayNumber_bounds
    have hmono : daysBeforeYear (a.year + 1) ≤ daysBeforeYear b.year :=
      daysBeforeYear_mono hyear
    omega
  · have hle := a.ordinal_le
    have hmono : daysBeforeMonth (isLeapYear a.year) (a.month + 1)
        ≤ daysBeforeMonth (isLeapYear a.year) b.month :=
      daysBeforeMonth_mono _ (Nat.le_add_left 1 _) hmonth
    have hlt : a.ordinal < b.ordinal := by
      have hpos := b.day_pos
      have hordinal : b.ordinal = daysBeforeMonth (isLeapYear a.year) b.month + b.day := by
        rw [ordinal, hyear]
      omega
    rw [toDays, toDays, hyear]
    omega
  · rw [toDays, toDays, ordinal, ordinal, hyear, hmonth]
    omega

theorem isBefore_iff :
  a.IsBefore b ↔ a.toDays < b.toDays
  := by
  constructor
  · apply IsBefore.toDays_lt
  · intro hlt
    rcases isBefore_or_eq_or_isBefore a b with hbefore | rfl | hafter
    · exact hbefore
    · omega
    · have hgt := hafter.toDays_lt
      omega

/-! ### The next day -/

/-- The day after a date, when the calendar has one: the next day of the month, or else the first
one of the next month, or else the first one of the next year. -/
def next? (date : Date) : Option Date :=
  if date.day < monthLength (isLeapYear date.year) date.month then
    of? date.year date.month (date.day + 1)
  else if date.month < 12 then of? date.year (date.month + 1) 1
  else of? (date.year + 1) 1 1

/-- Each of the twelve months has at least twenty-eight days. -/
theorem le_monthLength (leap : Bool) {month : Nat} (hpos : 1 ≤ month) (hle : month ≤ 12) :
  28 ≤ monthLength leap month
  := by
  have hall : ∀ leap : Bool, ∀ index : Fin 12, 28 ≤ monthLength leap (index.val + 1) := by
    decide
  obtain ⟨index, rfl⟩ : ∃ index, month = index + 1 := ⟨month - 1, by omega⟩
  exact hall leap ⟨index, by omega⟩

/-- The day after a date has the next number. -/
theorem toDays_of_next? (h : a.next? = some b) :
  b.toDays = a.toDays + 1
  := by
  obtain ⟨⟨hmonth, hmonthLe⟩, _⟩ := a.month_day_bounds
  have hday := a.day_le
  rw [next?] at h
  split at h
  · obtain ⟨hyear, hmonth, hday⟩ := of?_eq_some_iff.mp h
    rw [toDays, toDays, ordinal, ordinal, hyear, hmonth, hday]
    omega
  · next hlast =>
      have hordinal : a.ordinal = daysBeforeMonth (isLeapYear a.year) (a.month + 1) := by
        rw [ordinal, daysBeforeMonth_succ _ hmonth]
        omega
      split at h
      · obtain ⟨hyear, hmonth, hday⟩ := of?_eq_some_iff.mp h
        rw [toDays, toDays, hordinal, ordinal, hyear, hmonth, hday]
        omega
      · next hdecember =>
          obtain ⟨hyear, hmonth, hday⟩ := of?_eq_some_iff.mp h
          have htwelve : a.month + 1 = 13 := by omega
          have hbefore : daysBeforeMonth (isLeapYear (a.year + 1)) 1 = 0 := rfl
          rw [htwelve, daysBeforeMonth_thirteen] at hordinal
          rw [toDays, toDays, hordinal, ordinal, hyear, hmonth, hday, hbefore,
            daysBeforeYear_succ]
          omega

/-- Every date but the last one has a day after it. -/
theorem exists_next? (h : a ≠ last) :
  ∃ b, a.next? = some b
  := by
  obtain ⟨⟨hmonth, hmonthLe⟩, _⟩ := a.month_day_bounds
  have hyears := And.intro a.minYear_le a.le_maxYear
  have hday := a.day_le
  rw [next?]
  split
  · next hmore =>
      rw [of?, dif_pos hyears, dif_pos ⟨Nat.le_add_left 1 _, hmore⟩]
      exact ⟨_, rfl⟩
  · split
    · next hlater =>
        have hlength : 28 ≤ monthLength (isLeapYear a.year) (a.month + 1) :=
          le_monthLength _ (Nat.le_add_left 1 _) hlater
        rw [of?, dif_pos hyears, dif_pos ⟨Nat.le_refl 1, by omega⟩]
        exact ⟨_, rfl⟩
    · next hmore hdecember =>
        have htwelve : a.month = 12 := by omega
        have hyear : a.year ≠ maxYear := by
          intro hyear
          apply h
          have hlength : monthLength (isLeapYear a.year) a.month = 31 := by
            rw [hyear, htwelve]
            rfl
          have hthirtyOne : a.day = 31 := by omega
          exact Date.ext hyear htwelve hthirtyOne
        have hlength : 28 ≤ monthLength (isLeapYear (a.year + 1)) 1 :=
          le_monthLength _ (by decide) (by decide)
        rw [of?, dif_pos (by omega), dif_pos ⟨Nat.le_refl 1, by omega⟩]
        exact ⟨_, rfl⟩

theorem next?_eq_some_iff :
  a.next? = some b ↔ b.toDays = a.toDays + 1
  := by
  constructor
  · apply toDays_of_next?
  · intro hnumber
    have hlast : a ≠ last := by
      rintro rfl
      have hle := b.toDays_bounds.2
      omega
    obtain ⟨c, hc⟩ := exists_next? hlast
    obtain rfl : c = b := toDays_inj.mp ((toDays_of_next? hc).trans hnumber.symm)
    exact hc

/-! ### Words -/

/-- The number of a date fits thirty-two bits, whether days are counted from the epoch or from the
last day before the year one. -/
theorem fitsSigned_toDays (date : Date) :
  fitsSigned 32 (date.dayNumber + 1) = true ∧ fitsSigned 32 date.toDays = true
  := by
  obtain ⟨hlow, hhigh⟩ := date.toDays_bounds
  have hfirst : first.toDays = -96465292 := rfl
  have hlast : last.toDays = 95026236 := rfl
  have hpow : (twoPow (32 - 1) : Int) = 2147483648 := rfl
  rw [dayNumber, epochDays, fitsSigned, fitsSigned, Bool.and_eq_true, Bool.and_eq_true,
    decide_eq_true_iff, decide_eq_true_iff, decide_eq_true_iff, decide_eq_true_iff]
  omega

/-- The dates of the calendar are counted from the epoch, each by a number that fits thirty-two
bits.  The date of a number is the one that it counts, and there is none before the first and after
the last one, as for all numbers that do not fit thirty-two bits when they are counted from the last
day before the year one.  Later dates have greater numbers, and the day after a date has the next
one. -/
theorem toDays_counts :
  (∀ date : Date, fitsSigned 32 (date.dayNumber + 1) = true ∧ fitsSigned 32 date.toDays = true ∧
    ofDays? date.toDays = some date) ∧
  (∀ (days : Int) (date : Date), ofDays? days = some date ↔ date.toDays = days) ∧
  (∀ days : Int, ofDays? days = none ↔ days < first.toDays ∨ last.toDays < days) ∧
  (∀ days : Int, ofDays? days = if fitsSigned 32 (days + (epochDays + 1)) then ofDays? days
    else none) ∧
  (∀ a b : Date, a.IsBefore b ↔ a.toDays < b.toDays) ∧
  (∀ a b : Date, a.next? = some b ↔ b.toDays = a.toDays + 1)
  := by
  refine ⟨?_, fun _ _ => ofDays?_eq_some_iff, fun _ => ofDays?_eq_none_iff, ?_,
    fun _ _ => isBefore_iff, fun _ _ => next?_eq_some_iff⟩
  · intro date
    obtain ⟨hnumber, hdays⟩ := date.fitsSigned_toDays
    exact ⟨hnumber, hdays, ofDays?_toDays date⟩
  · intro days
    split
    · rfl
    · next hoverflow =>
        rw [Option.eq_none_iff_forall_ne_some]
        intro date hdate
        obtain rfl := ofDays?_eq_some_iff.mp hdate
        obtain ⟨hnumber, _⟩ := date.fitsSigned_toDays
        rw [dayNumber, Int.add_assoc] at hnumber
        exact hoverflow hnumber

end Date

end RowFilter
