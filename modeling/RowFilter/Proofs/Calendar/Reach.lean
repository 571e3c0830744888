import RowFilter.Calendar.Instant

/-!
# The reach of the calendar

Every day is in one year (`Date.yearOf_spec`) and in one month of it
(`Date.exists_monthAndDay`), so every instant of sixty-four bits is a moment of the calendar
(`exists_momentOf?`).
-/

namespace RowFilter

namespace Date

/-- The days of a year. -/
def yearLength (leap : Bool) : Nat :=
  if leap then 366 else 365

theorem daysBeforeYear_succ (year : Int) :
  daysBeforeYear (year + 1) = daysBeforeYear year + yearLength (isLeapYear year)
  := by
  rw [daysBeforeYear, daysBeforeYear, yearLength, isLeapYear]
  by_cases h4 : year % 4 = 0 <;> by_cases h100 : year % 100 = 0 <;>
    by_cases h400 : year % 400 = 0 <;> simp [h4, h100, h400] <;> omega

/-- The guess at the year of a day is at most one off. -/
theorem guess_bounds (day : Int) :
  daysBeforeYear (day * 400 / 146097 + 1 - 1) ≤ day ∧
    day < daysBeforeYear (day * 400 / 146097 + 1 + 1 + 1)
  := by
  rw [daysBeforeYear, daysBeforeYear]
  omega

/-- A day is in the year that holds it. -/
theorem yearOf_spec (day : Int) :
  daysBeforeYear (yearOf day) ≤ day ∧ day < daysBeforeYear (yearOf day + 1)
  := by
  obtain ⟨hlow, hhigh⟩ := guess_bounds day
  rw [yearOf]
  generalize day * 400 / 146097 + 1 = guess at hlow hhigh ⊢
  split
  · next hbefore =>
      rw [Int.sub_add_cancel]
      exact ⟨hlow, hbefore⟩
  · next hbefore =>
      split
      · next hafter => exact ⟨hafter, hhigh⟩
      · next hafter => exact ⟨Int.not_lt.mp hbefore, Int.not_le.mp hafter⟩

/-- The year of a day is near the one that the mean length of a year gives. -/
theorem yearOf_bounds (day : Int) :
  day * 400 / 146097 ≤ yearOf day ∧ yearOf day ≤ day * 400 / 146097 + 2
  := by
  rw [yearOf]
  split
  · omega
  · split <;> omega

/-- A day of a year is in one of the months whose lengths are given. -/
theorem exists_monthAndDay :
  ∀ {lengths : List Nat} (month : Nat) {ordinal : Nat}, 1 ≤ ordinal → ordinal ≤ total lengths →
    ∃ index day, monthAndDay month ordinal lengths = some (month + index, day) ∧
      1 ≤ day ∧ day ≤ lengths.getD index 0
  | [], _, _, hpos, h => by
      rw [total] at h
      omega
  | length :: rest, month, ordinal, hpos, h => by
      rw [monthAndDay]
      split
      · next hle => exact ⟨0, ordinal, rfl, hpos, hle⟩
      · next hle =>
          rw [total] at h
          have hposRest : 1 ≤ ordinal - length := by omega
          have hrest : ordinal - length ≤ total rest := by omega
          obtain ⟨index, day, hfound, hday, hlength⟩ :=
            exists_monthAndDay (month + 1) hposRest hrest
          refine ⟨index + 1, day, ?_, hday, hlength⟩
          rw [hfound, Nat.add_assoc, Nat.add_comm 1]

/-- The days of the months of a year are those of the year. -/
theorem total_monthLengths (leap : Bool) :
  total (monthLengths leap) = yearLength leap
  := by
  cases leap <;> rfl

/-- A year of the calendar has a date for each of its days. -/
theorem exists_ofOrdinal? {year : Int} (hlow : minYear ≤ year) (hhigh : year ≤ maxYear)
    {ordinal : Nat} (hpos : 1 ≤ ordinal) (hordinal : ordinal ≤ yearLength (isLeapYear year)) :
  ∃ date, ofOrdinal? year ordinal = some date
  := by
  rw [← total_monthLengths] at hordinal
  obtain ⟨index, day, hfound, hday, hlength⟩ := exists_monthAndDay 1 hpos hordinal
  have hmonth : day ≤ monthLength (isLeapYear year) (1 + index) := by
    rw [Nat.add_comm]
    exact hlength
  rw [ofOrdinal?, hfound]
  dsimp only
  rw [of?, dif_pos ⟨hlow, hhigh⟩, dif_pos ⟨hday, hmonth⟩]
  exact ⟨_, rfl⟩

/-- Seventy million days to either side of the epoch are in the calendar. -/
theorem exists_ofDays? {days : Int} (hlow : -70000000 ≤ days) (hhigh : days ≤ 70000000) :
  ∃ date, ofDays? days = some date
  := by
  obtain ⟨hfirst, hnext⟩ := yearOf_spec (days + epochDays)
  obtain ⟨hyearLow, hyearHigh⟩ := yearOf_bounds (days + epochDays)
  rw [daysBeforeYear_succ] at hnext
  rw [epochDays] at hyearLow hyearHigh
  apply exists_ofOrdinal?
  · rw [minYear, epochDays]
    omega
  · rw [maxYear, epochDays]
    omega
  · omega
  · omega

end Date

/-- Every instant of sixty-four bits is a moment of the calendar. -/
theorem exists_momentOf? {nanos : Int} (h : fitsSigned 64 nanos = true) :
  ∃ moment, momentOf? nanos = some moment
  := by
  rw [fitsSigned, Bool.and_eq_true, decide_eq_true_iff, decide_eq_true_iff] at h
  have hpow : (twoPow (64 - 1) : Int) = 9223372036854775808 := rfl
  have hseconds : nanos / secondNanos = nanos / 1000000000 := rfl
  have hlow : -70000000 ≤ nanos / secondNanos / 86400 := by omega
  have hhigh : nanos / secondNanos / 86400 ≤ 70000000 := by omega
  obtain ⟨date, hdate⟩ := Date.exists_ofDays? hlow hhigh
  rw [momentOf?, hdate]
  exact ⟨_, rfl⟩

end RowFilter
