import RowFilter.Proofs.Calendar.Reach

/-!
# Days and moments

A date that is found by its number has this number (`Date.toDays_of_ofDays?`), and a moment that is
found by the nanoseconds since the epoch is so many nanoseconds after it
(`instantOf_of_momentOf?`).  The time of day of such a moment has no leap second
(`Clock.IsRegular`).
-/

namespace RowFilter

namespace Date

/-- A year, a month and a day are those of the date that is made of them. -/
theorem of?_eq_some_iff {year : Int} {month day : Nat} {date : Date} :
  of? year month day = some date ↔ date.year = year ∧ date.month = month ∧ date.day = day
  := by
  rw [of?]
  constructor
  · intro h
    split at h
    · split at h
      · cases h
        exact ⟨rfl, rfl, rfl⟩
      · cases h
    · cases h
  · rintro ⟨rfl, rfl, rfl⟩
    rw [dif_pos ⟨date.minYear_le, date.le_maxYear⟩, dif_pos ⟨date.day_pos, date.day_le⟩]

/-- The days of the months before the one that holds a day, and the day in it, make up the day. -/
theorem ordinal_of_monthAndDay :
  ∀ {lengths : List Nat} {month ordinal found day : Nat},
    monthAndDay month ordinal lengths = some (found, day) →
      ∃ index, found = month + index ∧ ordinal = total (lengths.take index) + day
  | length :: rest, month, ordinal, found, day, h => by
      rw [monthAndDay] at h
      split at h
      · cases h
        exact ⟨0, rfl, (Nat.zero_add ordinal).symm⟩
      · next hlater =>
          obtain ⟨index, hfound, hordinal⟩ := ordinal_of_monthAndDay h
          refine ⟨index + 1, by omega, ?_⟩
          rw [List.take_succ_cons, total]
          omega

/-- The date of a year and a day of the year has both. -/
theorem ordinal_of_ofOrdinal? {year : Int} {ordinal : Nat} {date : Date}
    (h : ofOrdinal? year ordinal = some date) :
  date.year = year ∧ date.ordinal = ordinal
  := by
  rw [ofOrdinal?] at h
  split at h
  · next month day hfound =>
      obtain ⟨rfl, rfl, rfl⟩ := of?_eq_some_iff.mp h
      obtain ⟨index, hmonth, hordinal⟩ := ordinal_of_monthAndDay hfound
      refine ⟨rfl, ?_⟩
      rw [Date.ordinal, daysBeforeMonth, hmonth, Nat.add_sub_cancel_left, hordinal]
  · cases h

/-- The date of a day has the number of the day. -/
theorem toDays_of_ofDays? {days : Int} {date : Date} (h : ofDays? days = some date) :
  date.toDays = days
  := by
  obtain ⟨hyear, hordinal⟩ := ordinal_of_ofOrdinal? h
  obtain ⟨hfirst, _⟩ := yearOf_spec (days + epochDays)
  rw [toDays, hyear, hordinal]
  omega

/-- No month has more than thirty-one days, and only the twelve months have any. -/
theorem monthLength_bounds (leap : Bool) (month : Nat) :
  monthLength leap month ≤ 31 ∧ (0 < monthLength leap month → 1 ≤ month ∧ month ≤ 12)
  := by
  by_cases hmonth : month < 13
  · have hall : ∀ leap : Bool, ∀ month : Fin 13, monthLength leap month ≤ 31 ∧
        (0 < monthLength leap month → 1 ≤ month.val ∧ month.val ≤ 12) := by
      decide
    apply hall leap ⟨month, hmonth⟩
  · obtain ⟨index, rfl⟩ : ∃ index, month = index + 1 := ⟨month - 1, by omega⟩
    have hlength : (monthLengths leap).length = 12 := rfl
    rw [monthLength, List.getD_eq_getElem?_getD, List.getElem?_eq_none (by omega), Option.getD_none]
    omega

/-- The month of a date is one of twelve, and its day one of thirty-one. -/
theorem month_day_bounds (date : Date) :
  (1 ≤ date.month ∧ date.month ≤ 12) ∧ date.day ≤ 31
  := by
  obtain ⟨hlength, hmonth⟩ := monthLength_bounds (isLeapYear date.year) date.month
  exact ⟨hmonth (Nat.lt_of_lt_of_le date.day_pos date.day_le), Nat.le_trans date.day_le hlength⟩

end Date

/-- Whether a time of day is one of a clock without leap seconds. -/
structure Clock.IsRegular (clock : Clock) : Prop where
  hour_lt : clock.hour < 24
  minute_lt : clock.minute < 60
  second_lt : clock.second < 60
  nanosecond_lt : clock.nanosecond < 1000000000

/-- The moment of an instant is as many nanoseconds from the epoch, and has no leap second. -/
theorem instantOf_of_momentOf? {nanos : Int} {date : Date} {clock : Clock}
    (h : momentOf? nanos = some (date, clock)) :
  instantOf date clock = nanos ∧ clock.IsRegular
  := by
  rw [momentOf?, Option.map_eq_some_iff] at h
  obtain ⟨found, hfound, hmoment⟩ := h
  obtain ⟨rfl, rfl⟩ := Prod.mk.inj hmoment
  have hdays := Date.toDays_of_ofDays? hfound
  have hsecondNanos : secondNanos = 1000000000 := rfl
  have hfraction : 0 ≤ nanos % secondNanos ∧ nanos % secondNanos < 1000000000 :=
    ⟨Int.emod_nonneg nanos (by decide), Int.emod_lt_of_pos nanos (by decide)⟩
  constructor
  · rw [instantOf, hdays, Clock.seconds, hsecondNanos]
    dsimp only
    omega
  · constructor <;> dsimp only <;> omega

end RowFilter
