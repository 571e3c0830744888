import RowFilter.Proofs.Calendar.Counting
import RowFilter.Proofs.Calendar.Internet

/-!
# Reading instants

A text shows an instant as an internet timestamp, as a date with a time of day in one of the formats
of both (`Instant.ShowsMoment`; no text is read in two of them), or as a date alone, which stands
for its midnight.  The first of the three that fits decides, and what it shows is counted exactly or
refused (`DateFormats.readInstant?_exact`).  The midnights that are not refused are those from the
twenty-second of September 1677 to the eleventh of April 2262
(`Date.not_fitsSigned_midnight_iff`).
-/

namespace RowFilter

/-- The nanoseconds from the epoch to a time of day of a date, given the seconds by which it is
ahead of universal time. -/
def nanosAt (date : Date) (clock : Clock) (offset : Int) : Int :=
  (date.toDays * 86400 + clock.seconds - offset) * 1000000000 + clock.nanosecond

theorem instantOf_sub_offset (date : Date) (clock : Clock) (offset : Int) :
  instantOf date clock - offset * secondNanos = nanosAt date clock offset
  := by
  rw [instantOf, nanosAt, secondNanos]
  omega

theorem instantOf_eq_nanosAt (date : Date) (clock : Clock) :
  instantOf date clock = nanosAt date clock 0
  := by
  rw [instantOf, nanosAt, secondNanos, Int.sub_zero]

theorem instantOf_midnight (date : Date) :
  instantOf date Clock.midnight = date.toDays * 86400000000000
  := by
  have hseconds : Clock.midnight.seconds = 0 := rfl
  have hnanosecond : Clock.midnight.nanosecond = 0 := rfl
  rw [instantOf, hseconds, hnanosecond, secondNanos]
  omega

theorem fitInstant?_eq_some_iff {nanos found : Int} :
  fitInstant? nanos = some found ↔ found = nanos ∧ fitsSigned 64 found = true
  := by
  rw [fitInstant?]
  constructor
  · intro h
    split at h
    · next hfits =>
        obtain rfl := Option.some.inj h
        exact ⟨rfl, hfits⟩
    · cases h
  · rintro ⟨rfl, hfits⟩
    apply if_pos hfits

theorem fitInstant?_eq_none_iff {nanos : Int} :
  fitInstant? nanos = none ↔ ¬ fitsSigned 64 nanos = true
  := by
  rw [fitInstant?]
  split <;> simp [*]

/-! ### Midnights -/

namespace Date

/-- The first date whose midnight is an instant of sixty-four bits. -/
def firstMidnight : Date := ⟨1677, 9, 22, by decide, by decide, by decide, by decide⟩

/-- The last date whose midnight is an instant of sixty-four bits. -/
def lastMidnight : Date := ⟨2262, 4, 11, by decide, by decide, by decide, by decide⟩

theorem not_fitsSigned_midnight_iff (date : Date) :
  ¬ fitsSigned 64 (date.toDays * 86400000000000) = true ↔
    date.IsBefore firstMidnight ∨ lastMidnight.IsBefore date
  := by
  have hfirst : firstMidnight.toDays = -106751 := rfl
  have hlast : lastMidnight.toDays = 106751 := rfl
  have hpow : (twoPow (64 - 1) : Int) = 9223372036854775808 := rfl
  rw [isBefore_iff, isBefore_iff, hfirst, hlast, fitsSigned, Bool.and_eq_true, decide_eq_true_iff,
    decide_eq_true_iff, hpow]
  omega

end Date

/-! ### Moments -/

namespace Instant

open Format

variable {text : List Char} {date : Date} {clock : Clock}

/-- Whether a text shows a date and a time of day in a format. -/
def ShowsMomentIn (format : String) (date : Date) (clock : Clock) (text : List Char) : Prop :=
  ∃ items values, Format.ofText? format = some items ∧ Format.read? items text = some values ∧
    values.date? = some date ∧ values.clock? = some clock

/-- Whether a text shows a date and a time of day in one of the formats of both. -/
def ShowsMoment (date : Date) (clock : Clock) (text : List Char) : Prop :=
  ∃ format ∈ momentFormats, ShowsMomentIn format date clock text

theorem readMoment?_eq_some_iff {format : String} {nanos : Int} :
  readMoment? format text = some nanos ↔
    ∃ date clock, ShowsMomentIn format date clock text ∧ nanos = instantOf date clock
  := by
  simp only [readMoment?, bind, Option.bind_eq_some_iff, pure, Option.some.injEq]
  constructor
  · rintro ⟨items, hitems, values, hvalues, date, hdate, clock, hclock, rfl⟩
    exact ⟨date, clock, ⟨items, values, hitems, hvalues, hdate, hclock⟩, rfl⟩
  · rintro ⟨date, clock, ⟨items, values, hitems, hvalues, hdate, hclock⟩, rfl⟩
    exact ⟨items, hitems, values, hvalues, date, hdate, clock, hclock, rfl⟩

/-- No text is read both with white space and with a letter between the date and the time of day:
the letter begins no hour. -/
theorem not_spaced_of_lettered {spaced lettered : FieldValues} {before after : List FormatItem}
    (hspaced : Format.read? (before ++ .blank ' ' :: zeros .hour :: after) text = some spaced) :
  Format.read? (before ++ .literal 'T' :: zeros .hour :: after) text ≠ some lettered
  := by
  intro hlettered
  have hspacedItems := readItems_of_read? hspaced
  have hletteredItems := readItems_of_read? hlettered
  rw [readItems_append, Option.bind_eq_some_iff] at hspacedItems hletteredItems
  obtain ⟨⟨values, rest⟩, hbefore, hspacedRest⟩ := hspacedItems
  obtain ⟨_, hsame, hletteredRest⟩ := hletteredItems
  obtain rfl := Option.some.inj (hbefore.symm.trans hsame)
  obtain ⟨_, _, _, hliteral, _, _⟩ := readItems_cons_eq_some_iff.mp hletteredRest
  cases rest with
  | nil => cases hliteral
  | cons c rest =>
      rw [readItem] at hliteral
      split at hliteral
      · next hletter =>
          subst hletter
          obtain ⟨_, _, _, hblank, _, hclock⟩ := readItems_cons_eq_some_iff.mp hspacedRest
          obtain ⟨_, rfl⟩ := Prod.mk.inj (Option.some.inj hblank)
          obtain ⟨_, _, _, hhour, _, _⟩ := readItems_cons_eq_some_iff.mp hclock
          cases hhour
      · cases hliteral

/-- The moments that are read in the first format of both that fits are those that are shown in
either. -/
theorem readMoments_eq_some_iff {nanos : Int} :
  (momentFormats.findSome? fun format => readMoment? format text) = some nanos ↔
    ∃ date clock, ShowsMoment date clock text ∧ nanos = instantOf date clock
  := by
  constructor
  · intro h
    obtain ⟨format, hformat, hread⟩ := List.exists_of_findSome?_eq_some h
    obtain ⟨date, clock, hshows, hnanos⟩ := readMoment?_eq_some_iff.mp hread
    exact ⟨date, clock, ⟨format, hformat, hshows⟩, hnanos⟩
  · rintro ⟨date, clock, ⟨format, hformat, hshows⟩, rfl⟩
    have hread : readMoment? format text = some (instantOf date clock) :=
      readMoment?_eq_some_iff.mpr ⟨date, clock, hshows, rfl⟩
    rw [momentFormats, List.findSome?_cons, List.findSome?_cons]
    simp only [momentFormats, List.mem_cons, List.not_mem_nil, or_false] at hformat
    rcases hformat with rfl | rfl
    · rw [hread]
    · have hnone : readMoment? "%Y-%m-%d %H:%M:%S%.f" text = none := by
        rw [Option.eq_none_iff_forall_ne_some]
        intro nanos hspaced
        obtain ⟨_, _, ⟨_, _, hspacedItems, hspaced, _⟩, _⟩ := readMoment?_eq_some_iff.mp hspaced
        obtain ⟨_, _, hletteredItems, hlettered, _⟩ := hshows
        have hblank : Format.ofText? "%Y-%m-%d %H:%M:%S%.f" = some (dashedDate ++ .blank ' ' ::
          zeros .hour :: (plainClock.tail ++ [.fraction])) := by decide
        have hletter : Format.ofText? "%Y-%m-%dT%H:%M:%S%.f" = some (dashedDate ++ .literal 'T' ::
          zeros .hour :: (plainClock.tail ++ [.fraction])) := by decide
        obtain rfl := Option.some.inj (hblank.symm.trans hspacedItems)
        obtain rfl := Option.some.inj (hletter.symm.trans hletteredItems)
        exact not_spaced_of_lettered hspaced hlettered
      rw [hnone, hread]

theorem readMoments_eq_none_iff :
  (momentFormats.findSome? fun format => readMoment? format text) = none ↔
    ¬ ∃ date clock, ShowsMoment date clock text
  := by
  rw [Option.eq_none_iff_forall_ne_some]
  constructor
  · rintro hnone ⟨date, clock, hshows⟩
    apply hnone _ (readMoments_eq_some_iff.mpr ⟨date, clock, hshows, rfl⟩)
  · intro h nanos hread
    obtain ⟨date, clock, hshows, _⟩ := readMoments_eq_some_iff.mp hread
    apply h ⟨date, clock, hshows⟩

end Instant

/-! ### Instants -/

namespace DateFormats

open Instant

variable {formats : DateFormats} {text : List Char}

theorem readInstant?_of_internet {nanos : Int} (h : readInternet? text = some nanos) :
  formats.readInstant? text = fitInstant? nanos
  := by
  rw [readInstant?, h]

theorem readInstant?_of_moment (hinternet : readInternet? text = none) {nanos : Int}
    (h : (momentFormats.findSome? fun format => readMoment? format text) = some nanos) :
  formats.readInstant? text = fitInstant? nanos
  := by
  rw [readInstant?, hinternet]
  dsimp only
  rw [h]

/-- A text that shows no time of day shows an instant if it shows a date whose midnight is one of
sixty-four bits. -/
theorem readInstant?_of_day (formats : DateFormats) (hinternet : readInternet? text = none)
    (hmoment : (momentFormats.findSome? fun format => readMoment? format text) = none) :
  formats.readInstant? text
    = (formats.readDate? text).bind fun date => fitInstant? (date.toDays * 86400000000000)
  := by
  rw [readInstant?, hinternet]
  dsimp only
  rw [hmoment]
  simp only [instantOf_midnight]

/-- An internet timestamp shows its moment less its offset, any other text that shows a date and a
time of day shows this moment, and any other text that shows a date shows the midnight of it; each
is counted exactly, or refused when it does not fit sixty-four bits, and no other text shows an
instant.  The midnights that are refused are those before and after two dates. -/
theorem readInstant?_exact (formats : DateFormats) (text : List Char) :
  (∀ date clock offset, ShowsInternet date clock offset text →
    formats.readInstant? text = if fitsSigned 64 (nanosAt date clock offset) then
      some (nanosAt date clock offset) else none) ∧
  ((¬ ∃ date clock offset, ShowsInternet date clock offset text) →
    (∀ date clock, ShowsMoment date clock text →
      formats.readInstant? text = if fitsSigned 64 (nanosAt date clock 0) then
        some (nanosAt date clock 0) else none) ∧
    ((¬ ∃ date clock, ShowsMoment date clock text) →
      (∀ nanos, formats.readInstant? text = some nanos ↔ ∃ date,
        formats.readDate? text = some date ∧ nanos = date.toDays * 86400000000000 ∧
          fitsSigned 64 nanos = true) ∧
      (∀ date, formats.readDate? text = some date →
        (formats.readInstant? text = none ↔
          date.IsBefore Date.firstMidnight ∨ Date.lastMidnight.IsBefore date))))
  := by
  constructor
  · intro date clock offset hshows
    have hread : readInternet? text = some (nanosAt date clock offset) :=
      readInternet?_eq_some_iff.mpr
        ⟨date, clock, offset, hshows, (instantOf_sub_offset date clock offset).symm⟩
    apply readInstant?_of_internet hread
  · intro hnoInternet
    have hinternet := readInternet?_eq_none_iff.mpr hnoInternet
    constructor
    · intro date clock hshows
      have hread : (momentFormats.findSome? fun format => readMoment? format text)
          = some (nanosAt date clock 0) :=
        readMoments_eq_some_iff.mpr
          ⟨date, clock, hshows, (instantOf_eq_nanosAt date clock).symm⟩
      apply readInstant?_of_moment hinternet hread
    · intro hnoMoment
      have hday := readInstant?_of_day formats hinternet
        (readMoments_eq_none_iff.mpr hnoMoment)
      constructor
      · intro nanos
        rw [hday, Option.bind_eq_some_iff]
        simp only [fitInstant?_eq_some_iff]
      · intro date hdate
        rw [hday, hdate, Option.bind_some, fitInstant?_eq_none_iff,
          date.not_fitsSigned_midnight_iff]

/-- The last nanosecond of sixty-four bits is shown two hours ahead of universal time, the one after
it is shown without an offset and refused, and so is the midnight of the day on which the first
nanosecond is; the midnight after it is the first that is not. -/
theorem readInstant?_exact_edges :
  (∃ date clock offset,
    ShowsInternet date clock offset "2262-04-12t01:47:16.854775807+02:00".toList ∧
    default.readInstant? "2262-04-12t01:47:16.854775807+02:00".toList
      = some 9223372036854775807) ∧
  ((¬ ∃ date clock offset, ShowsInternet date clock offset "2262-04-11 23:47:16.854775808".toList) ∧
    ∃ date clock, ShowsMoment date clock "2262-04-11 23:47:16.854775808".toList ∧
      default.readInstant? "2262-04-11 23:47:16.854775808".toList = none) ∧
  ((¬ ∃ date clock offset, ShowsInternet date clock offset "22.09.1677".toList) ∧
    (¬ ∃ date clock, ShowsMoment date clock "22.09.1677".toList) ∧
    default.readInstant? "22.09.1677".toList = some (-9223286400000000000)) ∧
  ((¬ ∃ date clock offset, ShowsInternet date clock offset "21.09.1677".toList) ∧
    (¬ ∃ date clock, ShowsMoment date clock "21.09.1677".toList) ∧
    default.readInstant? "21.09.1677".toList = none)
  := by
  constructor
  · obtain ⟨date, clock, offset, hshows, hnanos⟩ := readInternet?_eq_some_iff.mp
      (by decide : readInternet? "2262-04-12t01:47:16.854775807+02:00".toList
        = some 9223372036854775807)
    rw [instantOf_sub_offset] at hnanos
    refine ⟨date, clock, offset, hshows, ?_⟩
    rw [(readInstant?_exact default _).1 date clock offset hshows, ← hnanos]
    rfl
  constructor
  · have hinternet := readInternet?_eq_none_iff.mp
      (by decide : readInternet? "2262-04-11 23:47:16.854775808".toList = none)
    obtain ⟨date, clock, hshows, hnanos⟩ := readMoments_eq_some_iff.mp
      (by decide : (momentFormats.findSome? fun format =>
        readMoment? format "2262-04-11 23:47:16.854775808".toList) = some 9223372036854775808)
    rw [instantOf_eq_nanosAt] at hnanos
    refine ⟨hinternet, date, clock, hshows, ?_⟩
    rw [((readInstant?_exact default _).2 hinternet).1 date clock hshows, ← hnanos]
    rfl
  constructor
  · have hinternet := readInternet?_eq_none_iff.mp
      (by decide : readInternet? "22.09.1677".toList = none)
    have hmoment := readMoments_eq_none_iff.mp (by decide :
      (momentFormats.findSome? fun format => readMoment? format "22.09.1677".toList) = none)
    refine ⟨hinternet, hmoment, ?_⟩
    apply (((readInstant?_exact default _).2 hinternet).2 hmoment).1 _ |>.mpr
    exact ⟨Date.firstMidnight, by decide, by decide, by decide⟩
  · have hinternet := readInternet?_eq_none_iff.mp
      (by decide : readInternet? "21.09.1677".toList = none)
    have hmoment := readMoments_eq_none_iff.mp (by decide :
      (momentFormats.findSome? fun format => readMoment? format "21.09.1677".toList) = none)
    have hdate : default.readDate? "21.09.1677".toList
        = some ⟨1677, 9, 21, by decide, by decide, by decide, by decide⟩ := by decide
    refine ⟨hinternet, hmoment, ?_⟩
    apply ((((readInstant?_exact default _).2 hinternet).2 hmoment).2 _ hdate).mpr
    exact .inl (.inr ⟨rfl, .inr ⟨rfl, by decide⟩⟩)

end DateFormats

end RowFilter
