import RowFilter.Proofs.Calendar.Counting
import RowFilter.Proofs.Calendar.Formats

/-!
# The formats that are accepted by default

A date is written in each of the formats that are accepted by default, and read back from its text,
but for one of them: where a date begins with the day and has slashes, a day up to the twelfth is
taken for the month, as in the format before it (`DateFormats.default_readDate?_textIn?`).  Of every
other format, the ones before it refuse its texts: most of them ask for a mark that is not written,
and what the others read of a text is not all of it (`Format.IsRefused`).
-/

namespace RowFilter

namespace Format

variable {date : Date} {clock : Clock} {items : List FormatItem} {text rest : List Char}
  {number : CalendarNumber}

/-! ### Texts that are refused -/

/-- Whether items do not read the whole of a text, whatever was read before. -/
def IsRefused (items : List FormatItem) (text : List Char) : Prop :=
  ∀ values final, readItems items values text ≠ some (final, [])

theorem isRefused_nil (h : text ≠ []) :
  IsRefused [] text
  := by
  rintro values final ⟨⟩
  exact h rfl

theorem isRefused_of_readItem {item : FormatItem} (h : readItem item text = none) :
  IsRefused (item :: items) text
  := by
  intro values final hread
  obtain ⟨_, _, _, hitem, _, _⟩ := readItems_cons_eq_some_iff.mp hread
  cases h.symm.trans hitem

/-- A text is refused if what an item leaves of it is. -/
theorem IsRefused.cons {item : FormatItem}
    (h : ∀ shown left, readItem item text = some (shown, left) → IsRefused items left) :
  IsRefused (item :: items) text
  := by
  intro values final hread
  obtain ⟨shown, left, next, hitem, _, hitems⟩ := readItems_cons_eq_some_iff.mp hread
  apply h shown left hitem next final hitems

theorem IsRefused.literal {c d : Char} (h : IsRefused items rest) :
  IsRefused (.literal c :: items) (d :: rest)
  := by
  apply IsRefused.cons
  intro shown left hitem
  rw [readItem] at hitem
  split at hitem
  · obtain ⟨_, rfl⟩ := Prod.mk.inj (Option.some.inj hitem)
    exact h
  · cases hitem

theorem IsRefused.blank {c : Char} (h : IsRefused items (trimStart text)) :
  IsRefused (.blank c :: items) text
  := by
  apply IsRefused.cons
  rintro _ _ ⟨⟩
  exact h

/-- Digits that a number is read from, whether or not it is in its range, leave what comes after
them. -/
theorem IsRefused.digits {limit : Nat} {digits : List Char} (hwidth : number.width? = some limit)
    (hne : digits ≠ []) (hdigits : ∀ c ∈ digits, c.isDigit = true) (hlimit : digits.length ≤ limit)
    (hrest : digits.length = limit ∨ StopsDigits rest) (h : IsRefused items rest) :
  IsRefused (zeros number :: items) (digits ++ rest)
  := by
  apply IsRefused.cons
  intro shown left hitem
  rw [zeros, readItem, readNumber_digits hwidth hne hdigits hlimit hrest, Option.bind_eq_bind,
    Option.bind_some] at hitem
  dsimp only at hitem
  split at hitem
  · obtain ⟨_, rfl⟩ := Prod.mk.inj (Option.some.inj hitem)
    exact h
  · cases hitem

/-- Of a number in two digits, all is read where no digit comes after it. -/
theorem IsRefused.twoDigits {limit n : Nat} (hwidth : number.width? = some limit)
    (hlimit : 2 ≤ limit) (hn : n < 100) (hrest : StopsDigits rest) (h : IsRefused items rest) :
  IsRefused (zeros number :: items) (fieldText 2 .zeros n ++ rest)
  := by
  have hlength : (fieldText 2 .zeros n).length = 2 := length_fieldText (by decide) hn
  rw [← hlength] at hlimit
  apply IsRefused.digits hwidth (fieldText_ne_nil 2 n) (fun c => isDigit_of_mem_fieldText) hlimit
    (.inr hrest) h

/-- Two digits are no number whose greatest value they exceed. -/
theorem isRefused_twoDigits {n : Nat} (hwidth : number.width? = some 2) (hn : n < 100)
    (hgreatest : number.range.2 < n) :
  IsRefused (zeros number :: items) (fieldText 2 .zeros n ++ rest)
  := by
  apply isRefused_of_readItem
  rw [zeros, readItem, readNumber_fieldText (by decide) hn hwidth, Option.bind_eq_bind,
    Option.bind_some]
  apply if_neg
  rintro ⟨_, hle⟩
  exact Int.not_le.mpr hgreatest hle

/-- Of four digits at the end of a text, a number in two digits leaves two. -/
theorem isRefused_fourDigits {n : Nat} (hwidth : number.width? = some 2) (hn : n < tenPow 4) :
  IsRefused [zeros number] (fieldText 4 .zeros n)
  := by
  have hfour : (fieldText 4 .zeros n).length = 4 := length_fieldText (by decide) hn
  have htwo : ((fieldText 4 .zeros n).take 2).length = 2 := by
    rw [List.length_take, hfour]
    rfl
  have hleft : ((fieldText 4 .zeros n).drop 2).length = 2 := by
    rw [List.length_drop, hfour]
  rw [← List.take_append_drop 2 (fieldText 4 .zeros n)]
  apply IsRefused.digits hwidth (List.ne_nil_of_length_pos (by omega))
    (fun c hc => isDigit_of_mem_fieldText (List.mem_of_mem_take hc)) (Nat.le_of_eq htwo) (.inl htwo)
  apply isRefused_nil
  apply List.ne_nil_of_length_pos
  omega

/-- A text that begins with a letter is no number. -/
theorem readNumber_letters {letters : List Char} (hne : letters ≠ [])
    (hletters : ∀ c ∈ letters, c.isAlpha = true) :
  readNumber number (letters ++ rest) = none
  := by
  have htrim : trimStart (letters ++ rest) = letters ++ rest :=
    trimStart_append hne (fun c hc => isWhiteSpace_of_isAlpha (hletters c hc)) rest
  have hhead : ∀ c ∈ (letters ++ rest).head?, c.isAlpha = true := by
    intro c hc
    apply hletters c
    cases letters with
    | nil => cases hne rfl
    | cons letter letters =>
        obtain rfl := Option.some.inj hc
        apply List.mem_cons_self
  have hstops : StopsDigits (letters ++ rest) := fun c hc => isDigit_of_isAlpha (hhead c hc)
  rw [readNumber_eq htrim, readDigits_of_stopsDigits hstops, Option.map_none]
  · intro hminus
    cases hhead _ hminus
  · intro hplus
    cases hhead _ hplus

theorem isRefused_letters {letters : List Char} (hne : letters ≠ [])
    (hletters : ∀ c ∈ letters, c.isAlpha = true) :
  IsRefused (zeros number :: items) (letters ++ rest)
  := by
  apply isRefused_of_readItem
  rw [zeros, readItem, readNumber_letters hne hletters]
  rfl

theorem readDate?_of_isRefused (h : IsRefused items text) :
  readDate? items text = none
  := by
  cases hread : read? items text with
  | none => rw [readDate?, hread, Option.bind_none]
  | some values => cases h _ _ (readItems_of_read? hread)

/-! ### Formats that take each other's texts apart -/

/-- A text that begins with the day is not one that begins with the year: two digits of the year
are left. -/
theorem isRefused_yearFirst (hlow : 0 ≤ date.year) (hhigh : date.year ≤ 9999) :
  IsRefused (yearFirst '-') ((dayFirst '-').flatMap (itemText date clock))
  := by
  obtain ⟨⟨_, hmonth⟩, hday⟩ := date.month_day_bounds
  rw [flatMap_dayFirst hlow hhigh]
  apply IsRefused.twoDigits rfl (by decide) (by omega) (stopsDigits_cons rfl _)
  apply IsRefused.literal
  apply IsRefused.twoDigits rfl (by decide) (by omega) (stopsDigits_cons rfl _)
  apply IsRefused.literal
  apply isRefused_fourDigits rfl (yearText_eq hlow hhigh).2

/-- A text in which a day after the twelfth comes first is not one that begins with the month. -/
theorem isRefused_monthFirst (hlow : 0 ≤ date.year) (hhigh : date.year ≤ 9999)
    (hday : 12 < date.day) :
  IsRefused (monthFirst '/') ((dayFirst '/').flatMap (itemText date clock))
  := by
  obtain ⟨_, hbound⟩ := date.month_day_bounds
  rw [flatMap_dayFirst hlow hhigh]
  apply isRefused_twoDigits rfl (by omega)
  rw [CalendarNumber.range]
  dsimp only
  omega

/-- A text with the name of the month is not one in digits only. -/
theorem isRefused_digitsOnly (hlow : 0 ≤ date.year) (hhigh : date.year ≤ 9999) (whole : Bool) :
  IsRefused digitsOnly ((named whole).flatMap (itemText date clock))
  := by
  obtain ⟨_, hday⟩ := date.month_day_bounds
  obtain ⟨hname, hletters⟩ := monthName_letters date whole
  rw [flatMap_named hlow hhigh]
  apply IsRefused.twoDigits rfl (by decide) (by omega) (stopsDigits_cons rfl _)
  apply isRefused_of_readItem
  -- the number of the month is looked for after the blank
  have hblank : ∀ text, readNumber .month (' ' :: text) = readNumber .month text := fun _ => rfl
  rw [zeros, readItem, hblank, readNumber_letters hname hletters]
  rfl

/-- The name of the month leaves what comes after it. -/
theorem IsRefused.monthName (whole : Bool) (h : IsRefused items rest) :
  IsRefused (.monthName whole :: items) (nameText whole monthNames (date.month - 1) ++ rest)
  := by
  have hname : ReadsBack date Clock.midnight (.monthName whole)
      [(.month, (date.month : Int))] rest := readsBack_monthName whole rest
  apply IsRefused.cons
  intro shown left hitem
  obtain ⟨_, rfl⟩ := Prod.mk.inj (Option.some.inj (hname.symm.trans hitem))
  exact h

/-- The name of a month is its first three letters and what is left of it. -/
theorem nameText_true (names : List String) (index : Nat) :
  nameText true names index
    = nameText false names index ++ (names.getD index "").toList.drop 3
  := (List.take_append_drop 3 _).symm

/-- The first three letters of the name of a month are all of it, or letters are left. -/
theorem monthName_left (date : Date) (rest : List Char) :
  (monthNames.getD (date.month - 1) "").toList.drop 3 = [] ∨
    IsRefused [.blank ' ', zeros .year]
      ((monthNames.getD (date.month - 1) "").toList.drop 3 ++ rest)
  := by
  obtain ⟨_, hletters⟩ := monthName_letters date true
  generalize hleft : (monthNames.getD (date.month - 1) "").toList.drop 3 = left
  cases left with
  | nil => exact .inl rfl
  | cons letter letters =>
      have hall : ∀ c ∈ letter :: letters, c.isAlpha = true := by
        intro c hc
        apply hletters c
        rw [nameText_true, hleft]
        apply List.mem_append_right _ hc
      have hne := List.cons_ne_nil letter letters
      right
      apply IsRefused.blank
      rw [trimStart_append hne (fun c hc => isWhiteSpace_of_isAlpha (hall c hc))]
      apply isRefused_letters hne hall

/-- A text with the whole name of the month has only its first three letters, or is not one with
these. -/
theorem isRefused_named (hlow : 0 ≤ date.year) (hhigh : date.year ≤ 9999) :
  (named true).flatMap (itemText date clock) = (named false).flatMap (itemText date clock) ∨
    IsRefused (named false) ((named true).flatMap (itemText date clock))
  := by
  obtain ⟨_, hday⟩ := date.month_day_bounds
  rw [flatMap_named hlow hhigh, flatMap_named hlow hhigh, nameText_true]
  rcases monthName_left date (' ' :: fieldText 4 .zeros date.year.natAbs) with hnil | hleft
  · rw [hnil, List.append_nil]
    exact .inl rfl
  · obtain ⟨hshort, hletters⟩ := monthName_letters date false
    right
    apply IsRefused.twoDigits rfl (by decide) (by omega) (stopsDigits_cons rfl _)
    apply IsRefused.blank
    have hblank : ∀ text, trimStart (' ' :: text) = trimStart text := fun _ => rfl
    rw [hblank, List.append_assoc, trimStart_append hshort
      (fun c hc => isWhiteSpace_of_isAlpha (hletters c hc))]
    apply IsRefused.monthName false hleft

/-- Where the month comes first, a text in which a day up to the twelfth does is read with this day
for the month, and with the month for the day. -/
theorem readDate?_monthFirst (hlow : 0 ≤ date.year) (hhigh : date.year ≤ 9999) {other : Date}
    (hyear : other.year = date.year) (hmonth : other.month = date.day)
    (hday : other.day = date.month) :
  readDate? (monthFirst '/') ((dayFirst '/').flatMap (itemText date clock)) = some other
  := by
  have hlow' : 0 ≤ other.year := by rw [hyear]; exact hlow
  have hhigh' : other.year ≤ 9999 := by rw [hyear]; exact hhigh
  have htext : (dayFirst '/').flatMap (itemText date clock)
      = (monthFirst '/').flatMap (itemText other clock) := by
    rw [flatMap_dayFirst hlow hhigh, flatMap_monthFirst hlow' hhigh', hyear, hmonth, hday]
  rw [htext]
  apply readDate?_parts rfl hlow' hhigh'

end Format

/-- The day of a month up to the twelfth is a month, and the month a day of it. -/
theorem Date.exists_exchanged {date : Date} (h : date.day ≤ 12) :
  ∃ other : Date, other.year = date.year ∧ other.month = date.day ∧ other.day = date.month
  := by
  obtain ⟨⟨hpos, hmonth⟩, _⟩ := date.month_day_bounds
  have hlength := Date.le_monthLength (isLeapYear date.year) date.day_pos h
  exact ⟨⟨date.year, date.day, date.month, date.minYear_le, date.le_maxYear, hpos, by omega⟩,
    rfl, rfl, rfl⟩

namespace DateFormats

open Format

variable {date found : Date} {clock : Clock} {items : List FormatItem}

/-! ### The formats in their order -/

/-- The formats that are accepted by default, with their items. -/
def accepted : List (String × List FormatItem) :=
  [("%Y-%m-%d", yearFirst '-'), ("%d-%m-%Y", dayFirst '-'), ("%m/%d/%Y", monthFirst '/'),
   ("%d/%m/%Y", dayFirst '/'), ("%d.%m.%Y", dayFirst '.'), ("%Y%m%d", digitsOnly),
   ("%d %b %Y", named false), ("%d %B %Y", named true)]

theorem formats_default :
  default.formats = accepted.map Prod.fst
  := rfl

theorem ofText?_of_mem_accepted {format : String} (h : (format, items) ∈ accepted) :
  ofText? format = some items
  := by
  have hall : accepted.all (fun pair => ofText? pair.1 = some pair.2) = true := by decide
  rw [List.all_eq_true] at hall
  exact of_decide_eq_true (hall _ h)

theorem readDateIn?_of_mem_accepted {pair : String × List FormatItem} (h : pair ∈ accepted)
    (text : List Char) :
  readDateIn? pair.1 text = Format.readDate? pair.2 text
  := by
  rw [readDateIn?, ofText?_of_mem_accepted h, Option.bind_some]

/-- A text is read in a format of which all before it refuse it: because of a mark that is not
written, or for another reason. -/
theorem readDate?_default (plain others after : List (String × List FormatItem)) {format : String}
    {reader writer : List FormatItem}
    (hsplit : accepted = plain ++ others ++ (format, reader) :: after)
    (hplain : plain.all (fun pair => refuses pair.2 writer) = true)
    (hothers : ∀ pair ∈ others, IsRefused pair.2 (writer.flatMap (itemText date clock)))
    (hread : Format.readDate? reader (writer.flatMap (itemText date clock)) = some found)
    (hlow : 0 ≤ date.year) (hhigh : date.year ≤ 9999) :
  default.readDate? (writer.flatMap (itemText date clock)) = some found
  := by
  have hfirst : default.formats.findSome?
      (fun format => readDateIn? format (writer.flatMap (itemText date clock))) = some found := by
    rw [formats_default, List.findSome?_map, List.findSome?_eq_some_iff]
    refine ⟨plain ++ others, (format, reader), after, hsplit, ?_, ?_⟩
    · rw [Function.comp_apply, readDateIn?_of_mem_accepted, hread]
      rw [hsplit]
      apply List.mem_append_right _ List.mem_cons_self
    · intro pair hpair
      rw [Function.comp_apply, readDateIn?_of_mem_accepted]
      · rcases List.mem_append.mp hpair with hplainly | hother
        · apply readDate?_eq_none_of_refuses (List.all_eq_true.mp hplain pair hplainly) hlow hhigh
        · apply readDate?_of_isRefused (hothers pair hother)
      · rw [hsplit]
        apply List.mem_append_left _ hpair
  rw [DateFormats.readDate?, hfirst, Option.some_or]

/-! ### Texts in the formats -/

/-- Each format reads its own texts. -/
theorem readDate?_accepted {format : String} (h : (format, items) ∈ accepted) (hlow : 0 ≤ date.year)
    (hhigh : date.year ≤ 9999) :
  Format.readDate? items (items.flatMap (itemText date clock)) = some date
  := by
  have hall : accepted.all (fun pair => showsDay pair.2 ∨ pair.2 = named false ∨
      pair.2 = named true) = true := by
    decide
  rcases of_decide_eq_true (List.all_eq_true.mp hall _ h) with hday | rfl | rfl
  · apply readDate?_parts hday hlow hhigh
  · apply readDate?_named false hlow hhigh
  · apply readDate?_named true hlow hhigh

/-- A text in which a day that is a month stands before a slash is read with this day for the month,
and with the month for the day. -/
theorem readDate?_dayFirst_exchanged (hlow : 0 ≤ date.year) (hhigh : date.year ≤ 9999)
    (hyear : found.year = date.year) (hmonth : found.month = date.day)
    (hday : found.day = date.month) :
  default.readDate? ((dayFirst '/').flatMap (itemText date clock)) = some found
  := by
  apply readDate?_default (accepted.take 2) [] _ rfl rfl (List.forall_mem_nil _)
    (readDate?_monthFirst hlow hhigh hyear hmonth hday) hlow hhigh

/-- A text in which a day stands before a slash that is no month, or the number of its own month, is
read as its date. -/
theorem readDate?_dayFirst (hlow : 0 ≤ date.year) (hhigh : date.year ≤ 9999)
    (hday : 12 < date.day ∨ date.day = date.month) :
  default.readDate? ((dayFirst '/').flatMap (itemText date clock)) = some date
  := by
  rcases hday with hlate | hsame
  · have haccepted : ("%d/%m/%Y", dayFirst '/') ∈ accepted := by decide
    apply readDate?_default (accepted.take 2) [("%m/%d/%Y", monthFirst '/')] _ rfl rfl _
      (readDate?_accepted haccepted hlow hhigh) hlow hhigh
    rw [List.forall_mem_singleton]
    apply isRefused_monthFirst hlow hhigh hlate
  · apply readDate?_dayFirst_exchanged hlow hhigh rfl hsame.symm hsame

/-- A text with the name of the month is read as its date. -/
theorem readDate?_default_named (hlow : 0 ≤ date.year) (hhigh : date.year ≤ 9999) (whole : Bool) :
  default.readDate? ((named whole).flatMap (itemText date clock)) = some date
  := by
  have hdigits : ∀ whole, ∀ pair ∈ [("%Y%m%d", digitsOnly)],
      IsRefused pair.2 ((named whole).flatMap (itemText date clock)) := by
    intro whole
    rw [List.forall_mem_singleton]
    apply isRefused_digitsOnly hlow hhigh
  have hshort : default.readDate? ((named false).flatMap (itemText date clock)) = some date :=
    readDate?_default (accepted.take 5) [("%Y%m%d", digitsOnly)] _ rfl rfl (hdigits false)
      (readDate?_named false hlow hhigh) hlow hhigh
  cases whole with
  | false => exact hshort
  | true =>
      rcases isRefused_named hlow hhigh with hsame | hrefused
      · rw [hsame, hshort]
      · apply readDate?_default (accepted.take 5)
          [("%Y%m%d", digitsOnly), ("%d %b %Y", named false)] _ rfl rfl _
          (readDate?_named true hlow hhigh) hlow hhigh
        rw [List.forall_mem_cons, List.forall_mem_singleton]
        exact ⟨isRefused_digitsOnly hlow hhigh true, hrefused⟩

/-- A text in a format that is accepted by default is read as its date, if no other day that is a
month stands before a slash. -/
theorem readDate?_flatMap {format : String} (h : (format, items) ∈ accepted)
    (hslash : format = "%d/%m/%Y" → 12 < date.day ∨ date.day = date.month) (hlow : 0 ≤ date.year)
    (hhigh : date.year ≤ 9999) :
  default.readDate? (items.flatMap (itemText date clock)) = some date
  := by
  have hread : Format.readDate? items (items.flatMap (itemText date clock)) = some date :=
    readDate?_accepted h hlow hhigh
  simp only [accepted, List.mem_cons, Prod.mk.injEq, List.not_mem_nil, or_false] at h
  rcases h with ⟨-, rfl⟩ | ⟨-, rfl⟩ | ⟨-, rfl⟩ | ⟨rfl, rfl⟩ | ⟨-, rfl⟩ | ⟨-, rfl⟩ | ⟨-, rfl⟩ |
    ⟨-, rfl⟩
  · exact readDate?_default [] [] _ rfl rfl (List.forall_mem_nil _) hread hlow hhigh
  · apply readDate?_default [] [("%Y-%m-%d", yearFirst '-')] _ rfl rfl _ hread hlow hhigh
    rw [List.forall_mem_singleton]
    apply isRefused_yearFirst hlow hhigh
  · exact readDate?_default (accepted.take 2) [] _ rfl rfl (List.forall_mem_nil _) hread hlow hhigh
  · exact readDate?_dayFirst hlow hhigh (hslash rfl)
  · exact readDate?_default (accepted.take 4) [] _ rfl rfl (List.forall_mem_nil _) hread hlow hhigh
  · exact readDate?_default (accepted.take 5) [] _ rfl rfl (List.forall_mem_nil _) hread hlow hhigh
  · exact readDate?_default_named hlow hhigh false
  · exact readDate?_default_named hlow hhigh true

/-- A date is read back from its text in each of the formats that are accepted by default, except
that of the two formats with slashes the one with the month first is tried first: where the day is
written first and is a month, it is read as the month, and the month as the day. -/
theorem default_readDate?_textIn? (date : Date) (hlow : 0 ≤ date.year) (hhigh : date.year ≤ 9999)
    {format : String} (h : format ∈ default.formats) :
  ∃ text, date.textIn? format = some text ∧
    ((format = "%d/%m/%Y" → 12 < date.day ∨ date.day = date.month) →
      default.readDate? text.toList = some date) ∧
    (format = "%d/%m/%Y" → date.day ≤ 12 →
      ∃ other : Date, other.year = date.year ∧ other.month = date.day ∧ other.day = date.month ∧
        default.readDate? text.toList = some other)
  := by
  rw [formats_default] at h
  obtain ⟨⟨format, items⟩, haccepted, rfl⟩ := List.mem_map.mp h
  refine ⟨_, date.textIn?_eq (ofText?_of_mem_accepted haccepted), ?_⟩
  rw [String.toList_ofList]
  constructor
  · intro hslash
    apply readDate?_flatMap haccepted hslash hlow hhigh
  · rintro rfl hday
    have hitems : ofText? "%d/%m/%Y" = some (dayFirst '/') := by decide
    obtain rfl := Option.some.inj ((ofText?_of_mem_accepted haccepted).symm.trans hitems)
    obtain ⟨other, hyear, hmonth, hmonthDay⟩ := Date.exists_exchanged hday
    exact ⟨other, hyear, hmonth, hmonthDay,
      readDate?_dayFirst_exchanged hlow hhigh hyear hmonth hmonthDay⟩

/-- In a text with slashes, the last of February is read as itself, and the first of February as the
second of January. -/
theorem default_readDate?_textIn?_february :
  (∃ text, (⟨2023, 2, 28, by decide, by decide, by decide, by decide⟩ : Date).textIn? "%d/%m/%Y"
      = some text ∧ default.readDate? text.toList
        = some ⟨2023, 2, 28, by decide, by decide, by decide, by decide⟩) ∧
    ∃ text other, (⟨2023, 2, 1, by decide, by decide, by decide, by decide⟩ : Date).textIn?
      "%d/%m/%Y" = some text ∧ default.readDate? text.toList = some other ∧ other.month = 1 ∧
        other.day = 2
  := by
  have hformat : "%d/%m/%Y" ∈ default.formats := by decide
  constructor
  · obtain ⟨text, htext, hsame, _⟩ := default_readDate?_textIn?
      ⟨2023, 2, 28, by decide, by decide, by decide, by decide⟩ (by decide) (by decide) hformat
    exact ⟨text, htext, hsame fun _ => .inl (by decide)⟩
  · obtain ⟨text, htext, _, hother⟩ := default_readDate?_textIn?
      ⟨2023, 2, 1, by decide, by decide, by decide, by decide⟩ (by decide) (by decide) hformat
    obtain ⟨other, _, hmonth, hday, hread⟩ := hother rfl (by decide)
    exact ⟨text, other, htext, hread, hmonth, hday⟩

/-- Not every date is read back from its text in a format that is accepted by default: the first of
February is not. -/
theorem not_default_readDate?_textIn? :
  ¬ ∀ date : Date, 1000 ≤ date.year → date.year ≤ 9999 → ∀ format ∈ default.formats,
    ∃ text, date.textIn? format = some text ∧ default.readDate? text.toList = some date
  := by
  intro h
  obtain ⟨text, htext, hread⟩ := h ⟨2023, 2, 1, by decide, by decide, by decide, by decide⟩
    (by decide) (by decide) "%d/%m/%Y" (by decide)
  have hslashes : (⟨2023, 2, 1, by decide, by decide, by decide, by decide⟩ : Date).textIn?
      "%d/%m/%Y" = some "01/02/2023" := by decide
  have hjanuary : default.readDate? "01/02/2023".toList
      = some ⟨2023, 1, 2, by decide, by decide, by decide, by decide⟩ := by decide
  obtain rfl := Option.some.inj (htext.symm.trans hslashes)
  cases hread.symm.trans hjanuary

end DateFormats

end RowFilter
