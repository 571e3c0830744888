import RowFilter.Calendar.Dates
import RowFilter.Proofs.Calendar.Items

/-!
# Formats of dates

A date in a format of its year, its month and its day is read back from its text, the month being
shown by its number or by its name (`Format.readDate?_parts`, `Format.readDate?_named`).  A format
that asks for a mark that is not written in another one reads none of the texts in it
(`Format.readDate?_eq_none_of_refuses`).
-/

namespace RowFilter

/-- The text of a date in a format, nothing when the format is none. -/
def Date.textIn? (date : Date) (format : String) : Option String :=
  (Format.ofText? format).map fun items => Format.write items date Clock.midnight

theorem Date.textIn?_eq {format : String} {items : List FormatItem}
    (h : Format.ofText? format = some items) (date : Date) :
  date.textIn? format
    = some (String.ofList (items.flatMap (Format.itemText date Clock.midnight)))
  := by
  rw [Date.textIn?, h, Option.map_some, Format.write]

namespace Format

variable {date : Date} {clock : Clock}

/-! ### Names -/

/-- The letters by which a name is told from others. -/
def stem (name : String) : List Char :=
  (name.toList.take 3).map Char.toLower

/-- Whether two names are told apart by their first three letters. -/
def AreApart (a b : String) : Prop :=
  (stem a).length = (stem b).length ∧ stem a ≠ stem b

instance (a b : String) : Decidable (AreApart a b) :=
  inferInstanceAs (Decidable (_ ∧ _))

theorem readWord_append (word rest : List Char) :
  readWord word (word ++ rest) = some rest
  := by
  induction word with
  | nil => rfl
  | cons c word ih => rw [List.cons_append, readWord, if_pos rfl, ih]

theorem readWord_eq_none {word other : List Char}
    (hlength : (word.map Char.toLower).length = (other.map Char.toLower).length)
    (hne : word.map Char.toLower ≠ other.map Char.toLower) (rest : List Char) :
  readWord word (other ++ rest) = none
  := by
  induction word generalizing other with
  | nil =>
      cases other with
      | nil => cases hne rfl
      | cons d other => cases hlength
  | cons c word ih =>
      cases other with
      | nil => cases hlength
      | cons d other =>
          rw [List.cons_append, readWord]
          split
          · next hsame =>
              apply ih (Nat.succ.inj hlength)
              intro hequal
              apply hne
              rw [List.map_cons, List.map_cons, hsame, hequal]
          · rfl

theorem nameText_eq (whole : Bool) (names : List String) (index : Nat) :
  nameText whole names index
    = (names.getD index "").toList.take 3 ++
      (if whole then (names.getD index "").toList.drop 3 else [])
  := by
  cases whole with
  | false => exact (List.append_nil _).symm
  | true => exact (List.take_append_drop 3 _).symm

/-- A name is read back from a list of names that are told apart. -/
theorem readName_nameText {names : List String} (hnames : names.Pairwise AreApart) {index : Nat}
    (hindex : index < names.length) (whole : Bool) (before : Nat) (rest : List Char) :
  readName whole before names (nameText whole names index ++ rest) = some (before + index, rest)
  := by
  induction names generalizing before index with
  | nil => cases hindex
  | cons name names ih =>
      obtain ⟨hname, hlater⟩ := List.pairwise_cons.mp hnames
      rw [readName]
      cases index with
      | zero =>
          rw [nameText_eq, List.append_assoc, List.getD_cons_zero, readWord_append]
          cases whole with
          | false => rfl
          | true => simp [readWord_append]
      | succ index =>
          have hbound : index < names.length := Nat.lt_of_succ_lt_succ hindex
          have hother : names.getD index "" ∈ names := by
            rw [List.getD_eq_getElem?_getD, List.getElem?_eq_getElem hbound, Option.getD_some]
            apply List.getElem_mem
          obtain ⟨hlength, hne⟩ := hname _ hother
          have hnone :
              readWord (name.toList.take 3) (nameText whole names index ++ rest) = none := by
            rw [nameText_eq, List.append_assoc]
            apply readWord_eq_none hlength hne
          have htext : nameText whole (name :: names) (index + 1) = nameText whole names index :=
            rfl
          rw [htext, hnone]
          dsimp only
          rw [ih hlater hbound, Nat.add_assoc, Nat.add_comm 1]

theorem pairwise_monthNames :
  monthNames.Pairwise AreApart
  := by
  decide

theorem readsBack_monthName (whole : Bool) (rest : List Char) :
  ReadsBack date clock (.monthName whole) [(.month, (date.month : Int))] rest
  := by
  obtain ⟨⟨hlow, hhigh⟩, _⟩ := date.month_day_bounds
  have hindex : date.month - 1 < monthNames.length := by
    change date.month - 1 < 12
    omega
  have hmonth : 1 + (date.month - 1) = date.month := by omega
  rw [ReadsBack, itemText, readItem, readName_nameText pairwise_monthNames hindex, hmonth]
  rfl

/-! ### Parts of dates -/

/-- Whether an item is a mark or shows the year, the month or the day of the month. -/
def isPart : FormatItem → Bool
  | .literal _ | .monthName _ => true
  | .number number padding =>
    [zeros .year, zeros .month, zeros .day].contains (.number number padding)
  | _ => false

theorem isPart_cases {item : FormatItem} (h : isPart item = true) :
  (∃ c, item = .literal c) ∨ (∃ whole, item = .monthName whole) ∨
    item = zeros .year ∨ item = zeros .month ∨ item = zeros .day
  := by
  cases item with
  | literal c => exact .inl ⟨c, rfl⟩
  | monthName whole => exact .inr (.inl ⟨whole, rfl⟩)
  | number number padding =>
      simp only [isPart, List.contains_iff_mem, List.mem_cons, List.not_mem_nil, or_false] at h
      exact .inr (.inr h)
  | _ => cases h

/-- The fields of a date that such an item shows. -/
def partFields (date : Date) : FormatItem → List (CalendarField × Int)
  | .number .year _ => [(.year, date.year)]
  | .number .month _ | .monthName _ => [(.month, (date.month : Int))]
  | .number .day _ => [(.day, (date.day : Int))]
  | _ => []

/-- A year up to 9999 is written in four digits. -/
theorem yearText_eq {year : Int} (hlow : 0 ≤ year) (hhigh : year ≤ 9999) :
  yearText .zeros year = fieldText 4 .zeros year.natAbs ∧ year.natAbs < tenPow 4
  := by
  rw [yearText, if_neg (by omega), if_neg (by omega)]
  refine ⟨rfl, ?_⟩
  change year.natAbs < 10000
  omega

/-- A year in four digits is read back, however the text goes on. -/
theorem readsBack_fourDigits (hlow : 0 ≤ date.year) (hhigh : date.year ≤ 9999)
    (rest : List Char) :
  ReadsBack date clock (zeros .year) [(.year, date.year)] rest
  := by
  obtain ⟨htext, hfits⟩ := yearText_eq hlow hhigh
  have habs : (date.year.natAbs : Int) = date.year := by omega
  apply readsBack_of_readNumber _ (year_range date)
  rw [numberText, htext, readNumber_fieldText (by decide) hfits rfl, habs]

theorem readsBack_part {item : FormatItem} (hitem : isPart item = true) (hlow : 0 ≤ date.year)
    (hhigh : date.year ≤ 9999) (rest : List Char) :
  ReadsBack date clock item (partFields date item) rest
  := by
  rcases isPart_cases hitem with ⟨c, rfl⟩ | ⟨whole, rfl⟩ | rfl | rfl | rfl
  · apply readsBack_literal
  · apply readsBack_monthName
  · apply readsBack_fourDigits hlow hhigh
  · apply readsBack_month
  · apply readsBack_day

theorem allReadBack_parts {items : List FormatItem} (hitems : ∀ item ∈ items, isPart item = true)
    (hlow : 0 ≤ date.year) (hhigh : date.year ≤ 9999) (rest : List Char) :
  AllReadBack date clock items (items.flatMap (partFields date)) rest
  := by
  induction items with
  | nil => exact .nil rest
  | cons item items ih =>
      rw [List.forall_mem_cons] at hitems
      exact .cons (readsBack_part hitems.1 hlow hhigh _) (ih hitems.2)

/-- What is shown of a date is true of it. -/
theorem ofMoment_of_mem_dayFields {pair : CalendarField × Int} (h : pair ∈ dayFields date) :
  FieldValues.ofMoment date clock pair.1 = some pair.2
  := by
  simp only [dayFields, List.mem_cons, List.not_mem_nil, or_false] at h
  rcases h with rfl | rfl | rfl <;> rfl

/-- A date is read back in items that show its year, its month, its day and nothing else. -/
theorem readDate?_of_allReadBack {items : List FormatItem} {shown : List (CalendarField × Int)}
    (h : AllReadBack date clock items shown []) (hshown : ∀ pair ∈ shown, pair ∈ dayFields date)
    (hall : ∀ pair ∈ dayFields date, pair ∈ shown) :
  readDate? items (items.flatMap (itemText date clock)) = some date
  := by
  obtain ⟨values, hread, hvalues, hfields⟩ :=
    h.read? fun pair hpair => ofMoment_of_mem_dayFields (hshown pair hpair)
  have hday := fun pair hpair => hfields pair (hall pair hpair)
  simp only [dayFields, List.forall_mem_cons] at hday
  rw [readDate?, hread, Option.bind_some, hvalues.date?_eq hday.1 hday.2.1 hday.2.2.1]

theorem mem_dayFields_of_mem_partFields {item : FormatItem} {pair : CalendarField × Int}
    (h : pair ∈ partFields date item) :
  pair ∈ dayFields date
  := by
  rw [partFields.eq_def] at h
  split at h <;> simp_all [dayFields]

/-- Whether items are parts of dates, with the year, the month and the day of the month among
them. -/
def showsDay (items : List FormatItem) : Bool :=
  items.all isPart && [.year, .month, .day].all fun number => items.contains (zeros number)

/-- A date is read back in parts that show its year, its month and its day. -/
theorem readDate?_parts {items : List FormatItem} (h : showsDay items = true)
    (hlow : 0 ≤ date.year) (hhigh : date.year ≤ 9999) :
  readDate? items (items.flatMap (itemText date clock)) = some date
  := by
  rw [showsDay, Bool.and_eq_true, List.all_eq_true] at h
  obtain ⟨hitems, hnumbers⟩ := h
  simp only [List.all_cons, List.all_nil, Bool.and_true, Bool.and_eq_true,
    List.contains_iff_mem] at hnumbers
  obtain ⟨hyear, hmonth, hday⟩ := hnumbers
  apply readDate?_of_allReadBack (allReadBack_parts hitems hlow hhigh [])
  · intro pair hpair
    obtain ⟨item, _, hpair⟩ := List.mem_flatMap.mp hpair
    apply mem_dayFields_of_mem_partFields hpair
  · simp only [dayFields, List.forall_mem_cons]
    refine ⟨?_, ?_, ?_, List.forall_mem_nil _⟩
    · apply List.mem_flatMap_of_mem hyear (List.mem_singleton_self _)
    · apply List.mem_flatMap_of_mem hmonth (List.mem_singleton_self _)
    · apply List.mem_flatMap_of_mem hday (List.mem_singleton_self _)

/-! ### The formats -/

/-- The year, the month and the day of the month with a mark between them. -/
def yearFirst (mark : Char) : List FormatItem :=
  [zeros .year, .literal mark, zeros .month, .literal mark, zeros .day]

/-- The day of the month, the month and the year with a mark between them. -/
def dayFirst (mark : Char) : List FormatItem :=
  [zeros .day, .literal mark, zeros .month, .literal mark, zeros .year]

/-- The month, the day of the month and the year with a mark between them. -/
def monthFirst (mark : Char) : List FormatItem :=
  [zeros .month, .literal mark, zeros .day, .literal mark, zeros .year]

/-- The year, the month and the day of the month in eight digits. -/
def digitsOnly : List FormatItem :=
  [zeros .year, zeros .month, zeros .day]

/-- The day of the month, the name of the month and the year with blanks between them. -/
def named (whole : Bool) : List FormatItem :=
  [zeros .day, .blank ' ', .monthName whole, .blank ' ', zeros .year]

/-! ### Texts in the formats -/

theorem flatMap_yearFirst (hlow : 0 ≤ date.year) (hhigh : date.year ≤ 9999) (mark : Char) :
  (yearFirst mark).flatMap (itemText date clock)
    = fieldText 4 .zeros date.year.natAbs ++ mark :: (fieldText 2 .zeros date.month ++ mark ::
      fieldText 2 .zeros date.day)
  := by
  simp [yearFirst, zeros, itemText, numberText, (yearText_eq hlow hhigh).1]

theorem flatMap_dayFirst (hlow : 0 ≤ date.year) (hhigh : date.year ≤ 9999) (mark : Char) :
  (dayFirst mark).flatMap (itemText date clock)
    = fieldText 2 .zeros date.day ++ mark :: (fieldText 2 .zeros date.month ++ mark ::
      fieldText 4 .zeros date.year.natAbs)
  := by
  simp [dayFirst, zeros, itemText, numberText, (yearText_eq hlow hhigh).1]

theorem flatMap_monthFirst (hlow : 0 ≤ date.year) (hhigh : date.year ≤ 9999) (mark : Char) :
  (monthFirst mark).flatMap (itemText date clock)
    = fieldText 2 .zeros date.month ++ mark :: (fieldText 2 .zeros date.day ++ mark ::
      fieldText 4 .zeros date.year.natAbs)
  := by
  simp [monthFirst, zeros, itemText, numberText, (yearText_eq hlow hhigh).1]

theorem flatMap_digitsOnly (hlow : 0 ≤ date.year) (hhigh : date.year ≤ 9999) :
  digitsOnly.flatMap (itemText date clock)
    = fieldText 4 .zeros date.year.natAbs ++ (fieldText 2 .zeros date.month ++
      fieldText 2 .zeros date.day)
  := by
  simp [digitsOnly, zeros, itemText, numberText, (yearText_eq hlow hhigh).1]

theorem flatMap_named (hlow : 0 ≤ date.year) (hhigh : date.year ≤ 9999) (whole : Bool) :
  (named whole).flatMap (itemText date clock)
    = fieldText 2 .zeros date.day ++ ' ' :: (nameText whole monthNames (date.month - 1) ++ ' ' ::
      fieldText 4 .zeros date.year.natAbs)
  := by
  simp [named, zeros, itemText, numberText, (yearText_eq hlow hhigh).1]

/-! ### Letters -/

theorem toNat_of_isAlpha {c : Char} (h : c.isAlpha = true) :
  (65 ≤ c.toNat ∧ c.toNat ≤ 90) ∨ (97 ≤ c.toNat ∧ c.toNat ≤ 122)
  := by
  have hletter : (c.isUpper || c.isLower) = true := h
  rcases Bool.or_eq_true_iff.mp hletter with hupper | hlower
  · exact .inl (of_decide_eq_true hupper)
  · obtain ⟨hlow, hhigh⟩ := Bool.and_eq_true_iff.mp hlower
    exact .inr ⟨of_decide_eq_true hlow, of_decide_eq_true hhigh⟩

theorem isDigit_of_isAlpha {c : Char} (h : c.isAlpha = true) :
  c.isDigit = false
  := by
  have hrange := toNat_of_isAlpha h
  rw [← Bool.not_eq_true, Char.isDigit, Bool.and_eq_true, decide_eq_true_iff, decide_eq_true_iff]
  rintro ⟨hlow, hhigh⟩
  have hdigit : c.toNat ≤ 57 := hhigh
  omega

theorem isWhiteSpace_of_isAlpha {c : Char} (h : c.isAlpha = true) :
  isWhiteSpace c = false
  := by
  have hrange := toNat_of_isAlpha h
  rw [← Bool.not_eq_true, isWhiteSpace, inRanges, List.any_eq_true]
  rintro ⟨range, hmem, hc⟩
  rw [Bool.and_eq_true, decide_eq_true_iff, decide_eq_true_iff] at hc
  simp only [whiteSpaceRanges, List.mem_cons, List.not_mem_nil, or_false] at hmem
  rcases hmem with rfl | rfl | rfl | rfl | rfl | rfl | rfl | rfl | rfl | rfl <;> omega

/-- The name of the month is written in letters, at least one. -/
theorem monthName_letters (date : Date) (whole : Bool) :
  nameText whole monthNames (date.month - 1) ≠ [] ∧
    ∀ c ∈ nameText whole monthNames (date.month - 1), c.isAlpha = true
  := by
  have hall : ∀ whole : Bool, ∀ index : Fin 12, (nameText whole monthNames index).isEmpty = false ∧
      (nameText whole monthNames index).all Char.isAlpha = true := by
    decide
  obtain ⟨⟨hlow, hhigh⟩, _⟩ := date.month_day_bounds
  obtain ⟨hne, hletters⟩ := hall whole ⟨date.month - 1, by omega⟩
  exact ⟨List.isEmpty_eq_false_iff.mp hne, List.all_eq_true.mp hletters⟩

/-! ### Dates with names -/

/-- White space is read back before an item that is written in other characters. -/
theorem readsBack_blank_before (item : FormatItem) (items : List FormatItem) (rest : List Char)
    (hne : itemText date clock item ≠ [])
    (h : ∀ c ∈ itemText date clock item, isWhiteSpace c = false) :
  ReadsBack date clock (.blank ' ') [] ((item :: items).flatMap (itemText date clock) ++ rest)
  := by
  rw [List.flatMap_cons, List.append_assoc]
  apply readsBack_blank rfl (trimStart_append hne h _)

/-- A date with the name of its month is read back. -/
theorem readDate?_named (whole : Bool) (hlow : 0 ≤ date.year) (hhigh : date.year ≤ 9999) :
  readDate? (named whole) ((named whole).flatMap (itemText date clock)) = some date
  := by
  obtain ⟨hname, hletters⟩ := monthName_letters date whole
  have hyear : itemText date clock (zeros .year) = fieldText 4 .zeros date.year.natAbs :=
    (yearText_eq hlow hhigh).1
  have hbeforeName : ReadsBack date clock (.blank ' ') []
      ([.monthName whole, .blank ' ', zeros .year].flatMap (itemText date clock) ++ []) :=
    readsBack_blank_before _ _ _ hname fun c hc => isWhiteSpace_of_isAlpha (hletters c hc)
  have hbeforeYear : ReadsBack date clock (.blank ' ') []
      ([zeros .year].flatMap (itemText date clock) ++ []) := by
    apply readsBack_blank_before
    · rw [hyear]
      apply fieldText_ne_nil
    · intro c hc
      rw [hyear] at hc
      apply isWhiteSpace_of_isDigit (isDigit_of_mem_fieldText hc)
  have hitems : AllReadBack date clock (named whole)
      [(.day, (date.day : Int)), (.month, (date.month : Int)), (.year, date.year)] [] :=
    .cons readsBack_day
      (.cons hbeforeName
        (.cons (readsBack_monthName whole _)
          (.cons hbeforeYear
            (.cons (readsBack_fourDigits hlow hhigh _) (.nil [])))))
  apply readDate?_of_allReadBack hitems
  · simp [dayFields]
  · simp [dayFields]

/-! ### Marks -/

/-- Whether a format does not write a mark: none of its items is this mark, which is not a blank,
a digit or a letter either. -/
def lacks (writer : List FormatItem) (mark : Char) : Bool :=
  (writer.all fun item => isPart item || item == .blank ' ') && !mark.isAlphanum && mark != ' ' &&
    !writer.contains (.literal mark)

/-- Whether a format asks for a mark that another one does not write. -/
def refuses (reader writer : List FormatItem) : Bool :=
  reader.any fun item =>
    match item with
    | .literal mark => lacks writer mark
    | _ => false

/-- What is written of a date is digits, letters and marks. -/
theorem mem_itemText {item : FormatItem} (hitem : isPart item = true) (hlow : 0 ≤ date.year)
    (hhigh : date.year ≤ 9999) {c : Char} (h : c ∈ itemText date clock item) :
  c.isAlphanum = true ∨ item = .literal c
  := by
  rw [Char.isAlphanum, Bool.or_eq_true]
  rcases isPart_cases hitem with ⟨mark, rfl⟩ | ⟨whole, rfl⟩ | rfl | rfl | rfl
  · exact .inr (by rw [List.mem_singleton.mp h])
  · exact .inl (.inl ((monthName_letters date whole).2 c h))
  · rw [zeros, itemText, numberText, (yearText_eq hlow hhigh).1] at h
    exact .inl (.inr (isDigit_of_mem_fieldText h))
  · exact .inl (.inr (isDigit_of_mem_fieldText h))
  · exact .inl (.inr (isDigit_of_mem_fieldText h))

/-- A mark that a format does not write is in none of its texts. -/
theorem notMem_of_lacks {writer : List FormatItem} {mark : Char} (h : lacks writer mark = true)
    (hlow : 0 ≤ date.year) (hhigh : date.year ≤ 9999) :
  mark ∉ writer.flatMap (itemText date clock)
  := by
  simp only [lacks, Bool.and_eq_true, List.all_eq_true, Bool.or_eq_true, beq_iff_eq,
    Bool.not_eq_true', bne_iff_ne, List.contains_eq_mem, decide_eq_false_iff_not] at h
  obtain ⟨⟨⟨hwriter, halphanum⟩, hspace⟩, hmark⟩ := h
  intro hmem
  obtain ⟨item, hitem, hc⟩ := List.mem_flatMap.mp hmem
  rcases hwriter item hitem with hpart | rfl
  · rcases mem_itemText hpart hlow hhigh hc with hplain | rfl
    · cases hplain.symm.trans halphanum
    · exact hmark hitem
  · exact hspace (List.mem_singleton.mp hc)

theorem readDate?_eq_none_of_notMem {reader : List FormatItem} {text : List Char} {mark : Char}
    (hreader : FormatItem.literal mark ∈ reader) (htext : mark ∉ text) :
  readDate? reader text = none
  := by
  have hnone : readItems reader FieldValues.none text = none := by
    rw [Option.eq_none_iff_forall_ne_some]
    rintro ⟨values, rest⟩ hread
    exact htext (mem_of_readItems hreader hread)
  rw [readDate?, read?, hnone]
  rfl

/-- A format reads no text in another one that it refuses. -/
theorem readDate?_eq_none_of_refuses {reader writer : List FormatItem}
    (h : refuses reader writer = true) (hlow : 0 ≤ date.year) (hhigh : date.year ≤ 9999) :
  readDate? reader (writer.flatMap (itemText date clock)) = none
  := by
  obtain ⟨item, hitem, hmark⟩ := List.any_eq_true.mp h
  split at hmark
  · apply readDate?_eq_none_of_notMem hitem (notMem_of_lacks hmark hlow hhigh)
  · cases hmark

end Format

end RowFilter
