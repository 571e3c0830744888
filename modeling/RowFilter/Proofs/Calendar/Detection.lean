import RowFilter.Proofs.Calendar.Formats

/-!
# The format that a text gives away

A text of a date in one of the formats that are detected has the marks of its format and no others,
and its parts are as long as they are in no other of these formats: the format is detected
(`detectFormat?_flatMap`), and the date is read in it.
-/

namespace RowFilter

open Format

variable {date : Date} {clock : Clock} {text : List Char}

/-! ### Bytes -/

theorem total_append (lengths others : List Nat) :
  total (lengths ++ others) = total lengths + total others
  := by
  induction lengths with
  | nil => exact (Nat.zero_add _).symm
  | cons length lengths ih => rw [List.cons_append, total, total, ih, Nat.add_assoc]

theorem byteLength_append (text rest : List Char) :
  byteLength (text ++ rest) = byteLength text + byteLength rest
  := by
  rw [byteLength, List.map_append, total_append]
  rfl

theorem byteLength_cons (c : Char) (text : List Char) :
  byteLength (c :: text) = c.utf8Size + byteLength text
  := rfl

theorem utf8Size_of_isDigit {c : Char} (h : c.isDigit = true) :
  c.utf8Size = 1
  := by
  rw [Char.isDigit, Bool.and_eq_true, decide_eq_true_iff, decide_eq_true_iff] at h
  apply Char.utf8Size_eq_one_iff.mpr
  apply UInt32.le_trans h.2
  decide

theorem byteLength_digits {digits : List Char} (h : ∀ c ∈ digits, c.isDigit = true) :
  byteLength digits = digits.length
  := by
  induction digits with
  | nil => rfl
  | cons c digits ih =>
      rw [List.forall_mem_cons] at h
      rw [byteLength_cons, utf8Size_of_isDigit h.1, ih h.2, List.length_cons, Nat.add_comm]

/-! ### Marks -/

/-- A text is split at its marks into the numbers between them. -/
theorem splitOn_fieldTexts {mark : Char} (hmark : mark.isDigit = false) (j k l a b c : Nat) :
  (fieldText j .zeros a ++ mark :: (fieldText k .zeros b ++ mark :: fieldText l .zeros c)).splitOn
      mark
    = [fieldText j .zeros a, fieldText k .zeros b, fieldText l .zeros c]
  := by
  have hnumber : ∀ width n, mark ∉ fieldText width .zeros n := by
    intro width n hmem
    cases hmark.symm.trans (isDigit_of_mem_fieldText hmem)
  have htext :
      fieldText j .zeros a ++ mark :: (fieldText k .zeros b ++ mark :: fieldText l .zeros c)
        = [mark].intercalate [fieldText j .zeros a, fieldText k .zeros b, fieldText l .zeros c] := by
    simp [List.intercalate, List.intersperse]
  rw [htext]
  apply List.splitOn_intercalate mark _ (List.cons_ne_nil _ _)
  simp [hnumber]

theorem slashFormat?_of_notMem (h : '/' ∉ text) :
  slashFormat? text = none
  := by
  rw [slashFormat?, List.splitOn_eq_singleton h]

theorem pointFormat?_of_notMem (h : '.' ∉ text) :
  pointFormat? text = none
  := by
  rw [pointFormat?, List.splitOn_eq_singleton h]

/-- A text without a dash is detected by its slashes, by its points or by its digits. -/
theorem detectFormat?_of_notMem (h : '-' ∉ text) :
  detectFormat? text
    = ((slashFormat? text).or <| (pointFormat? text).or <|
      if byteLength text = 8 ∧ text.all Char.isDigit then some "%Y%m%d" else none)
  := by
  rw [detectFormat?, if_neg]
  rintro ⟨_, hdash, _⟩
  exact h (List.mem_of_getElem? hdash)

/-! ### The formats that are detected -/

/-- The formats that a text may give away, with their items. -/
def detected : List (String × List FormatItem) :=
  [("%Y-%m-%d", yearFirst '-'), ("%Y/%m/%d", yearFirst '/'), ("%d/%m/%Y", dayFirst '/'),
   ("%d.%m.%Y", dayFirst '.'), ("%Y%m%d", digitsOnly)]

/-- The numbers of a date have four digits, two and two. -/
theorem length_date (hlow : 0 ≤ date.year) (hhigh : date.year ≤ 9999) :
  (fieldText 4 .zeros date.year.natAbs).length = 4 ∧ (fieldText 2 .zeros date.month).length = 2 ∧
    (fieldText 2 .zeros date.day).length = 2
  := by
  obtain ⟨⟨_, hmonth⟩, hday⟩ := date.month_day_bounds
  refine ⟨?_, ?_, ?_⟩
  · apply length_fieldText (by decide) (yearText_eq hlow hhigh).2
  · apply length_fieldText (by decide)
    change date.month < 100
    omega
  · apply length_fieldText (by decide)
    change date.day < 100
    omega

theorem byteLength_date (hlow : 0 ≤ date.year) (hhigh : date.year ≤ 9999) :
  byteLength (fieldText 4 .zeros date.year.natAbs) = 4 ∧
    byteLength (fieldText 2 .zeros date.month) = 2 ∧ byteLength (fieldText 2 .zeros date.day) = 2
  := by
  have hbytes : ∀ width n,
      byteLength (fieldText width .zeros n) = (fieldText width .zeros n).length :=
    fun _ _ => byteLength_digits fun _ => isDigit_of_mem_fieldText
  rw [hbytes, hbytes, hbytes]
  apply length_date hlow hhigh

/-- A year with a dash after it, and a month with one after it, are the beginning of a date. -/
theorem detectFormat?_dashes (hlow : 0 ≤ date.year) (hhigh : date.year ≤ 9999) :
  detectFormat? ((yearFirst '-').flatMap (itemText date clock)) = some "%Y-%m-%d"
  := by
  obtain ⟨hyear, hmonth, hday⟩ := byteLength_date hlow hhigh
  have hbytes : byteLength ((yearFirst '-').flatMap (itemText date clock)) = 10 := by
    rw [flatMap_yearFirst hlow hhigh, byteLength_append, byteLength_cons, byteLength_append,
      byteLength_cons, hyear, hmonth, hday]
    decide
  obtain ⟨hfour, htwo, _⟩ := length_date hlow hhigh
  rw [detectFormat?, if_pos]
  refine ⟨hbytes, ?_, ?_⟩
  · rw [flatMap_yearFirst hlow hhigh]
    simp [hfour]
  · rw [flatMap_yearFirst hlow hhigh]
    simp [List.getElem?_append, hfour, htwo]

/-- A year in front of slashes tells that it comes first. -/
theorem detectFormat?_slashes (hlow : 0 ≤ date.year) (hhigh : date.year ≤ 9999) :
  detectFormat? ((yearFirst '/').flatMap (itemText date clock)) = some "%Y/%m/%d"
  := by
  obtain ⟨hyear, _, _⟩ := byteLength_date hlow hhigh
  rw [detectFormat?_of_notMem (notMem_of_lacks rfl hlow hhigh), flatMap_yearFirst hlow hhigh,
    slashFormat?, splitOn_fieldTexts rfl]
  dsimp only
  rw [if_pos hyear, Option.some_or]

/-- A year after slashes, and no other number of its length in front of them, tells that the day
comes first. -/
theorem detectFormat?_slashes_dayFirst (hlow : 0 ≤ date.year) (hhigh : date.year ≤ 9999) :
  detectFormat? ((dayFirst '/').flatMap (itemText date clock)) = some "%d/%m/%Y"
  := by
  obtain ⟨hyear, _, hday⟩ := byteLength_date hlow hhigh
  have hfirst : ¬ byteLength (fieldText 2 .zeros date.day) = 4 := by
    rw [hday]
    decide
  rw [detectFormat?_of_notMem (notMem_of_lacks rfl hlow hhigh), flatMap_dayFirst hlow hhigh,
    slashFormat?, splitOn_fieldTexts rfl]
  dsimp only
  rw [if_neg hfirst, if_pos hyear, Option.some_or]

theorem detectFormat?_points (hlow : 0 ≤ date.year) (hhigh : date.year ≤ 9999) :
  detectFormat? ((dayFirst '.').flatMap (itemText date clock)) = some "%d.%m.%Y"
  := by
  obtain ⟨hyear, _, _⟩ := byteLength_date hlow hhigh
  rw [detectFormat?_of_notMem (notMem_of_lacks rfl hlow hhigh),
    slashFormat?_of_notMem (notMem_of_lacks rfl hlow hhigh), flatMap_dayFirst hlow hhigh,
    pointFormat?, splitOn_fieldTexts rfl]
  dsimp only
  rw [if_pos hyear, Option.none_or, Option.some_or]

theorem detectFormat?_digits (hlow : 0 ≤ date.year) (hhigh : date.year ≤ 9999) :
  detectFormat? (digitsOnly.flatMap (itemText date clock)) = some "%Y%m%d"
  := by
  obtain ⟨hyear, hmonth, hday⟩ := byteLength_date hlow hhigh
  have hbytes : byteLength (digitsOnly.flatMap (itemText date clock)) = 8 := by
    rw [flatMap_digitsOnly hlow hhigh, byteLength_append, byteLength_append, hyear, hmonth, hday]
  have hdigits : (digitsOnly.flatMap (itemText date clock)).all Char.isDigit = true := by
    rw [flatMap_digitsOnly hlow hhigh, List.all_eq_true]
    simp only [List.mem_append]
    rintro c (hc | hc | hc) <;> exact isDigit_of_mem_fieldText hc
  rw [detectFormat?_of_notMem (notMem_of_lacks rfl hlow hhigh),
    slashFormat?_of_notMem (notMem_of_lacks rfl hlow hhigh),
    pointFormat?_of_notMem (notMem_of_lacks rfl hlow hhigh), Option.none_or, Option.none_or,
    if_pos ⟨hbytes, hdigits⟩]

/-- A text in a format that is detected gives away this format and no other. -/
theorem detectFormat?_flatMap {format : String} {items : List FormatItem}
    (h : (format, items) ∈ detected) (hlow : 0 ≤ date.year) (hhigh : date.year ≤ 9999) :
  detectFormat? (items.flatMap (itemText date clock)) = some format
  := by
  simp only [detected, List.mem_cons, Prod.mk.injEq, List.not_mem_nil, or_false] at h
  rcases h with ⟨rfl, rfl⟩ | ⟨rfl, rfl⟩ | ⟨rfl, rfl⟩ | ⟨rfl, rfl⟩ | ⟨rfl, rfl⟩
  · apply detectFormat?_dashes hlow hhigh
  · apply detectFormat?_slashes hlow hhigh
  · apply detectFormat?_slashes_dayFirst hlow hhigh
  · apply detectFormat?_points hlow hhigh
  · apply detectFormat?_digits hlow hhigh

/-- No format, but those that a text gives away. -/
def DateFormats.detecting : DateFormats := ⟨[], true⟩

theorem readDate?_detecting {format : String} (h : detectFormat? text = some format) :
  DateFormats.detecting.readDate? text = readDateIn? format text
  := by
  have hdetect : DateFormats.detecting.readDate? text
      = (detectFormat? text).bind fun format => readDateIn? format text := rfl
  rw [hdetect, h, Option.bind_some]

/-- A date in a format that is detected gives the format away, and is read back. -/
theorem detectFormat?_textIn? (date : Date) (hlow : 0 ≤ date.year) (hhigh : date.year ≤ 9999)
    {format : String}
    (h : format ∈ ["%Y-%m-%d", "%Y/%m/%d", "%d/%m/%Y", "%d.%m.%Y", "%Y%m%d"]) :
  ∃ text, date.textIn? format = some text ∧ detectFormat? text.toList = some format ∧
    DateFormats.detecting.readDate? text.toList = some date
  := by
  have hall : detected.all (fun pair => ofText? pair.1 = some pair.2 ∧ showsDay pair.2) = true := by
    decide
  obtain ⟨⟨format, items⟩, hdetected, rfl⟩ : ∃ pair ∈ detected, pair.1 = format :=
    List.mem_map.mp h
  obtain ⟨hitems, hday⟩ := of_decide_eq_true (List.all_eq_true.mp hall _ hdetected)
  have hformat : detectFormat? (items.flatMap (itemText date Clock.midnight)) = some format :=
    detectFormat?_flatMap hdetected hlow hhigh
  refine ⟨_, date.textIn?_eq hitems, ?_⟩
  rw [String.toList_ofList]
  refine ⟨hformat, ?_⟩
  rw [readDate?_detecting hformat, readDateIn?, hitems, Option.bind_some,
    readDate?_parts hday hlow hhigh]

/-- The leap day of the year zero is detected with its day first. -/
theorem detectFormat?_textIn?_leapDay :
  ∃ text, (⟨0, 2, 29, by decide, by decide, by decide, by decide⟩ : Date).textIn? "%d/%m/%Y"
      = some text ∧ detectFormat? text.toList = some "%d/%m/%Y" ∧
    DateFormats.detecting.readDate? text.toList
      = some ⟨0, 2, 29, by decide, by decide, by decide, by decide⟩
  := detectFormat?_textIn? _ (by decide) (by decide) (by decide)

end RowFilter
