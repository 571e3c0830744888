import RowFilter.Proofs.Calendar.Readback

/-!
# Reading items

What an item leaves of a text is an end of it (`Format.readItem_suffix`).  So a text that is read in
a format holds all characters that stand for themselves in it (`Format.mem_of_readItems`).
-/

namespace RowFilter

namespace Format

variable {text rest : List Char}

/-! ### Digits -/

/-- What is read in digits is the text up to what is left. -/
theorem readDigits_eq_some {limit n : Nat} (h : readDigits limit text = some (n, rest)) :
  ∃ digits, text = digits ++ rest ∧ (∀ c ∈ digits, c.isDigit = true) ∧ digitsValue 0 digits = n
  := by
  rw [readDigits] at h
  split at h
  · cases h
  · obtain ⟨rfl, rfl⟩ := Prod.mk.inj (Option.some.inj h)
    have hprefix := (List.takeWhile_prefix Char.isDigit).trans (List.take_prefix limit text)
    exact ⟨_, (List.prefix_iff_eq_append.mp hprefix).symm,
      List.all_eq_true.mp List.all_takeWhile, rfl⟩

/-- What is read as the fraction of a second is the text up to what is left. -/
theorem readNanoseconds_eq_some {n : Nat} (h : readNanoseconds text = some (n, rest)) :
  ∃ digits, text = digits ++ rest ∧ digits ≠ [] ∧ (∀ c ∈ digits, c.isDigit = true) ∧
    digitsValue 0 (digits.take 9) * tenPow (9 - digits.length) = n
  := by
  rw [readNanoseconds] at h
  split at h
  · cases h
  · next hne =>
      obtain ⟨rfl, rfl⟩ := Prod.mk.inj (Option.some.inj h)
      have hprefix : text.takeWhile Char.isDigit <+: text := List.takeWhile_prefix Char.isDigit
      have hdigits : text.takeWhile Char.isDigit ≠ [] := by
        intro hnil
        apply hne
        rw [hnil]
        rfl
      have hkept := length_kept (text.takeWhile Char.isDigit)
      exact ⟨_, (List.prefix_iff_eq_append.mp hprefix).symm, hdigits,
        List.all_eq_true.mp List.all_takeWhile, by rw [hkept]⟩

/-! ### What is left -/

theorem readDigits_suffix {limit n : Nat} (h : readDigits limit text = some (n, rest)) :
  rest <:+ text
  := by
  obtain ⟨digits, rfl, _⟩ := readDigits_eq_some h
  apply List.suffix_append

theorem readNanoseconds_suffix {n : Nat} (h : readNanoseconds text = some (n, rest)) :
  rest <:+ text
  := by
  obtain ⟨digits, rfl, _⟩ := readNanoseconds_eq_some h
  apply List.suffix_append

theorem readNumber_suffix {number : CalendarNumber} {n : Int}
    (h : readNumber number text = some (n, rest)) :
  rest <:+ text
  := by
  apply List.IsSuffix.trans _ (List.dropWhile_suffix isWhiteSpace)
  rw [readNumber, trimStart] at h
  generalize text.dropWhile isWhiteSpace = text at h ⊢
  dsimp only at h
  split at h
  · split at h
    · obtain ⟨⟨n, rest⟩, hread, ⟨⟩⟩ := Option.map_eq_some_iff.mp h
      apply (readDigits_suffix hread).trans (List.suffix_cons _ _)
    · obtain ⟨⟨n, rest⟩, hread, ⟨⟩⟩ := Option.map_eq_some_iff.mp h
      apply (readDigits_suffix hread).trans (List.suffix_cons _ _)
    · obtain ⟨⟨n, rest⟩, hread, ⟨⟩⟩ := Option.map_eq_some_iff.mp h
      apply readDigits_suffix hread
  · obtain ⟨⟨n, rest⟩, hread, ⟨⟩⟩ := Option.map_eq_some_iff.mp h
    apply readDigits_suffix hread

theorem readWord_suffix {word : List Char} (h : readWord word text = some rest) :
  rest <:+ text
  := by
  induction word generalizing text with
  | nil =>
      obtain rfl := Option.some.inj h
      apply List.suffix_refl
  | cons c word ih =>
      cases text with
      | nil => cases h
      | cons d text =>
          rw [readWord] at h
          split at h
          · apply (ih h).trans (List.suffix_cons _ _)
          · cases h

theorem readName_suffix {whole : Bool} {names : List String} {before n : Nat}
    (h : readName whole before names text = some (n, rest)) :
  rest <:+ text
  := by
  induction names generalizing before with
  | nil => cases h
  | cons name names ih =>
      rw [readName] at h
      split at h
      · apply ih h
      · next after hbegins =>
          apply List.IsSuffix.trans _ (readWord_suffix hbegins)
          split at h
          · obtain ⟨_, rfl⟩ := Prod.mk.inj (Option.some.inj h)
            cases hends : readWord (name.toList.drop 3) after with
            | none => apply List.suffix_refl
            | some rest => apply readWord_suffix hends
          · obtain ⟨_, rfl⟩ := Prod.mk.inj (Option.some.inj h)
            apply List.suffix_refl

theorem readPlaces_suffix {count n : Nat} (h : readPlaces count text = some (n, rest)) :
  rest <:+ text
  := by
  rw [readPlaces] at h
  split at h
  · next hread =>
      split at h
      · obtain ⟨_, rfl⟩ := Prod.mk.inj (Option.some.inj h)
        apply readDigits_suffix hread
      · cases h
  · cases h

theorem readTwoDigits_suffix {limit n : Nat} (h : readTwoDigits limit text = some (n, rest)) :
  rest <:+ text
  := by
  rw [readTwoDigits.eq_def] at h
  split at h
  · next a b after =>
      obtain ⟨m, _, hlimit⟩ := Option.bind_eq_some_iff.mp h
      split at hlimit
      · obtain ⟨_, rfl⟩ := Prod.mk.inj (Option.some.inj hlimit)
        apply List.suffix_append [a, b]
      · cases hlimit
  · cases h

theorem readSignedOffset_suffix {form : OffsetForm} {n : Int}
    (h : readSignedOffset form text = some (n, rest)) :
  rest <:+ text
  := by
  rw [readSignedOffset.eq_def] at h
  split at h
  · cases h
  · next sign text =>
      apply List.IsSuffix.trans _ (List.suffix_cons sign text)
      split at h
      · simp only [bind, Option.bind_eq_some_iff, Prod.exists, pure] at h
        obtain ⟨hours, after, hhours, h⟩ := h
        apply List.IsSuffix.trans _ (readTwoDigits_suffix hhours)
        apply List.IsSuffix.trans _ (List.dropWhile_suffix fun c => c = ':' || isWhiteSpace c)
        split at h
        · obtain ⟨_, rfl⟩ := Prod.mk.inj (Option.some.inj h)
          apply List.suffix_refl
        · obtain ⟨⟨minutes, rest⟩, hminutes, ⟨⟩⟩ := Option.bind_eq_some_iff.mp h
          apply readTwoDigits_suffix hminutes
      · cases h

theorem readOffset_suffix {form : OffsetForm} {n : Int}
    (h : readOffset form text = some (n, rest)) :
  rest <:+ text
  := by
  apply List.IsSuffix.trans _ (List.dropWhile_suffix isWhiteSpace)
  rw [readOffset, trimStart] at h
  generalize text.dropWhile isWhiteSpace = text at h ⊢
  split at h
  · next hword =>
      obtain ⟨_, rfl⟩ := Prod.mk.inj (Option.some.inj h)
      rcases Option.or_eq_some_iff.mp hword with hzulu | ⟨_, huniversal⟩
      · split at hzulu
        · cases hzulu
        · apply readWord_suffix hzulu
      · split at huniversal
        · apply readWord_suffix huniversal
        · cases huniversal
  · apply readSignedOffset_suffix h

/-- What an item leaves of a text is an end of it. -/
theorem readItem_suffix {item : FormatItem} {shown : List (CalendarField × Int)}
    (h : readItem item text = some (shown, rest)) :
  rest <:+ text
  := by
  cases item with
  | literal c =>
      cases text with
      | nil => cases h
      | cons d text =>
          rw [readItem] at h
          split at h
          · obtain ⟨_, rfl⟩ := Prod.mk.inj (Option.some.inj h)
            apply List.suffix_cons
          · cases h
  | blank c =>
      obtain ⟨_, rfl⟩ := Prod.mk.inj (Option.some.inj h)
      apply List.dropWhile_suffix
  | number number padding =>
      simp only [readItem, bind, Option.bind_eq_some_iff, Prod.exists] at h
      obtain ⟨n, after, hread, h⟩ := h
      split at h
      · obtain ⟨_, rfl⟩ := Prod.mk.inj (Option.some.inj h)
        apply readNumber_suffix hread
      · cases h
  | monthName whole =>
      obtain ⟨⟨n, rest⟩, hread, ⟨⟩⟩ := Option.map_eq_some_iff.mp h
      apply readName_suffix hread
  | weekdayName whole =>
      obtain ⟨⟨n, rest⟩, hread, ⟨⟩⟩ := Option.map_eq_some_iff.mp h
      apply readName_suffix hread
  | half capital =>
      rw [readItem] at h
      split at h
      · next hread =>
          obtain ⟨_, rfl⟩ := Prod.mk.inj (Option.some.inj h)
          apply readWord_suffix hread
      · next hread =>
          obtain ⟨_, rfl⟩ := Prod.mk.inj (Option.some.inj h)
          apply readWord_suffix hread
      · cases h
  | fraction =>
      rw [readItem.eq_def] at h
      dsimp only at h
      split at h
      · obtain ⟨⟨n, rest⟩, hread, ⟨⟩⟩ := Option.map_eq_some_iff.mp h
        apply (readNanoseconds_suffix hread).trans (List.suffix_cons _ _)
      · obtain ⟨_, rfl⟩ := Prod.mk.inj (Option.some.inj h)
        apply List.suffix_refl
  | places point count =>
      cases point with
      | true =>
          rw [readItem.eq_def] at h
          dsimp only at h
          split at h
          · obtain ⟨⟨n, rest⟩, hread, ⟨⟩⟩ := Option.map_eq_some_iff.mp h
            apply (readPlaces_suffix hread).trans (List.suffix_cons _ _)
          · obtain ⟨_, rfl⟩ := Prod.mk.inj (Option.some.inj h)
            apply List.suffix_refl
      | false =>
          obtain ⟨⟨n, rest⟩, hread, ⟨⟩⟩ := Option.map_eq_some_iff.mp h
          apply readPlaces_suffix hread
  | separator =>
      cases text with
      | nil => cases h
      | cons c text =>
          rw [readItem] at h
          split at h
          · obtain ⟨_, rfl⟩ := Prod.mk.inj (Option.some.inj h)
            apply List.suffix_cons
          · cases h
  | zoneName =>
      obtain ⟨_, rfl⟩ := Prod.mk.inj (Option.some.inj h)
      apply List.dropWhile_suffix
  | offset form =>
      obtain ⟨⟨n, rest⟩, hread, ⟨⟩⟩ := Option.map_eq_some_iff.mp h
      apply readOffset_suffix hread

/-! ### Items one after the other -/

variable {items : List FormatItem} {values final : FieldValues}

theorem readItems_cons_eq_some_iff {item : FormatItem} :
  readItems (item :: items) values text = some (final, rest) ↔
    ∃ shown between next, readItem item text = some (shown, between) ∧
      setFields values shown = some next ∧ readItems items next between = some (final, rest)
  := by
  simp only [readItems, bind, Option.bind_eq_some_iff, Prod.exists]
  constructor
  · rintro ⟨shown, between, hitem, next, hset, hitems⟩
    exact ⟨shown, between, next, hitem, hset, hitems⟩
  · rintro ⟨shown, between, next, hitem, hset, hitems⟩
    exact ⟨shown, between, hitem, next, hset, hitems⟩

theorem readItems_append (before after : List FormatItem) (values : FieldValues)
    (text : List Char) :
  readItems (before ++ after) values text
    = (readItems before values text).bind fun (values, text) => readItems after values text
  := by
  induction before generalizing values text with
  | nil => rfl
  | cons item before ih =>
      rw [List.cons_append, readItems, readItems]
      simp only [bind, Option.bind_assoc, ih]

theorem readItems_of_read? (h : read? items text = some values) :
  readItems items FieldValues.none text = some (values, [])
  := by
  rw [read?] at h
  split at h
  · next hread =>
      obtain rfl := Option.some.inj h
      exact hread
  · cases h

/-- A text is read only if it holds the characters that stand for themselves. -/
theorem mem_of_readItems {c : Char} (hc : FormatItem.literal c ∈ items)
    (h : readItems items values text = some (final, rest)) :
  c ∈ text
  := by
  induction items generalizing values text with
  | nil => cases hc
  | cons item items ih =>
      obtain ⟨_, _, _, hitem, _, hitems⟩ := readItems_cons_eq_some_iff.mp h
      rcases List.mem_cons.mp hc with rfl | hc
      · cases text with
        | nil => cases hitem
        | cons d text =>
            rw [readItem] at hitem
            split at hitem
            · next hsame => exact hsame ▸ List.mem_cons_self
            · cases hitem
      · apply (readItem_suffix hitem).mem (ih hc hitems)

end Format

end RowFilter
