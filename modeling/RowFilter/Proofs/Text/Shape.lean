import RowFilter.Text.Like

/-!
# Shapes of texts

`Like.Shape` says which texts have the shape of a pattern, item by item.  It is what `Like.fits`
decides with its table (`Like.fits_iff`).  A written pattern is read part by part
(`Like.ofChars_append`), unless a part ends in a backslash that takes the special meaning from the
first character of the next one, and a pattern without special characters is the shape of one text
(`Like.shape_ofChars_iff`).
-/

namespace RowFilter

namespace Like

/-- Whether a text has the shape of a pattern. -/
inductive Shape : List LikeItem → List Char → Prop where
  | nil : Shape [] []
  | char (c : Char) {pattern : List LikeItem} {text : List Char} (h : Shape pattern text) :
    Shape (.char c :: pattern) (c :: text)
  | anyChar (c : Char) {pattern : List LikeItem} {text : List Char} (h : Shape pattern text) :
    Shape (.anyChar :: pattern) (c :: text)
  | anyRun (run : List Char) {pattern : List LikeItem} {text : List Char}
      (h : Shape pattern text) :
    Shape (.anyRun :: pattern) (run ++ text)

/-! ### The table of the ends of a text -/

/-- The first entry of the table is that of the whole text. -/
theorem exists_fitsEnds (pattern : List LikeItem) (text : List Char) :
  ∃ later, fitsEnds pattern text = fits pattern text :: later
  := by
  have hcons : ∃ fit later, fitsEnds pattern text = fit :: later := by
    induction pattern with
    | nil => cases text <;> exact ⟨_, _, rfl⟩
    | cons item pattern ih =>
        obtain ⟨fit, later, hends⟩ := ih
        have hbefore (accepts : Char → Bool) :
            ∃ first rest, fitsBefore accepts text (fit :: later) = first :: rest := by
          rw [fitsBefore.eq_def]
          split <;> exact ⟨_, _, rfl⟩
        cases item with
        | char c =>
            rw [fitsEnds, hends]
            apply hbefore
        | anyChar =>
            rw [fitsEnds, hends]
            apply hbefore
        | anyRun =>
            rw [fitsEnds, hends]
            exact ⟨_, _, rfl⟩
  obtain ⟨fit, later, hends⟩ := hcons
  refine ⟨later, ?_⟩
  rw [fits, hends]
  rfl

/-- The entries of the table after the first one are those of the rest of the text. -/
theorem fitsEnds_cons (pattern : List LikeItem) (c : Char) (text : List Char) :
  fitsEnds pattern (c :: text) = fits pattern (c :: text) :: fitsEnds pattern text
  := by
  suffices h : (fitsEnds pattern (c :: text)).tail = fitsEnds pattern text by
    obtain ⟨later, hends⟩ := exists_fitsEnds pattern (c :: text)
    rw [hends, List.tail_cons] at h
    rw [hends, h]
  induction pattern with
  | nil => rfl
  | cons item pattern ih =>
      obtain ⟨first, hfirst⟩ := exists_fitsEnds pattern (c :: text)
      obtain ⟨later, hlater⟩ := exists_fitsEnds pattern text
      obtain rfl : first = fits pattern text :: later := by
        rw [← hlater, ← ih, hfirst, List.tail_cons]
      cases item with
      | char d => rw [fitsEnds, fitsEnds, hfirst, hlater, fitsBefore, List.tail_cons]
      | anyChar => rw [fitsEnds, fitsEnds, hfirst, hlater, fitsBefore, List.tail_cons]
      | anyRun => rw [fitsEnds, fitsEnds, hfirst, hlater, anyLater, List.tail_cons]

variable {pattern : List LikeItem}

theorem fits_char_cons (d c : Char) (text : List Char) :
  fits (.char d :: pattern) (c :: text) = (c == d && fits pattern text)
  := by
  obtain ⟨later, hlater⟩ := exists_fitsEnds pattern text
  rw [fits, fitsEnds, fitsEnds_cons, hlater]
  rfl

theorem fits_anyChar_cons (c : Char) (text : List Char) :
  fits (.anyChar :: pattern) (c :: text) = fits pattern text
  := by
  obtain ⟨later, hlater⟩ := exists_fitsEnds pattern text
  rw [fits, fitsEnds, fitsEnds_cons, hlater]
  rfl

theorem fits_anyRun_cons (c : Char) (text : List Char) :
  fits (.anyRun :: pattern) (c :: text)
    = (fits pattern (c :: text) || fits (.anyRun :: pattern) text)
  := by
  rw [fits, fitsEnds, fitsEnds_cons]
  rfl

/-- The table of the empty text has one entry. -/
theorem fitsEnds_nil (pattern : List LikeItem) :
  fitsEnds pattern [] = [fits pattern []]
  := by
  induction pattern with
  | nil => rfl
  | cons item pattern ih =>
      cases item with
      | char d => rfl
      | anyChar => rfl
      | anyRun =>
          rw [fits, fitsEnds, ih]
          rfl

theorem fits_anyRun_nil :
  fits (.anyRun :: pattern) [] = fits pattern []
  := by
  rw [fits, fitsEnds, fitsEnds_nil]
  apply Bool.or_false

/-- A run may be empty. -/
theorem fits_anyRun_of_fits {text : List Char} (h : fits pattern text = true) :
  fits (.anyRun :: pattern) text = true
  := by
  cases text with
  | nil => rw [fits_anyRun_nil, h]
  | cons c text => rw [fits_anyRun_cons, h, Bool.true_or]

/-! ### Shapes -/

/-- The table decides whether a text has the shape of a pattern. -/
theorem fits_iff {pattern : List LikeItem} {text : List Char} :
  fits pattern text = true ↔ Shape pattern text
  := by
  induction pattern generalizing text with
  | nil =>
      constructor
      · intro h
        cases text with
        | nil => exact .nil
        | cons c text => cases h
      · rintro ⟨⟩
        rfl
  | cons item pattern ih =>
      cases item with
      | char d =>
          constructor
          · intro h
            cases text with
            | nil => cases h
            | cons c text =>
                rw [fits_char_cons, Bool.and_eq_true, beq_iff_eq, ih] at h
                obtain ⟨rfl, hrest⟩ := h
                exact .char c hrest
          · rintro (_ | ⟨c, hrest⟩)
            rw [fits_char_cons, Bool.and_eq_true, beq_iff_eq, ih]
            exact ⟨rfl, hrest⟩
      | anyChar =>
          constructor
          · intro h
            cases text with
            | nil => cases h
            | cons c text =>
                rw [fits_anyChar_cons, ih] at h
                exact .anyChar c h
          · rintro (_ | _ | ⟨c, hrest⟩)
            rw [fits_anyChar_cons, ih]
            apply hrest
      | anyRun =>
          constructor
          · intro h
            induction text with
            | nil =>
                rw [fits_anyRun_nil, ih] at h
                exact .anyRun [] h
            | cons c text ihText =>
                rw [fits_anyRun_cons, Bool.or_eq_true, ih] at h
                obtain hhere | hlater := h
                · exact .anyRun [] hhere
                · obtain _ | _ | _ | ⟨run, hrest⟩ := ihText hlater
                  exact .anyRun (c :: run) hrest
          · rintro (_ | _ | _ | ⟨run, hrest⟩)
            induction run with
            | nil => apply fits_anyRun_of_fits (ih.mpr hrest)
            | cons c run ihRun =>
                rw [List.cons_append, fits_anyRun_cons, ihRun, Bool.or_true]

/-- A text has the shape of two patterns in a row if and only if it has a part of the shape of each,
one after the other. -/
theorem shape_append {first second : List LikeItem} {text : List Char} :
  Shape (first ++ second) text ↔ ∃ u v, text = u ++ v ∧ Shape first u ∧ Shape second v
  := by
  constructor
  · intro h
    induction first generalizing text with
    | nil => exact ⟨[], text, rfl, .nil, h⟩
    | cons item first ih =>
        obtain _ | ⟨c, hrest⟩ | ⟨c, hrest⟩ | ⟨run, hrest⟩ := h
        · obtain ⟨u, v, rfl, hu, hv⟩ := ih hrest
          exact ⟨c :: u, v, rfl, .char c hu, hv⟩
        · obtain ⟨u, v, rfl, hu, hv⟩ := ih hrest
          exact ⟨c :: u, v, rfl, .anyChar c hu, hv⟩
        · obtain ⟨u, v, rfl, hu, hv⟩ := ih hrest
          exact ⟨run ++ u, v, (List.append_assoc run u v).symm, .anyRun run hu, hv⟩
  · rintro ⟨u, v, rfl, hu, hv⟩
    induction hu with
    | nil => apply hv
    | char c _ ih => exact .char c ih
    | anyChar c _ ih => exact .anyChar c ih
    | anyRun run _ ih =>
        rw [List.append_assoc]
        exact .anyRun run ih

/-- Every text has the shape of any run of characters. -/
theorem shape_anyRun (text : List Char) :
  Shape [.anyRun] text
  := by
  have h := Shape.anyRun text .nil
  rwa [List.append_nil] at h

/-- A pattern of characters is the shape of those characters. -/
theorem shape_map_char {chars text : List Char} :
  Shape (chars.map .char) text ↔ text = chars
  := by
  constructor
  · intro h
    induction chars generalizing text with
    | nil =>
        cases h
        rfl
    | cons c chars ih =>
        obtain _ | ⟨_, hrest⟩ := h
        rw [ih hrest]
  · rintro rfl
    induction text with
    | nil => exact .nil
    | cons c text ih => exact .char c ih

/-- A text has the shape of a pattern behind any run if and only if its end has that shape. -/
theorem shape_anyRun_cons {pattern : List LikeItem} {text : List Char} :
  Shape (.anyRun :: pattern) text ↔ ∃ u v, text = u ++ v ∧ Shape pattern v
  := by
  rw [← List.singleton_append, shape_append]
  simp only [shape_anyRun, true_and]

/-- A text has the shape of a pattern before any run if and only if its beginning has that
shape. -/
theorem shape_append_anyRun {pattern : List LikeItem} {text : List Char} :
  Shape (pattern ++ [.anyRun]) text ↔ ∃ u v, text = u ++ v ∧ Shape pattern u
  := by
  rw [shape_append]
  simp only [shape_anyRun, and_true]

/-! ### Written patterns -/

/-- Whether the pattern ends in a backslash that would take the special meaning from a character
after it. -/
def endsOpen : List Char → Bool
  | [] => false
  | ['\\'] => true
  | '\\' :: _ :: rest => endsOpen rest
  | _ :: rest => endsOpen rest

/-- Whether a character has no special meaning in a pattern. -/
def IsPlain (c : Char) : Prop :=
  c ≠ '%' ∧ c ≠ '_' ∧ c ≠ '\\'

instance : DecidablePred IsPlain :=
  fun c => inferInstanceAs (Decidable (c ≠ '%' ∧ c ≠ '_' ∧ c ≠ '\\'))

/-- A character other than a backslash is one item of a pattern. -/
theorem ofChars_cons {c : Char} (h : c ≠ '\\') (rest : List Char) :
  ofChars (c :: rest)
    = (if c = '%' then .anyRun else if c = '_' then .anyChar else .char c) :: ofChars rest
  := by
  rw [ofChars]
  rintro _ _ rfl
  contradiction

theorem ofChars_percent (rest : List Char) :
  ofChars ('%' :: rest) = .anyRun :: ofChars rest
  := by
  rw [ofChars_cons (by decide), if_pos rfl]

theorem ofChars_underscore (rest : List Char) :
  ofChars ('_' :: rest) = .anyChar :: ofChars rest
  := by
  rw [ofChars_cons (by decide), if_neg (by decide), if_pos rfl]

theorem ofChars_plain {c : Char} (h : IsPlain c) (rest : List Char) :
  ofChars (c :: rest) = .char c :: ofChars rest
  := by
  rw [ofChars_cons h.2.2, if_neg h.1, if_neg h.2.1]

theorem endsOpen_cons {c : Char} (h : c ≠ '\\') (rest : List Char) :
  endsOpen (c :: rest) = endsOpen rest
  := by
  rw [endsOpen]
  · rintro rfl
    contradiction
  · rintro _ _ rfl
    contradiction

/-- What holds of the empty pattern and of a backslash, and of a pattern whenever it does of what is
left behind its first item, holds of all written patterns. -/
@[elab_as_elim]
theorem written_induction {motive : List Char → Prop} (nil : motive []) (backslash : motive ['\\'])
    (escaped : ∀ c rest, motive rest → motive ('\\' :: c :: rest))
    (run : ∀ rest, motive rest → motive ('%' :: rest))
    (one : ∀ rest, motive rest → motive ('_' :: rest))
    (plain : ∀ c rest, IsPlain c → motive rest → motive (c :: rest)) (pattern : List Char) :
  motive pattern
  := by
  induction pattern using endsOpen.induct with
  | case1 => apply nil
  | case2 => apply backslash
  | case3 c rest ih => apply escaped c rest ih
  | case4 c rest hopen hescape ih =>
      by_cases hrun : c = '%'
      · subst hrun
        apply run rest ih
      · by_cases hone : c = '_'
        · subst hone
          apply one rest ih
        · apply plain c rest _ ih
          refine ⟨hrun, hone, ?_⟩
          rintro rfl
          cases rest with
          | nil => exact hopen rfl rfl
          | cons d rest => exact hescape d rest rfl rfl

/-- Two patterns written one after the other are read one after the other, unless the first one ends
in a backslash that has nothing after it. -/
theorem ofChars_append {first : List Char} (h : endsOpen first = false) (second : List Char) :
  ofChars (first ++ second) = ofChars first ++ ofChars second
  := by
  induction first using written_induction with
  | nil => rfl
  | backslash => cases h
  | escaped c rest ih =>
      rw [endsOpen] at h
      rw [List.cons_append, List.cons_append, ofChars, ofChars, ih h, List.cons_append]
  | run rest ih =>
      rw [endsOpen_cons (by decide)] at h
      rw [List.cons_append, ofChars_percent, ofChars_percent, ih h, List.cons_append]
  | one rest ih =>
      rw [endsOpen_cons (by decide)] at h
      rw [List.cons_append, ofChars_underscore, ofChars_underscore, ih h, List.cons_append]
  | plain c rest hc ih =>
      rw [endsOpen_cons hc.2.2] at h
      rw [List.cons_append, ofChars_plain hc, ofChars_plain hc, ih h, List.cons_append]

variable {chars : List Char}

/-- A written pattern without special characters is a pattern of its characters. -/
theorem ofChars_of_plain (h : ∀ c ∈ chars, IsPlain c) :
  ofChars chars = chars.map .char
  := by
  induction chars with
  | nil => rfl
  | cons c chars ih =>
      obtain ⟨hc, hrest⟩ := List.forall_mem_cons.mp h
      rw [ofChars_plain hc, ih hrest, List.map_cons]

/-- A written pattern without special characters takes no special meaning from what follows it. -/
theorem endsOpen_of_plain (h : ∀ c ∈ chars, IsPlain c) :
  endsOpen chars = false
  := by
  induction chars with
  | nil => rfl
  | cons c chars ih =>
      obtain ⟨⟨_, _, hescape⟩, hrest⟩ := List.forall_mem_cons.mp h
      rw [endsOpen_cons hescape, ih hrest]

/-- A written pattern without special characters is the shape of one text, the same one. -/
theorem shape_ofChars_iff {text : List Char} (h : ∀ c ∈ chars, IsPlain c) :
  Shape (ofChars chars) text ↔ text = chars
  := by
  rw [ofChars_of_plain h, shape_map_char]

end Like

end RowFilter
