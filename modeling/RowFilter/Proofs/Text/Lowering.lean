import RowFilter.Proofs.Text.Shape
import RowFilter.Text.LowerCase

/-!
# Shapes in lower case

The lower-case form of a capital sigma depends on the characters around it, and that of the dotted
capital I has two characters, so a text need not keep the shape of a pattern when both are put in
lower case.  It does where each character of the pattern has the same form as the one that it stands
for in the text (`Like.FitsInCase.lower`); so it is, above all, for patterns without a capital sigma
that do not put the wildcard of one character in the place of a dotted capital I
(`Like.Shape.fitsInCase`).
-/

namespace RowFilter

/-- The lower-case form of a character between others, those before it from the nearest on. -/
def lowerIn (before : List Char) (c : Char) (after : List Char) : List Char :=
  if c = 'Σ' then (if beginsCased before && !beginsCased after then ['ς'] else ['σ'])
  else lowerChar c

theorem lowerAfter_cons (before : List Char) (c : Char) (rest : List Char) :
  lowerAfter before (c :: rest) = lowerIn before c rest ++ lowerAfter (c :: before) rest
  := rfl

/-- The lower-case form of a text ends in that of its end. -/
theorem exists_lowerAfter_append (before run rest : List Char) :
  ∃ front, lowerAfter before (run ++ rest) = front ++ lowerAfter (run.reverse ++ before) rest
  := by
  induction run generalizing before with
  | nil => exact ⟨[], rfl⟩
  | cons c run ih =>
      obtain ⟨front, hfront⟩ := ih (c :: before)
      refine ⟨lowerIn before c (run ++ rest) ++ front, ?_⟩
      rw [List.cons_append, lowerAfter_cons, hfront, List.append_assoc, List.reverse_cons,
        List.append_assoc, List.singleton_append]

/-! ### Wildcards around a text -/

/-- A wildcard behind some characters has no case and is not passed over. -/
theorem beginsCased_append_percent (text : List Char) :
  beginsCased (text ++ ['%']) = beginsCased text
  := by
  have hcased : inRanges casedRanges '%' = false := by decide +kernel
  have hpassed : inRanges caseIgnorableRanges '%' = false := by decide +kernel
  rw [beginsCased, beginsCased, List.dropWhile_append]
  cases text.dropWhile (inRanges caseIgnorableRanges) with
  | nil =>
      rw [List.isEmpty_nil, if_pos rfl, List.dropWhile_cons, hpassed]
      exact hcased
  | cons c rest => rfl

/-- A text with a wildcard behind it has its own lower-case form. -/
theorem lowerAfter_append_percent (before text : List Char) :
  lowerAfter before (text ++ ['%']) = lowerAfter before text ++ ['%']
  := by
  induction text generalizing before with
  | nil => rfl
  | cons c text ih =>
      rw [List.cons_append, lowerAfter_cons, lowerAfter_cons, ih, lowerIn, lowerIn,
        beginsCased_append_percent, List.append_assoc]

/-- A text behind a wildcard has its own lower-case form. -/
theorem lowerAfter_percent (before text : List Char) :
  lowerAfter (before ++ ['%']) text = lowerAfter before text
  := by
  induction text generalizing before with
  | nil => rfl
  | cons c text ih =>
      rw [lowerAfter_cons, lowerAfter_cons, ← List.cons_append, ih, lowerIn, lowerIn,
        beginsCased_append_percent]

theorem lowerCase_append_percent (text : List Char) :
  lowerCase (text ++ ['%']) = lowerCase text ++ ['%']
  := lowerAfter_append_percent [] text

theorem lowerCase_percent_cons (text : List Char) :
  lowerCase ('%' :: text) = '%' :: lowerCase text
  := congrArg (List.cons '%') (lowerAfter_percent [] text)

/-! ### Forms of single characters -/

variable {before after : List Char} {c : Char}

/-- Only the form of a capital sigma depends on the characters around it. -/
theorem lowerIn_of_ne (h : c ≠ 'Σ') (before after : List Char) :
  lowerIn before c after = lowerChar c
  := if_neg h

/-- All lower-case letters of the table come after the special characters of patterns. -/
theorem lowerCaseRanges_special_lt :
  ∀ range ∈ lowerCaseRanges, '_'.toNat < range.first + range.change
  := by
  decide +kernel

namespace Like

/-- A character that comes after the special characters of patterns is plain. -/
theorem isPlain_of_lt (h : '_'.toNat < c.toNat) :
  IsPlain c
  := by
  refine ⟨?_, ?_, ?_⟩
  · rintro rfl
    exact absurd h (by decide)
  · rintro rfl
    exact absurd h (by decide)
  · rintro rfl
    exact absurd h (by decide)

/-- The character of a number that comes after the special characters of patterns is plain. -/
theorem isPlain_ofNat {n : Nat} (h : '_'.toNat < n) :
  IsPlain (Char.ofNat n)
  := by
  by_cases hvalid : n.isValidChar
  · apply isPlain_of_lt
    have hcode : (Char.ofNat n).toNat = n := by
      rw [Char.ofNat, dif_pos hvalid]
      rfl
    rwa [hcode]
  · have hnone : Char.ofNat n = '\x00' := by
      rw [Char.ofNat, dif_neg hvalid]
      rfl
    rw [hnone]
    decide

/-- The lower-case form of a plain character is plain. -/
theorem isPlain_of_mem_lowerChar (h : IsPlain c) :
  ∀ d ∈ lowerChar c, IsPlain d
  := by
  rw [lowerChar]
  split
  · exact List.forall_mem_cons.mpr ⟨by decide, List.forall_mem_singleton.mpr (by decide)⟩
  · split
    · next range hrange =>
        have hfirst := lowerCaseRanges_special_lt range (List.mem_of_find?_eq_some hrange)
        have hcontains := List.find?_some hrange
        rw [CaseRange.contains, Bool.and_eq_true, Bool.and_eq_true, decide_eq_true_iff] at hcontains
        refine List.forall_mem_singleton.mpr (isPlain_ofNat ?_)
        omega
    · exact List.forall_mem_singleton.mpr h

variable (before after)

/-- The lower-case form of a plain character is plain, whatever stands around it. -/
theorem isPlain_of_mem_lowerIn (h : IsPlain c) :
  ∀ d ∈ lowerIn before c after, IsPlain d
  := by
  rw [lowerIn]
  split
  · split <;> exact List.forall_mem_singleton.mpr (by decide)
  · apply isPlain_of_mem_lowerChar h

/-- A special character is its own lower-case form. -/
theorem lowerIn_of_not_isPlain (h : ¬ IsPlain c) :
  lowerIn before c after = [c]
  := by
  have hspecial : c = '%' ∨ c = '_' ∨ c = '\\' := by
    apply Decidable.byContradiction
    intro hnone
    rw [not_or, not_or] at hnone
    apply h hnone
  rcases hspecial with rfl | rfl | rfl
  · rfl
  · rfl
  · rfl

/-- The lower-case form of a character other than the dotted capital I is one character. -/
theorem exists_lowerIn_eq_singleton (h : c ≠ 'İ') :
  ∃ d, lowerIn before c after = [d]
  := by
  rw [lowerIn]
  split
  · split <;> exact ⟨_, rfl⟩
  · rw [lowerChar, if_neg h]
    split <;> exact ⟨_, rfl⟩

/-- The lower-case form of a character is one character with plain ones behind it. -/
theorem exists_lowerIn_eq_cons (c : Char) :
  ∃ d rest, lowerIn before c after = d :: rest ∧ ∀ e ∈ rest, IsPlain e
  := by
  by_cases h : c = 'İ'
  · subst h
    exact ⟨'i', ['\u0307'], rfl, List.forall_mem_singleton.mpr (by decide)⟩
  · obtain ⟨d, hd⟩ := exists_lowerIn_eq_singleton before after h
    exact ⟨d, [], hd, List.forall_mem_nil _⟩

/-! ### Shapes that are kept -/

/-- Whether a text has the shape of a written pattern with each character of the pattern in lower
case as the one that it stands for, between those before it in the pattern and in the text, and no
wildcard of one character for a dotted capital I. -/
inductive FitsInCase : List Char → List Char → List Char → List Char → Prop where
  | nil (before behind : List Char) : FitsInCase before [] behind []
  | char {c : Char} {before pattern behind text : List Char} (hplain : IsPlain c)
      (hform : lowerIn before c pattern = lowerIn behind c text)
      (h : FitsInCase (c :: before) pattern (c :: behind) text) :
    FitsInCase before (c :: pattern) behind (c :: text)
  | escaped (c : Char) {before pattern behind text : List Char}
      (hform : lowerIn ('\\' :: before) c pattern = lowerIn behind c text)
      (h : FitsInCase (c :: '\\' :: before) pattern (c :: behind) text) :
    FitsInCase before ('\\' :: c :: pattern) behind (c :: text)
  | backslash (before behind : List Char) : FitsInCase before ['\\'] behind ['\\']
  | one {c : Char} {before pattern behind text : List Char} (hc : c ≠ 'İ')
      (h : FitsInCase ('_' :: before) pattern (c :: behind) text) :
    FitsInCase before ('_' :: pattern) behind (c :: text)
  | run (run : List Char) {before pattern behind text : List Char}
      (h : FitsInCase ('%' :: before) pattern (run.reverse ++ behind) text) :
    FitsInCase before ('%' :: pattern) behind (run ++ text)

variable {before} {pattern behind text : List Char}

/-- Characters without a special meaning stand for themselves before any pattern. -/
theorem shape_plain_append {chars : List Char} (h : ∀ c ∈ chars, IsPlain c)
    (hrest : Shape (ofChars pattern) text) :
  Shape (ofChars (chars ++ pattern)) (chars ++ text)
  := by
  rw [ofChars_append (endsOpen_of_plain h)]
  exact shape_append.mpr ⟨chars, text, rfl, (shape_ofChars_iff h).mpr rfl, hrest⟩

/-- A text that has the shape of a pattern in case has it in lower case. -/
theorem FitsInCase.lower (h : FitsInCase before pattern behind text) :
  Shape (ofChars (lowerAfter before pattern)) (lowerAfter behind text)
  := by
  induction h with
  | nil => exact .nil
  | @char c before pattern behind text hplain hform _ ih =>
      rw [lowerAfter_cons, lowerAfter_cons, hform]
      apply shape_plain_append (isPlain_of_mem_lowerIn behind text hplain) ih
  | @escaped c before pattern behind text hform _ ih =>
      obtain ⟨d, rest, hd, hplain⟩ := exists_lowerIn_eq_cons behind text c
      rw [lowerAfter_cons, lowerAfter_cons, lowerAfter_cons, hform, hd,
        lowerIn_of_not_isPlain _ _ (by decide)]
      exact .char d (shape_plain_append hplain ih)
  | backslash before behind =>
      rw [lowerAfter_cons, lowerAfter_cons, lowerIn_of_not_isPlain _ _ (by decide),
        lowerIn_of_not_isPlain _ _ (by decide)]
      exact .char '\\' .nil
  | @one c before pattern behind text hc _ ih =>
      obtain ⟨d, hd⟩ := exists_lowerIn_eq_singleton behind text hc
      rw [lowerAfter_cons, lowerAfter_cons, hd, lowerIn_of_not_isPlain _ _ (by decide),
        List.singleton_append, List.singleton_append, ofChars_underscore]
      exact .anyChar d ih
  | @run run before pattern behind text _ ih =>
      obtain ⟨front, hfront⟩ := exists_lowerAfter_append behind run text
      rw [lowerAfter_cons, hfront, lowerIn_of_not_isPlain _ _ (by decide), List.singleton_append,
        ofChars_percent]
      exact .anyRun front ih

/-- A text that has the shape of a pattern without a capital sigma has it in case, if no wildcard of
one character can stand for a dotted capital I. -/
theorem Shape.fitsInCase (h : Shape (ofChars pattern) text) (hsigma : 'Σ' ∉ pattern)
    (hdotted : '_' ∉ pattern ∨ 'İ' ∉ text) (before behind : List Char) :
  FitsInCase before pattern behind text
  := by
  induction pattern using written_induction generalizing text before behind with
  | nil =>
      cases h
      exact .nil before behind
  | backslash =>
      obtain _ | ⟨_, hrest⟩ := h
      cases hrest
      exact .backslash before behind
  | escaped c rest ih =>
      obtain _ | ⟨_, hrest⟩ := h
      rw [List.mem_cons, List.mem_cons, not_or, not_or] at hsigma
      obtain ⟨_, hc, hsigma⟩ := hsigma
      apply FitsInCase.escaped c
      · rw [lowerIn_of_ne (Ne.symm hc), lowerIn_of_ne (Ne.symm hc)]
      · apply ih hrest hsigma
        apply hdotted.imp
        · intro h hmem
          apply h (List.mem_cons_of_mem _ (List.mem_cons_of_mem _ hmem))
        · intro h hmem
          apply h (List.mem_cons_of_mem _ hmem)
  | run rest ih =>
      rw [ofChars_percent] at h
      obtain _ | _ | _ | ⟨run, hrest⟩ := h
      apply FitsInCase.run run
      apply ih hrest (List.not_mem_of_not_mem_cons hsigma)
      apply hdotted.imp
      · apply List.not_mem_of_not_mem_cons
      · intro h hmem
        apply h (List.mem_append_right run hmem)
  | one rest ih =>
      rw [ofChars_underscore] at h
      obtain _ | _ | ⟨c, hrest⟩ := h
      rcases hdotted with hone | hdotted
      · exact absurd List.mem_cons_self hone
      · rw [List.mem_cons, not_or] at hdotted
        exact .one (Ne.symm hdotted.1)
          (ih hrest (List.not_mem_of_not_mem_cons hsigma) (.inr hdotted.2) _ _)
  | plain c rest hc ih =>
      rw [ofChars_plain hc] at h
      obtain _ | ⟨_, hrest⟩ := h
      rw [List.mem_cons, not_or] at hsigma
      apply FitsInCase.char hc
      · rw [lowerIn_of_ne (Ne.symm hsigma.1), lowerIn_of_ne (Ne.symm hsigma.1)]
      · apply ih hrest hsigma.2
        apply hdotted.imp
        · apply List.not_mem_of_not_mem_cons
        · apply List.not_mem_of_not_mem_cons

end Like

end RowFilter
