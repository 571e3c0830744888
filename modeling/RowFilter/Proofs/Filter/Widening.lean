import RowFilter.Proofs.Filter.Verdicts
import RowFilter.Proofs.Text.Lowering

/-!
# Matches in lower case

Where letter case does not count, more texts are equal, so that `=` and `anyof` keep more rows and
`<>` and `noneof` fewer.  A text that is looked for in another one is still found with both in lower
case if each of its characters has the same form there (`TextMatch.KeepsCase`); then `startswith`,
`endswith` and `contains` keep more rows and `notcontains` fewer.  `Batch.verdict_widens` states
this, and `Batch.verdict_lost` that a row may be lost otherwise.
-/

namespace RowFilter

namespace Datum

variable {value : Datum} {text : String}

theorem text?_lowered (value : Datum) :
  value.lowered.text? = value.text?.map lowerText
  := by
  rw [lowered, lowerText?]
  cases value.text? <;> rfl

/-- A value in lower case is a text if and only if that is the lower-case form of its own text. -/
theorem lowered_eq_text_iff :
  value.lowered.relates .eq (.text text) = true
    ↔ ∃ cell, value.text? = some cell ∧ lowerText cell = text
  := by
  rw [relates_eq_text_iff, text?_lowered, Option.map_eq_some_iff]

/-- A value in lower case is different from a text if and only if the lower-case form of its own
text is. -/
theorem lowered_ne_text_iff :
  value.lowered.relates .ne (.text text) = true
    ↔ ∃ cell, value.text? = some cell ∧ lowerText cell ≠ text
  := by
  rw [relates_ne_text_iff]
  constructor
  · rintro ⟨cell, hcell, hne⟩
    rw [lowered, lowerText?] at hcell
    cases hfound : value.text? with
    | none =>
        rw [hfound] at hcell
        cases hcell
    | some found =>
        rw [hfound] at hcell
        cases hcell
        refine ⟨found, rfl, ?_⟩
        rintro rfl
        exact hne rfl
  · rintro ⟨found, hfound, hne⟩
    refine ⟨.text (lowerText found), ?_, ?_⟩
    · rw [lowered, lowerText?, hfound]
      rfl
    · intro h
      apply hne (Cell.text.inj h)

/-- A value that is equal to a text is so in lower case. -/
theorem lowered_eq_of_eq (h : value.relates .eq (.text text) = true) :
  value.lowered.relates .eq (.text (lowerText text)) = true
  := by
  apply lowered_eq_text_iff.mpr
  exact ⟨text, relates_eq_text_iff.mp h, rfl⟩

/-- A value that is different from a text in lower case is different from it. -/
theorem ne_of_lowered_ne (h : value.lowered.relates .ne (.text (lowerText text)) = true) :
  value.relates .ne (.text text) = true
  := by
  obtain ⟨cell, hcell, hne⟩ := lowered_ne_text_iff.mp h
  refine relates_ne_text_iff.mpr ⟨.text cell, text?_eq_some_iff.mp hcell, ?_⟩
  rintro ⟨⟩
  exact hne rfl

end Datum

namespace TextMatch

/-- Whether the characters of a text that is looked for have the same lower-case form in a cell: it
has no capital sigma, and no wildcard of one character that can stand for a dotted capital I, or its
pattern fits the cell in case. -/
def KeepsCase (kind : TextMatch) (text cell : String) : Prop :=
  ('Σ' ∉ text.toList ∧ ('_' ∉ text.toList ∨ 'İ' ∉ cell.toList)) ∨
  Like.FitsInCase [] (kind.surround text.toList) [] cell.toList

variable {kind : TextMatch} {text cell : String}

/-- The pattern of a text in lower case is the pattern of the text in lower case. -/
theorem surround_lowerCase (kind : TextMatch) (chars : List Char) :
  kind.surround (lowerCase chars) = lowerCase (kind.surround chars)
  := by
  cases kind with
  | startsWith => exact (lowerCase_append_percent chars).symm
  | endsWith => exact (lowerCase_percent_cons chars).symm
  | contains =>
      rw [surround, surround, lowerCase_percent_cons, lowerCase_append_percent]
  | notContains =>
      rw [surround, surround, lowerCase_percent_cons, lowerCase_append_percent]

/-- The pattern of a text has no other characters than the text and wildcards for any run. -/
theorem mem_surround {c : Char} {chars : List Char} (h : c ∈ kind.surround chars) :
  c = '%' ∨ c ∈ chars
  := by
  cases kind <;> simp [surround] at h <;> tauto

/-- A text that is found in a cell is found in it with both in lower case, if its characters have
the same form there. -/
theorem KeepsCase.likeText_lower (h : kind.KeepsCase text cell)
    (hlike : likeText (kind.pattern text) cell = true) :
  likeText (kind.pattern (lowerText text)) (lowerText cell) = true
  := by
  rw [likeText, Like.fits_iff, toList_pattern] at hlike ⊢
  have hfits : Like.FitsInCase [] (kind.surround text.toList) [] cell.toList := by
    rcases h with ⟨hsigma, hdotted⟩ | hfits
    · apply hlike.fitsInCase
      · intro hmem
        rcases mem_surround hmem with hc | hc
        · cases hc
        · contradiction
      · apply hdotted.imp_left
        intro hone hmem
        rcases mem_surround hmem with hc | hc
        · cases hc
        · contradiction
    · apply hfits
  rw [lowerText, lowerText, String.toList_ofList, String.toList_ofList, surround_lowerCase]
  apply hfits.lower

end TextMatch

namespace Batch

variable {batch : Batch} {path : String} {field : ColumnField}

/-- Where letter case does not count, a value is among some texts if and only if its text is, all of
them in lower case. -/
theorem any_lowered_iff {value : Datum} {texts : List String} :
  (texts.any fun text => value.lowered.relates .eq (.text (lowerText text))) = true
    ↔ ∃ cell, value.text? = some cell ∧ lowerText cell ∈ texts.map lowerText
  := by
  simp only [List.any_eq_true, Datum.lowered_eq_text_iff, List.mem_map]
  constructor
  · rintro ⟨text, hmem, cell, hcell, hsame⟩
    exact ⟨cell, hcell, text, hmem, hsame.symm⟩
  · rintro ⟨cell, hcell, text, hmem, hsame⟩
    exact ⟨text, hmem, cell, hcell, hsame.symm⟩

/-- Where letter case does not count, the text of a row and those that it is compared with are put
in lower case, each as a whole, and then compared.  So every comparison that asks for a text keeps
the rows that it keeps where letter case counts, and every one that asks for another text keeps no
others: those for equality with one or some texts always, or for another one if every text has a
cell in the type of the field, and those that look for a text if its characters have the same form
in lower case in the text of the row. -/
theorem verdict_widens (dates : DateFormats) (hleads : batch.Leads (Path.segments path) field)
    (htexts : field.column.HoldsTexts) (row : Nat) :
  let coercion (counts : Bool) : Coercion := ⟨Converter.standard dates, counts⟩
  let kept (counts : Bool) (op : Operator) (operand : Operand) : Prop :=
    batch.verdict (coercion counts) row ⟨path, op, operand⟩ = true
  let lowered (property : String → Prop) : Prop :=
    ∃ cell, (field.column.datum row).text? = some cell ∧ property (lowerText cell)
  let keepsCase (kind : TextMatch) (text : String) : Prop :=
    ∀ cell, (field.column.datum row).text? = some cell → kind.KeepsCase text cell
  (∀ text : String, let operand : Operand := .scalar (.text text)
    (kept false (.relation .eq) operand ↔ lowered fun cell => cell = lowerText text) ∧
    (kept false (.relation .ne) operand ↔ lowered fun cell => cell ≠ lowerText text) ∧
    ∀ kind, kept false (.textMatch kind) operand
      ↔ lowered fun cell => likeText (kind.pattern (lowerText text)) cell = kind.expected) ∧
  (∀ text : String, let operand : Operand := .scalar (.text text)
    (kept true (.relation .eq) operand → kept false (.relation .eq) operand) ∧
    (field.type.takesTexts = true →
      kept false (.relation .ne) operand → kept true (.relation .ne) operand) ∧
    (∀ kind, kind ≠ .notContains → keepsCase kind text →
      kept true (.textMatch kind) operand → kept false (.textMatch kind) operand) ∧
    (keepsCase .notContains text →
      kept false (.textMatch .notContains) operand → kept true (.textMatch .notContains) operand)) ∧
  ∀ texts : List String, let operand : Operand := .list (texts.map .text)
    let among : Prop := lowered fun cell => cell ∈ texts.map lowerText
    (kept false (.membership .anyOf) operand ↔ among) ∧
    (kept false (.membership .noneOf) operand ↔ row < field.column.rows ∧ ¬ among) ∧
    (kept true (.membership .anyOf) operand → kept false (.membership .anyOf) operand) ∧
    (field.type.takesTexts = true →
      kept false (.membership .noneOf) operand → kept true (.membership .noneOf) operand)
  := by
  intro coercion kept lowered keepsCase
  have hfolded := Compiler.run_folded_counting batch (Converter.standard dates) field
  refine ⟨?lower, ?single, ?list⟩
  case lower =>
    intro text operand
    refine ⟨?eq, ?ne, ?found⟩
    case eq => exact (verdict_relation_lower_iff hleads htexts rfl).trans Datum.lowered_eq_text_iff
    case ne => exact (verdict_relation_lower_iff hleads htexts rfl).trans Datum.lowered_ne_text_iff
    case found => exact fun kind => verdict_textMatch_iff dates false hleads htexts kind text
  case single =>
    intro text operand
    refine ⟨?eq, ?ne, ?found, ?notFound⟩
    case eq =>
      intro hkept
      have hcompared := failure?_of_verdict hkept
      apply (verdict_relation_lower_iff hleads htexts rfl).mpr
      apply Datum.lowered_eq_of_eq
      apply (verdict_relation_counting_iff hleads htexts hcompared).mp hkept
    case ne =>
      intro htakes hkept
      have hcompared : batch.failure? (coercion true) ⟨path, .relation .ne, operand⟩ = none :=
        failure?_relation hleads htexts hfolded htexts htakes rfl text
      apply (verdict_relation_counting_iff hleads htexts hcompared).mpr
      apply Datum.ne_of_lowered_ne
      apply (verdict_relation_lower_iff hleads htexts rfl).mp hkept
    case found =>
      intro kind hkind hkeeps hkept
      have hexpected : kind.expected = true := by
        cases kind with
        | notContains => contradiction
        | _ => rfl
      obtain ⟨cell, hcell, hlike⟩ :=
        (verdict_textMatch_iff dates true hleads htexts kind text).mp hkept
      refine (verdict_textMatch_iff dates false hleads htexts kind text).mpr ⟨cell, hcell, ?_⟩
      rw [hexpected] at hlike ⊢
      apply (hkeeps cell hcell).likeText_lower hlike
    case notFound =>
      intro hkeeps hkept
      obtain ⟨cell, hcell, hlike⟩ :=
        (verdict_textMatch_iff dates false hleads htexts .notContains text).mp hkept
      apply (verdict_textMatch_iff dates true hleads htexts .notContains text).mpr
      refine ⟨cell, hcell, ?_⟩
      rw [TextMatch.expected, ← Bool.not_eq_true] at hlike ⊢
      intro hfound
      apply hlike
      apply (hkeeps cell hcell).likeText_lower hfound
  case list =>
    intro texts operand among
    have hanyOf : kept false (.membership .anyOf) operand ↔ among := by
      apply (verdict_membership_lower_iff hleads htexts).trans
      rw [Membership.holds, any_lowered_iff, and_iff_right_iff_imp]
      rintro ⟨cell, hcell, _⟩
      apply htexts.lt_rows_of_text? hcell
    have hnoneOf :
        kept false (.membership .noneOf) operand ↔ row < field.column.rows ∧ ¬ among := by
      apply (verdict_membership_lower_iff hleads htexts).trans
      rw [Membership.holds, Bool.not_eq_true', ← Bool.not_eq_true, any_lowered_iff]
    have hamong (h : (texts.any fun text =>
        (field.column.datum row).relates .eq (.text text)) = true) : among := by
      obtain ⟨text, hmem, hequal⟩ := List.any_eq_true.mp h
      exact ⟨text, Datum.relates_eq_text_iff.mp hequal, List.mem_map_of_mem hmem⟩
    refine ⟨hanyOf, hnoneOf, ?anyOf, ?noneOf⟩
    case anyOf =>
      intro hkept
      obtain ⟨_, hequal⟩ :=
        (verdict_membership_counting_iff hleads htexts (failure?_of_verdict hkept)).mp hkept
      apply hanyOf.mpr (hamong hequal)
    case noneOf =>
      intro htakes hkept
      have hcompared := failure?_membership hleads htexts hfolded htexts htakes .noneOf texts
      obtain ⟨hrow, hother⟩ := hnoneOf.mp hkept
      refine (verdict_membership_counting_iff hleads htexts hcompared).mpr ⟨hrow, ?_⟩
      rw [Membership.holds, Bool.not_eq_true', ← Bool.not_eq_true]
      intro hequal
      apply hother (hamong hequal)

/-- A text that ends in a sigma, looked for at the end of another one, and compared with a third. -/
theorem verdict_widens_sigma :
  let field : ColumnField := ⟨"s", .leaf (.text .short) [some (.text "ΒΑΣ")]⟩
  let batch : Batch := ⟨1, [("s", field.column)]⟩
  let coercion (counts : Bool) : Coercion := ⟨Converter.standard DateFormats.default, counts⟩
  let kept (counts : Bool) (op : Operator) (text : String) : Prop :=
    batch.verdict (coercion counts) 0 ⟨"s", op, .scalar (.text text)⟩ = true
  batch.Leads (Path.segments "s") field ∧ field.column.HoldsTexts ∧
  (∀ cell, (field.column.datum 0).text? = some cell → TextMatch.endsWith.KeepsCase "ΑΣ" cell) ∧
  (kept true (.textMatch .endsWith) "ΑΣ" ∧ kept false (.textMatch .endsWith) "ΑΣ") ∧
  field.type.takesTexts = true ∧ kept false (.relation .ne) "Σ" ∧ kept true (.relation .ne) "Σ"
  := by
  intro field batch coercion kept
  have hleads : batch.Leads (Path.segments "s") field := ⟨field, rfl, rfl⟩
  have htexts : field.column.HoldsTexts := ⟨.short, rfl⟩
  have hkeeps : ∀ cell, (field.column.datum 0).text? = some cell →
      TextMatch.endsWith.KeepsCase "ΑΣ" cell := by
    rintro _ ⟨⟩
    refine .inr (.run ['Β'] (.char (by decide) ?_ (.char (by decide) ?_ (.nil _ _))))
    · decide +kernel
    · decide +kernel
  have hends : kept true (.textMatch .endsWith) "ΑΣ" := by
    decide +kernel
  have htakes : field.type.takesTexts = true := rfl
  have hother : kept false (.relation .ne) "Σ" := by
    decide +kernel
  obtain ⟨_, hsingle, _⟩ := verdict_widens DateFormats.default hleads htexts 0
  obtain ⟨_, _, hfound, _⟩ := hsingle "ΑΣ"
  obtain ⟨_, hne, _⟩ := hsingle "Σ"
  refine ⟨hleads, htexts, hkeeps, ⟨hends, ?_⟩, htakes, hother, ?_⟩
  · apply hfound .endsWith (by rintro ⟨⟩) hkeeps hends
  · apply hne htakes hother

/-- A row may be lost where letter case does not count: a capital sigma may have another form at the
end of the text that is looked for, and a dotted capital I has one of two characters. -/
theorem verdict_lost :
  let verdict (counts : Bool) (cell : String) (op : Operator) (text : String) : Bool :=
    Batch.verdict ⟨1, [("s", .leaf (.text .short) [some (.text cell)])]⟩
      ⟨Converter.standard DateFormats.default, counts⟩ 0 ⟨"s", op, .scalar (.text text)⟩
  (verdict true "ΑΣΑ" (.textMatch .startsWith) "ΑΣ" = true ∧
    verdict false "ΑΣΑ" (.textMatch .startsWith) "ΑΣ" = false) ∧
  verdict true "xİy" (.textMatch .contains) "x_y" = true ∧
    verdict false "xİy" (.textMatch .contains) "x_y" = false
  := by
  decide +kernel

end Batch

end RowFilter
