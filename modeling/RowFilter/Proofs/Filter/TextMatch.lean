import RowFilter.Proofs.Filter.Verdicts
import RowFilter.Proofs.Text.Shape

/-!
# Looking for texts

A text that is looked for is itself a written pattern.  `startswith` finds it at the beginning of a
text, `endswith` at the end and `contains` anywhere, as a part of its shape
(`Batch.verdict_textMatch`); where no character of it is special, the part is the text itself.
-/

namespace RowFilter

namespace Like

/-- Whether a text begins with a part of the shape of a pattern. -/
def Begins (pattern : List LikeItem) (text : List Char) : Prop :=
  ∃ part rest, text = part ++ rest ∧ Shape pattern part

/-- Whether a text ends with a part of the shape of a pattern. -/
def Ends (pattern : List LikeItem) (text : List Char) : Prop :=
  ∃ before part, text = before ++ part ∧ Shape pattern part

/-- Whether a text has a part of the shape of a pattern. -/
def Occurs (pattern : List LikeItem) (text : List Char) : Prop :=
  ∃ before part rest, text = before ++ part ++ rest ∧ Shape pattern part

variable {chars text : List Char}

theorem begins_ofChars_iff (h : ∀ c ∈ chars, IsPlain c) :
  Begins (ofChars chars) text ↔ chars <+: text
  := by
  constructor
  · rintro ⟨part, rest, rfl, hpart⟩
    obtain rfl := (shape_ofChars_iff h).mp hpart
    exact ⟨rest, rfl⟩
  · rintro ⟨rest, rfl⟩
    exact ⟨chars, rest, rfl, (shape_ofChars_iff h).mpr rfl⟩

theorem ends_ofChars_iff (h : ∀ c ∈ chars, IsPlain c) :
  Ends (ofChars chars) text ↔ chars <:+ text
  := by
  constructor
  · rintro ⟨before, part, rfl, hpart⟩
    obtain rfl := (shape_ofChars_iff h).mp hpart
    exact ⟨before, rfl⟩
  · rintro ⟨before, rfl⟩
    exact ⟨before, chars, rfl, (shape_ofChars_iff h).mpr rfl⟩

theorem occurs_ofChars_iff (h : ∀ c ∈ chars, IsPlain c) :
  Occurs (ofChars chars) text ↔ chars <:+: text
  := by
  constructor
  · rintro ⟨before, part, rest, rfl, hpart⟩
    obtain rfl := (shape_ofChars_iff h).mp hpart
    exact ⟨before, rest, rfl⟩
  · rintro ⟨before, rest, rfl⟩
    exact ⟨before, chars, rest, rfl, (shape_ofChars_iff h).mpr rfl⟩

/-! ### The patterns of text comparisons -/

variable {s t : String}

/-- A wildcard after a text finds the text at the beginning. -/
theorem likeText_startsWith_iff (h : endsOpen s.toList = false) :
  likeText (TextMatch.startsWith.pattern s) t = true ↔ Begins (ofChars s.toList) t.toList
  := by
  rw [likeText, fits_iff, TextMatch.toList_pattern, TextMatch.surround, ofChars_append h,
    ofChars_percent]
  apply shape_append_anyRun

/-- A wildcard before a text finds the text at the end. -/
theorem likeText_endsWith_iff :
  likeText (TextMatch.endsWith.pattern s) t = true ↔ Ends (ofChars s.toList) t.toList
  := by
  rw [likeText, fits_iff, TextMatch.toList_pattern, TextMatch.surround, ofChars_percent]
  apply shape_anyRun_cons

/-- Wildcards on both sides of a text find the text anywhere. -/
theorem likeText_contains_iff (h : endsOpen s.toList = false) :
  likeText (TextMatch.contains.pattern s) t = true ↔ Occurs (ofChars s.toList) t.toList
  := by
  rw [likeText, fits_iff, TextMatch.toList_pattern, TextMatch.surround, ofChars_percent,
    ofChars_append h, ofChars_percent, shape_anyRun_cons]
  simp only [ofChars, shape_append_anyRun]
  constructor
  · rintro ⟨before, _, htext, part, rest, rfl, hpart⟩
    exact ⟨before, part, rest, htext.trans (List.append_assoc before part rest).symm, hpart⟩
  · rintro ⟨before, part, rest, htext, hpart⟩
    exact ⟨before, part ++ rest, htext.trans (List.append_assoc before part rest), part, rest, rfl,
      hpart⟩

end Like

namespace Batch

variable {batch : Batch} {path : String} {field : ColumnField}

/-- Comparisons that look for a text in a field of texts do not fail.  They keep the rows whose text
begins with, ends with or has a part of the shape of that text, and `notcontains` those whose text
has none; where the text ends in a backslash that has nothing after it, this is said of `endswith`
only.  Of a text without special characters, the part is that text. -/
theorem verdict_textMatch (dates : DateFormats) (hleads : batch.Leads (Path.segments path) field)
    (htexts : field.column.HoldsTexts) (row : Nat) (text : String) :
  let looking (kind : TextMatch) : Comparison := ⟨path, .textMatch kind, .scalar (.text text)⟩
  let kept (kind : TextMatch) : Prop :=
    batch.verdict ⟨Converter.standard dates, true⟩ row (looking kind) = true
  let holds (property : List Char → Prop) : Prop :=
    ∃ cell, (field.column.datum row).text? = some cell ∧ property cell.toList
  let pattern := Like.ofChars text.toList
  (∀ kind, batch.failure? ⟨Converter.standard dates, true⟩ (looking kind) = none) ∧
  (kept .endsWith ↔ holds (Like.Ends pattern)) ∧
  (Like.endsOpen text.toList = false →
    (kept .startsWith ↔ holds (Like.Begins pattern)) ∧
    (kept .contains ↔ holds (Like.Occurs pattern)) ∧
    (kept .notContains ↔ holds fun chars => ¬ Like.Occurs pattern chars)) ∧
  ((∀ c ∈ text.toList, Like.IsPlain c) →
    (kept .startsWith ↔ holds fun chars => text.toList <+: chars) ∧
    (kept .endsWith ↔ holds fun chars => text.toList <:+ chars) ∧
    (kept .contains ↔ holds fun chars => text.toList <:+: chars) ∧
    (kept .notContains ↔ holds fun chars => ¬ text.toList <:+: chars))
  := by
  intro looking kept holds pattern
  have hkept (kind : TextMatch) :
      kept kind ↔ ∃ cell, (field.column.datum row).text? = some cell ∧
        likeText (kind.pattern text) cell = kind.expected :=
    verdict_textMatch_iff dates true hleads htexts kind text
  have hends : kept .endsWith ↔ holds (Like.Ends pattern) := by
    rw [hkept]
    simp only [TextMatch.expected, Like.likeText_endsWith_iff, holds]
    rfl
  have hclosed (h : Like.endsOpen text.toList = false) :
      (kept .startsWith ↔ holds (Like.Begins pattern)) ∧
      (kept .contains ↔ holds (Like.Occurs pattern)) ∧
      (kept .notContains ↔ holds fun chars => ¬ Like.Occurs pattern chars) := by
    rw [hkept, hkept, hkept]
    refine ⟨?starts, ?contains, ?notContains⟩
    case starts => simp only [TextMatch.expected, Like.likeText_startsWith_iff h, holds, pattern]
    case contains => simp only [TextMatch.expected, Like.likeText_contains_iff h, holds, pattern]
    case notContains =>
      have hpattern : TextMatch.notContains.pattern text = TextMatch.contains.pattern text := rfl
      simp only [TextMatch.expected, hpattern, ← Bool.not_eq_true, Like.likeText_contains_iff h,
        holds, pattern]
  refine ⟨?compiled, hends, hclosed, ?plain⟩
  case compiled =>
    intro kind
    apply failure?_textMatch dates true hleads htexts
  case plain =>
    intro hplain
    obtain ⟨hstarts, hcontains, hnotContains⟩ := hclosed (Like.endsOpen_of_plain hplain)
    refine ⟨?_, ?_, ?_, ?_⟩
    · simp only [hstarts, holds, pattern, Like.begins_ofChars_iff hplain]
    · simp only [hends, holds, pattern, Like.ends_ofChars_iff hplain]
    · simp only [hcontains, holds, pattern, Like.occurs_ofChars_iff hplain]
    · simp only [hnotContains, holds, pattern, Like.occurs_ofChars_iff hplain]

/-- A text with a wildcard in it is found at the beginning of another one, a plain one inside of it,
and none in a null. -/
theorem verdict_textMatch_wildcard :
  let field : ColumnField := ⟨"s", .leaf (.text .view) [some (.text "abc"), none]⟩
  let batch : Batch := ⟨2, [("s", field.column)]⟩
  let kept (row : Nat) (kind : TextMatch) (text : String) : Prop :=
    batch.verdict ⟨Converter.standard DateFormats.default, true⟩ row
      ⟨"s", .textMatch kind, .scalar (.text text)⟩ = true
  batch.Leads (Path.segments "s") field ∧ field.column.HoldsTexts ∧
  Like.endsOpen "_b".toList = false ∧ kept 0 .startsWith "_b" ∧
  (∀ c ∈ "bc".toList, Like.IsPlain c) ∧ kept 0 .contains "bc" ∧ ¬ kept 1 .notContains "bc"
  := by
  intro field batch kept
  have hleads : batch.Leads (Path.segments "s") field := ⟨field, rfl, rfl⟩
  have htexts : field.column.HoldsTexts := ⟨.view, rfl⟩
  have hclosed : Like.endsOpen "_b".toList = false := by decide
  have hplain : ∀ c ∈ "bc".toList, Like.IsPlain c := by
    rw [show "bc".toList = ['b', 'c'] from rfl, List.forall_mem_cons]
    exact ⟨by decide, List.forall_mem_singleton.mpr (by decide)⟩
  obtain ⟨_, _, hshapes, _⟩ := verdict_textMatch DateFormats.default hleads htexts 0 "_b"
  obtain ⟨_, _, _, hparts⟩ := verdict_textMatch DateFormats.default hleads htexts 0 "bc"
  obtain ⟨_, _, _, hnull⟩ := verdict_textMatch DateFormats.default hleads htexts 1 "bc"
  refine ⟨hleads, htexts, hclosed, ?_, hplain, ?_, ?_⟩
  · apply (hshapes hclosed).1.mpr
    exact ⟨"abc", rfl, ['a', 'b'], ['c'], rfl, .anyChar 'a' (.char 'b' .nil)⟩
  · apply (hparts hplain).2.2.1.mpr
    exact ⟨"abc", rfl, ['a'], [], rfl⟩
  · intro hkept
    obtain ⟨_, ⟨⟩, _⟩ := (hnull hplain).2.2.2.mp hkept

/-- A special character in the text that is looked for keeps its meaning. -/
theorem verdict_textMatch_special :
  let holding (cell : String) : Batch := ⟨1, [("s", .leaf (.text .short) [some (.text cell)])]⟩
  let kept (cell : String) (kind : TextMatch) (text : String) : Bool :=
    (holding cell).verdict ⟨Converter.standard DateFormats.default, true⟩ 0
      ⟨"s", .textMatch kind, .scalar (.text text)⟩
  (kept "ab" .startsWith "a_" = true ∧ ¬ "a_".toList <+: "ab".toList) ∧
  (kept "abc" .contains "a%c" = true ∧ ¬ "a%c".toList <:+: "abc".toList) ∧
  (kept "a\\b" .startsWith "a\\" = false ∧ "a\\".toList <+: "a\\b".toList)
  := by
  decide +kernel

end Batch

end RowFilter
