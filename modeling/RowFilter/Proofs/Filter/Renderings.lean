import RowFilter.Proofs.Calendar.Readback
import RowFilter.Proofs.Filter.Integers
import RowFilter.Proofs.Filter.Memberships
import RowFilter.Proofs.Filter.Nulls
import RowFilter.Proofs.Filter.TextMatch
import RowFilter.Proofs.Number.Whole

/-!
# Texts of values and of operands

Truth values, integers and days are written in a column as they are in a pattern, and in characters
that are not special there (`Literal.Suits.renders`).  So a text comparison finds the text of an
operand that a value equals, and finds it at the end too unless a time of day follows
(`Batch.verdicts_rendered`).
-/

namespace RowFilter

variable {type : DataType} {literal : Literal} {stored : Datum} {value : Scalar}

/-! ### Plain characters -/

namespace Like

theorem isPlain_of_isDigit {c : Char} (h : c.isDigit = true) :
  IsPlain c
  := by
  refine ⟨?_, ?_, ?_⟩ <;>
  · rintro rfl
    cases h

theorem isPlain_signedText (n : Int) :
  ∀ c ∈ (signedText n).toList, IsPlain c
  := by
  intro c hc
  rw [toList_signedText, List.mem_append] at hc
  rcases hc with hsign | hdigit
  · split at hsign
    · obtain rfl := List.mem_singleton.mp hsign
      decide
    · cases hsign
  · apply isPlain_of_isDigit (isDigit_of_mem_decimalDigits hdigit)

theorem isPlain_boolText (b : Bool) :
  ∀ c ∈ (Literal.boolText b).toList, IsPlain c
  := by
  have hall : (Literal.boolText b).toList.all (fun c => decide (IsPlain c)) = true := by
    cases b <;> rfl
  intro c hc
  apply of_decide_eq_true (List.all_eq_true.mp hall c hc)

theorem isPlain_of_isMark {c : Char} (h : Format.IsMark c) :
  IsPlain c
  := by
  rcases h with hdigit | hmark
  · apply isPlain_of_isDigit hdigit
  · simp only [Format.marks, List.mem_cons, List.not_mem_nil, or_false] at hmark
    rcases hmark with rfl | rfl | rfl | rfl <;> decide

theorem isPlain_date (date : Date) :
  ∀ c ∈ date.text.toList, IsPlain c
  := by
  intro c hc
  rw [Date.text, Format.write, String.toList_ofList] at hc
  apply isPlain_of_isMark (Format.isMark_of_mem_dashedDate c hc)

end Like

/-! ### The texts of days -/

/-- The text of a day that has one is that of its literal. -/
theorem Literal.toText_date {days : Int} {text : String} (h : Column.dateText days = .ok text) :
  (Literal.date days).toText = text ∧ ∀ c ∈ text.toList, Like.IsPlain c
  := by
  rw [Column.dateText] at h
  rw [toText]
  cases hdate : Date.ofDays? days with
  | none =>
      rw [hdate] at h
      cases h
  | some date =>
      rw [hdate] at h
      cases h
      exact ⟨rfl, Like.isPlain_date date⟩

/-- Midnight is the first moment of a day. -/
theorem momentOf?_midnight (days : Int) :
  momentOf? (days * dayNanos) = (Date.ofDays? days).map fun date => (date, Clock.midnight)
  := by
  have hseconds : days * dayNanos / secondNanos = days * 86400 := by
    rw [dayNanos, secondNanos]
    omega
  have hnanos : days * dayNanos % secondNanos = 0 := by
    rw [dayNanos, secondNanos]
    omega
  rw [momentOf?, hseconds, hnanos, Int.mul_emod_left, Int.mul_ediv_cancel _ (by decide)]
  rfl

/-- The text of midnight is that of its day with a time of day behind it. -/
theorem Column.instantText_midnight (days : Int) :
  instantText none (days * dayNanos) = (dateText days).map (· ++ "T00:00:00")
  := by
  rw [instantText, Option.getD_none, Int.zero_mul, Int.add_zero, momentOf?_midnight, dateText]
  cases Date.ofDays? days with
  | none => rfl
  | some date =>
      apply congrArg Except.ok
      dsimp only
      rw [Date.text, Format.write, Format.write, momentFormat, List.flatMap_append,
        String.ofList_append]
      rfl

/-! ### Values that equal an operand -/

namespace Datum

/-- A value is equal to a truth value if and only if it is that one. -/
theorem relates_eq_bool_iff {b : Bool} :
  stored.relates .eq (.bool b) = true ↔ stored = .cell (.bool b)
  := by
  cases stored with
  | cell cell =>
      rw [relates, Relation.holds, beq_iff_eq, Datum.cell.injEq]
      cases cell with
      | bool a => cases a <;> cases b <;> decide
      | _ => apply iff_of_false <;> rintro ⟨⟩
  | null => apply iff_of_false <;> rintro ⟨⟩
  | record fields => apply iff_of_false <;> rintro ⟨⟩

/-- A value is equal to an integer if and only if it is that one. -/
theorem relates_eq_int_iff {n : Int} :
  stored.relates .eq (.int n) = true ↔ stored = .cell (.int n)
  := by
  cases stored with
  | cell cell =>
      rw [relates, Relation.holds, beq_iff_eq, Datum.cell.injEq]
      cases cell with
      | int m => rw [Cell.compare, Cell.int.injEq, Int.compare_eq_eq]
      | _ => apply iff_of_false <;> rintro ⟨⟩
  | null => apply iff_of_false <;> rintro ⟨⟩
  | record fields => apply iff_of_false <;> rintro ⟨⟩

end Datum

/-- Whether the values of a type are truth values, integers or days. -/
def DataType.isBasic : DataType → Bool
  | .boolean | .int _ | .uint _ | .date32 | .date64 => true
  | _ => false

theorem DataType.isPlain_of_isBasic (h : type.isBasic = true) :
  type.IsPlain
  := by
  cases type with
  | boolean => exact ⟨rfl, rfl, rfl, rfl⟩
  | int size => exact ⟨rfl, rfl, rfl, rfl⟩
  | uint size => exact ⟨rfl, rfl, rfl, rfl⟩
  | date32 => exact ⟨rfl, rfl, rfl, rfl⟩
  | date64 => exact ⟨rfl, rfl, rfl, rfl⟩
  | _ => cases h

/-- What is not an integer is a truth value or a day. -/
theorem DataType.eq_of_isBasic (h : type.isBasic = true) (hinteger : type.isInteger = false) :
  type = .boolean ∨ type = .date32 ∨ type = .date64
  := by
  cases type with
  | boolean => exact .inl rfl
  | date32 => exact .inr (.inl rfl)
  | date64 => exact .inr (.inr rfl)
  | int size => cases hinteger
  | uint size => cases hinteger
  | _ => cases h

/-- Whether an operand may be of the kind in which a value of a type is written.  Only a text always
is.  A number with a fraction is if the value is an integer that a double is exact for. -/
def DataType.Suits (type : DataType) (stored : Datum) : Scalar → Prop
  | .null => False
  | .bool _ => type.isInteger = false
  | .number (.integer _) => type.isInteger = true
  | .number (.floating x) =>
    type ≠ .boolean ∧ FloatFormat.double.Holds x ∧
    (type.isInteger = true → ∃ n : Int, stored = .cell (.int n) ∧ n.natAbs ≤ twoPow 53)
  | .text _ => True

/-- Whether every cell of a value can be written. -/
def Datum.IsWritten (type : DataType) (stored : Datum) : Prop :=
  ∀ write cell, Column.cellWriter type = .ok write → stored = .cell cell →
    ∃ text, write cell = .ok text

/-- Whether a literal is written in plain characters, with which the text of a value begins.  More
than them has only the text of a moment. -/
def Literal.Renders (literal : Literal) (type : DataType) (stored : Datum) : Prop :=
  (∀ c ∈ literal.toText.toList, Like.IsPlain c) ∧
  ∃ rest, type.writeDatum stored = some (literal.toText ++ rest) ∧ (type ≠ .date64 → rest = "")

namespace Literal

/-- A literal that is written as a value is renders it. -/
theorem renders_of_text (hplain : ∀ c ∈ literal.toText.toList, Like.IsPlain c)
    (htext : type.writeDatum stored = some literal.toText) :
  literal.Renders type stored
  := ⟨hplain, "", by rw [String.append_empty, htext], fun _ => rfl⟩

theorem renders_bool (b : Bool) :
  (Literal.bool b).Renders .boolean (.cell (.bool b))
  := renders_of_text (Like.isPlain_boolText b) rfl

/-- The text of an integer in a column is its decimal text. -/
theorem writeDatum_integer (htype : type.isInteger = true) (n : Int) :
  type.writeDatum (.cell (.int n)) = some (signedText n)
  := by
  cases type with
  | int size => rfl
  | uint size => rfl
  | _ => cases htype

theorem renders_integer (htype : type.isInteger = true) {n : Int}
    (h : literal.toText = signedText n) :
  literal.Renders type (.cell (.int n))
  := by
  apply renders_of_text
  · rw [h]
    apply Like.isPlain_signedText
  · rw [h, writeDatum_integer htype]

theorem toText_of_integer? {n : Int} (h : literal.integer? = some n) :
  literal.toText = signedText n
  := by
  cases literal with
  | int m =>
      cases h
      rfl
  | uint m =>
      cases h
      rfl
  | _ => cases h

theorem renders_date32 {days : Int} (h : (Datum.cell (.int days)).IsWritten .date32) :
  (Literal.date days).Renders .date32 (.cell (.int days))
  := by
  obtain ⟨text, htext⟩ := h _ _ rfl rfl
  obtain ⟨written, hwritten, rfl⟩ := Except.map_eq_ok_iff.mp htext
  obtain ⟨hsame, hplain⟩ := toText_date hwritten
  apply renders_of_text
  · rw [hsame]
    exact hplain
  · rw [hsame]
    change (((Column.dateText days).map some).toOption).join = _
    rw [hwritten]
    rfl

theorem renders_date64 {days : Int}
    (h : (Datum.cell (.int (days * 86400000))).IsWritten .date64) :
  (Literal.date days).Renders .date64 (.cell (.int (days * 86400000)))
  := by
  have hinstant : Column.instantText none (days * 86400000 * 1000000)
      = (Column.dateText days).map (· ++ "T00:00:00") := by
    rw [← Column.instantText_midnight, Int.mul_assoc]
    rfl
  obtain ⟨text, htext⟩ := h _ _ rfl rfl
  obtain ⟨written, hwritten, rfl⟩ := Except.map_eq_ok_iff.mp htext
  obtain ⟨day, hday, rfl⟩ := Except.map_eq_ok_iff.mp (hinstant.symm.trans hwritten)
  obtain ⟨hsame, hplain⟩ := toText_date hday
  refine ⟨hsame ▸ hplain, "T00:00:00", ?_, by simp⟩
  rw [hsame]
  change (((Column.instantText none (days * 86400000 * 1000000)).map some).toOption).join = _
  rw [hinstant, hday]
  rfl

/-- Of the doubles, an integer of at most fifty-three bits equals the one that is written as it. -/
theorem renders_float (htype : type.isInteger = true) {x : Floating} {n : Int} {cell : Option Cell}
    (hholds : FloatFormat.double.Holds x) (hn : n.natAbs ≤ twoPow 53)
    (hcell : (Literal.float x).toCell (type.beside (.float x)) = .ok cell)
    (hequal : (cell.any fun found =>
      ((Datum.cell (.int n)).beside type (.float x)).relates .eq found) = true) :
  (Literal.float x).Renders type (.cell (.int n))
  := by
  have hwidens : type.widens (.float x) = true := htype
  rw [DataType.beside, if_pos hwidens] at hcell
  rw [Datum.beside, if_pos hwidens] at hequal
  cases hcell
  have hkeys : (FloatFormat.double.ofInt n).orderKey = (x.toFormat .double).orderKey :=
    compare_eq_iff_eq.mp (beq_iff_eq.mp hequal)
  rw [Floating.toFormat_eq FloatFormat.isProper_double hholds] at hkeys
  obtain ⟨hfinite, -⟩ := (FloatFormat.rounds_ofInt n).magnitude_eq hn
  obtain ⟨significand, exponent, hvalue, hvalues⟩ :=
    (FloatFormat.rounds_ofInt n).eq_finite hfinite
  have hsame : FloatFormat.double.ofInt n = x :=
    Floating.eq_of_orderKey_eq hfinite (hvalue ▸ hvalues) hholds hkeys
  apply renders_integer htype
  rw [toText, ← hsame, Floating.text_ofInt hn]

end Literal

/-! ### Operands of the kind of a type -/

/-- Whether a literal is of the kind in which a value of a type is written. -/
inductive Literal.Suits (type : DataType) (stored : Datum) : Literal → Prop where
  | bool (b : Bool) (htype : type.isInteger = false) : Suits type stored (.bool b)
  | integer {literal : Literal} {n : Int} (htype : type.isInteger = true)
    (h : literal.integer? = some n) : Suits type stored literal
  | float (x : Floating) (htype : type ≠ .boolean) (hholds : FloatFormat.double.Holds x)
    (h : type.isInteger = true → ∃ n : Int, stored = .cell (.int n) ∧ n.natAbs ≤ twoPow 53) :
    Suits type stored (.float x)
  | date (days : Int) (htype : type = .date32 ∨ type = .date64) : Suits type stored (.date days)

variable {dates : DateFormats} {counts : Bool}

/-- A text is converted to a literal of the kind of the type. -/
theorem Converter.suits_standard (htype : type.isBasic = true) {text : String}
    (h : standard dates text type = .ok literal) (stored : Datum) :
  literal.Suits type stored
  := by
  cases type with
  | boolean =>
      obtain ⟨b, rfl⟩ := eq_of_orRefuse h
      exact .bool b rfl
  | int size =>
      obtain ⟨n, rfl⟩ := eq_of_orRefuse h
      exact .integer rfl rfl
  | uint size =>
      obtain ⟨n, rfl⟩ := eq_of_orRefuse h
      exact .integer rfl rfl
  | date32 =>
      obtain ⟨date, rfl⟩ := eq_of_orRefuse h
      exact .date date.toDays (.inl rfl)
  | date64 =>
      obtain ⟨date, rfl⟩ := eq_of_orRefuse h
      exact .date date.toDays (.inr rfl)
  | _ => cases htype

/-- An operand of the kind of a type becomes a literal of that kind. -/
theorem Coercion.suits_literal (htype : type.isBasic = true) (hsuits : type.Suits stored value)
    (h : (Coercion.mk (Converter.standard dates) counts).literal type value = .ok literal) :
  literal.Suits type stored
  := by
  cases value with
  | null => cases hsuits
  | bool b =>
      cases h
      exact .bool b hsuits
  | number number =>
      cases h
      cases number with
      | floating x => exact .float x hsuits.1 hsuits.2.1 hsuits.2.2
      | integer n =>
          rw [numberLiteral]
          split
          · exact .integer hsuits rfl
          · exact .integer hsuits rfl
  | text s =>
      cases hconverted : Converter.standard dates s type with
      | error message => cases h.symm.trans (literal_of_converter_error hconverted)
      | ok converted =>
          have htextual := (DataType.isPlain_of_isBasic htype).isTextual
          cases h.symm.trans (literal_of_converter htextual hconverted)
          apply Converter.suits_standard htype hconverted

/-- A literal of the kind of a type that a value equals renders the value. -/
theorem Literal.Suits.renders (htype : type.isBasic = true) (hsuits : literal.Suits type stored)
    (hwritten : stored.IsWritten type) {cell : Option Cell}
    (hcell : literal.toCell (type.beside literal) = .ok cell)
    (hequal : (cell.any fun found => (stored.beside type literal).relates .eq found) = true) :
  literal.Renders type stored
  := by
  cases hsuits with
  | bool b hinteger =>
      rcases DataType.eq_of_isBasic htype hinteger with rfl | rfl | rfl
      · cases hcell
        obtain rfl := Datum.relates_eq_bool_iff.mp hequal
        apply Literal.renders_bool
      · cases hcell
      · cases hcell
  | integer hinteger hn =>
      have hwidens : type.widens literal = false := by
        cases literal <;> first | rfl | cases hn
      rw [DataType.beside, hwidens, if_neg Bool.false_ne_true,
        Literal.toCell_integer hinteger hn] at hcell
      rw [Datum.beside, hwidens, if_neg Bool.false_ne_true] at hequal
      split at hcell
      · cases hcell
        obtain rfl := Datum.relates_eq_int_iff.mp hequal
        apply Literal.renders_integer hinteger (Literal.toText_of_integer? hn)
      · cases hcell
  | float x hboolean hholds hexact =>
      cases hinteger : type.isInteger with
      | true =>
          obtain ⟨n, rfl, hn⟩ := hexact hinteger
          apply Literal.renders_float hinteger hholds hn hcell hequal
      | false =>
          rcases DataType.eq_of_isBasic htype hinteger with rfl | rfl | rfl
          · contradiction
          · cases hcell
          · cases hcell
  | date days hdate =>
      rcases hdate with rfl | rfl
      · cases hcell
        obtain rfl := Datum.relates_eq_int_iff.mp hequal
        apply Literal.renders_date32 hwritten
      · cases hcell
        obtain rfl := Datum.relates_eq_int_iff.mp hequal
        apply Literal.renders_date64 hwritten

/-- The text of a literal that renders a value is found in the text of the value. -/
theorem Literal.Renders.like (h : literal.Renders type stored) {text : String}
    (htext : type.writeDatum stored = some text) :
  likeText (TextMatch.startsWith.pattern literal.toText) text = true ∧
  likeText (TextMatch.contains.pattern literal.toText) text = true ∧
  (type ≠ .date64 → likeText (TextMatch.endsWith.pattern literal.toText) text = true)
  := by
  obtain ⟨hplain, rest, hrest, hdate⟩ := h
  obtain rfl := Option.some.inj (hrest.symm.trans htext)
  have hclosed := Like.endsOpen_of_plain hplain
  rw [Like.likeText_startsWith_iff hclosed, Like.likeText_contains_iff hclosed,
    Like.likeText_endsWith_iff, Like.begins_ofChars_iff hplain, Like.occurs_ofChars_iff hplain,
    Like.ends_ofChars_iff hplain, String.toList_append]
  refine ⟨List.prefix_append _ _, (List.prefix_append _ _).isInfix, ?_⟩
  intro htype
  rw [hdate htype, String.toList_empty, List.append_nil]

/-! ### Columns that are written -/

namespace Column

/-- If cells are written, each of them is. -/
theorem exists_of_writeCells {write : Cell → Except CastFault (Option String)}
    {cells : List (Option Cell)} {written : List (Option String)}
    (h : writeCells write cells = .ok written) {cell : Cell} (hmem : some cell ∈ cells) :
  ∃ text, write cell = .ok text
  := by
  induction cells generalizing written with
  | nil => cases hmem
  | cons entry rest ih =>
      cases entry with
      | none =>
          obtain ⟨others, hothers, -⟩ := Except.map_eq_ok_iff.mp h
          apply ih hothers
          exact (List.mem_cons.mp hmem).resolve_left nofun
      | some other =>
          obtain ⟨first, hfirst, h'⟩ := Except.bind_eq_ok_iff.mp h
          obtain ⟨others, hothers, -⟩ := Except.bind_eq_ok_iff.mp h'
          rcases List.mem_cons.mp hmem with hsame | hrest
          · cases hsame
            exact ⟨first, hfirst⟩
          · apply ih hothers hrest

/-- If the values of a leaf have texts, each of them is written. -/
theorem isWritten_leaf {cells : List (Option Cell)} {written : List (Option String)}
    (h : (leaf type cells).texts = .ok written) (row : Nat) :
  ((leaf type cells).datum row).IsWritten type
  := by
  intro write cell hwrite hcell
  obtain ⟨_, hsame, hwritten⟩ := Except.bind_eq_ok_iff.mp h
  cases hwrite.symm.trans hsame
  apply exists_of_writeCells hwritten
  rw [datum_leaf] at hcell
  cases hentry : cells[row]?.join with
  | none =>
      rw [hentry] at hcell
      cases hcell
  | some found =>
      rw [hentry] at hcell
      cases hcell
      exact List.mem_of_getElem? (Option.join_eq_some_iff.mp hentry)

/-- All truth values and all integers have texts. -/
theorem exists_texts (htype : type.isBasic = true) (hdays : ¬ (type = .date32 ∨ type = .date64))
    (cells : List (Option Cell)) :
  ∃ written, (leaf type cells).texts = .ok written
  := by
  have hleaf {write : Cell → Except CastFault (Option String)}
      (hwrite : cellWriter type = .ok write) (htotal : ∀ cell, ∃ text, write cell = .ok text) :
      ∃ written, (leaf type cells).texts = .ok written := by
    rw [texts, hwrite]
    apply exists_writeCells htotal
  cases type with
  | boolean => exact hleaf rfl fun cell => by cases cell <;> exact ⟨_, rfl⟩
  | int size => exact hleaf rfl fun cell => by cases cell <;> exact ⟨_, rfl⟩
  | uint size => exact hleaf rfl fun cell => by cases cell <;> exact ⟨_, rfl⟩
  | date32 => exact absurd (.inl rfl) hdays
  | date64 => exact absurd (.inr rfl) hdays
  | _ => cases htype

end Column

/-- A field of truth values, integers or days is written, if its days are. -/
theorem ColumnField.exists_isWritten {field : ColumnField} (htype : field.type.isBasic = true)
    (hdays : field.type = .date32 ∨ field.type = .date64 →
      ∃ written, field.column.texts = .ok written) :
  ∃ written, field.column.texts = .ok written ∧
    ∀ row, (field.column.datum row).IsWritten field.type
  := by
  obtain ⟨cells, hleaf⟩ := field.eq_leaf
    (by revert htype; cases field.type <;> first | exact fun _ => rfl | nofun)
    (by revert htype; cases field.type <;> first | exact fun _ => rfl | nofun)
  obtain ⟨written, htexts⟩ : ∃ written, field.column.texts = .ok written := by
    by_cases h : field.type = .date32 ∨ field.type = .date64
    · exact hdays h
    · rw [hleaf]
      apply Column.exists_texts htype h
  refine ⟨written, htexts, ?_⟩
  rw [hleaf] at htexts ⊢
  apply Column.isWritten_leaf htexts

namespace Batch

variable {batch : Batch} {path : String} {field : ColumnField} {row : Nat}

/-- An operand of the kind of a type that a row equals becomes a literal that renders the value. -/
theorem exists_renders (h : batch.IsValid) (hleads : batch.Leads (Path.segments path) field)
    (htype : field.type.isBasic = true) (hsuits : field.type.Suits (field.column.datum row) value)
    (hwritten : (field.column.datum row).IsWritten field.type)
    (hequal : batch.verdict ⟨Converter.standard dates, counts⟩ row
      ⟨path, .relation .eq, .scalar value⟩ = true) :
  row < batch.rows ∧
  ∃ literal,
    (Coercion.mk (Converter.standard dates) counts).literal field.type value = .ok literal ∧
    literal.isNull = false ∧ literal.Renders field.type (field.column.datum row)
  := by
  obtain ⟨hbuilt, hfits⟩ := h.leads hleads
  have hplain := DataType.isPlain_of_isBasic htype
  have hcompared := Compiler.run_folded_of_isPlain batch ⟨Converter.standard dates, counts⟩ hplain
  have hvalue : value ≠ .null := by
    rintro rfl
    cases hsuits
  obtain ⟨mask, hmask⟩ := failure?_comparison_iff.mp (failure?_of_verdict hequal)
  rw [verdict_of_run hmask] at hequal
  obtain ⟨hliteral, -⟩ | ⟨literal, hliteral, hnull, hrelate⟩ :=
    Compiler.run_relation_cases hleads hcompared hmask
  · cases Coercion.isNull_literal (fun _ _ => Converter.isNull_standard) hvalue hliteral
  · have hvalues := Column.relate_eq_values hbuilt hfits hplain.isNested field.path .eq literal
    rw [← ColumnField.relate, hrelate] at hvalues
    split at hvalues
    · cases hvalues
    · next cell hcell =>
        split at hvalues
        · cases hvalues
        · cases hvalues
          obtain ⟨hrow, hfound⟩ := Mask.accepts_ofRows_iff.mp hequal
          have hkind := Coercion.suits_literal htype hsuits hliteral
          exact ⟨hrow, literal, hliteral, hnull, hkind.renders htype hwritten hcell hfound⟩

/-- Where a truth value, an integer or a day equals an operand of the kind in which it is written,
the text of the operand is found in that of the value: at the beginning, and at the end as well
unless the value is a moment.  The comparisons compile if all days of the field have texts. -/
theorem verdicts_rendered (h : batch.IsValid) (dates : DateFormats) (counts : Bool)
    (hleads : batch.Leads (Path.segments path) field) (htype : field.type.isBasic = true)
    (hdays : field.type = .date32 ∨ field.type = .date64 →
      ∃ written, field.column.texts = .ok written)
    (hsuits : field.type.Suits (field.column.datum row) value)
    (hequal : batch.verdict ⟨Converter.standard dates, counts⟩ row
      ⟨path, .relation .eq, .scalar value⟩ = true) :
  let coercion : Coercion := ⟨Converter.standard dates, counts⟩
  let looking (kind : TextMatch) : Comparison := ⟨path, .textMatch kind, .scalar value⟩
  (∀ kind, batch.failure? coercion (looking kind) = none) ∧
  batch.verdict coercion row (looking .startsWith) = true ∧
  batch.verdict coercion row (looking .contains) = true ∧
  batch.verdict coercion row (looking .notContains) = false ∧
  (field.type ≠ .date64 → batch.verdict coercion row (looking .endsWith) = true) ∧
  ∃ literal rest, coercion.literal field.type value = .ok literal ∧
    field.type.writeDatum (field.column.datum row) = some (literal.toText ++ rest) ∧
    (field.type ≠ .date64 → rest = "")
  := by
  intro coercion looking
  obtain ⟨hbuilt, hfits⟩ := h.leads hleads
  obtain ⟨written, htexts, hwritten⟩ := ColumnField.exists_isWritten htype hdays
  obtain ⟨hrow, literal, hliteral, hnull, hrenders⟩ :=
    exists_renders h hleads htype hsuits (hwritten row) hequal
  have hcompared :=
    Compiler.run_folded_of_isPlain batch coercion (DataType.isPlain_of_isBasic htype)
  have hrun (kind : TextMatch) :=
    (Compiler.run_textMatch_of_literal hleads hcompared hliteral hnull kind).trans
      (ColumnField.like_of_texts hbuilt hfits htexts _ _)
  obtain ⟨-, rest, htext, hdate⟩ := id hrenders
  obtain ⟨hstarts, hcontains, hends⟩ := hrenders.like htext
  have hverdict (kind : TextMatch) : batch.verdict coercion row (looking kind)
      = (likeText (kind.pattern literal.toText) (literal.toText ++ rest) == kind.expected) := by
    rw [verdict_of_run (hrun kind), Mask.accepts_ofRows hrow, htext, Option.any_some]
  refine ⟨fun kind => failure?_comparison_iff.mpr ⟨_, hrun kind⟩, ?_, ?_, ?_, ?_, ?_⟩
  · rw [hverdict, hstarts]
    rfl
  · rw [hverdict, hcontains]
    rfl
  · have hpattern : TextMatch.notContains.pattern literal.toText
        = TextMatch.contains.pattern literal.toText := rfl
    rw [hverdict, hpattern, hcontains]
    rfl
  · intro hmoment
    rw [hverdict, hends hmoment]
    rfl
  · exact ⟨literal, rest, hliteral, htext, hdate⟩

/-- A day that is stored as a moment, and an integer that equals a number with a fraction. -/
theorem verdicts_rendered_days_doubles :
  let day : ColumnField := ⟨"d", .leaf .date64 [some (.int 86400000), none]⟩
  let number : ColumnField := ⟨"n", .leaf (.int .w64) [none, some (.int 9007199254740992)]⟩
  let batch : Batch := ⟨2, [("d", day.column), ("n", number.column)]⟩
  let coercion : Coercion := ⟨Converter.standard DateFormats.default, true⟩
  let double : Floating := .finite false 4503599627370496 1
  let kept (path : String) (op : Operator) (value : Scalar) (row : Nat) : Bool :=
    batch.verdict coercion row ⟨path, op, .scalar value⟩
  batch.IsValid ∧
  (batch.Leads (Path.segments "d") day ∧ day.type.isBasic = true ∧
    (∃ written, day.column.texts = .ok written) ∧
    day.type.Suits (day.column.datum 0) (.text "01/02/1970") ∧
    kept "d" (.relation .eq) (.text "01/02/1970") 0 = true ∧
    kept "d" (.textMatch .startsWith) (.text "01/02/1970") 0 = true) ∧
  batch.Leads (Path.segments "n") number ∧ number.type.isBasic = true ∧
  ¬ (number.type = .date32 ∨ number.type = .date64) ∧
  number.type.Suits (number.column.datum 1) (.number (.floating double)) ∧
  kept "n" (.relation .eq) (.number (.floating double)) 1 = true ∧
  kept "n" (.textMatch .endsWith) (.number (.floating double)) 1 = true
  := by
  intro day number batch coercion double kept
  have hvalid : batch.IsValid := ⟨⟨rfl, rfl, trivial⟩, ⟨rfl, rfl⟩, ⟨rfl, rfl⟩, trivial⟩
  have hday : batch.Leads (Path.segments "d") day := ⟨day, rfl, rfl⟩
  have hnumber : batch.Leads (Path.segments "n") number := ⟨number, rfl, rfl⟩
  have hwritten : ∃ written, day.column.texts = .ok written := ⟨_, rfl⟩
  have hkind : day.type.Suits (day.column.datum 0) (.text "01/02/1970") := trivial
  have hsuits : number.type.Suits (number.column.datum 1) (.number (.floating double)) :=
    ⟨nofun, ⟨by decide, ⟨by decide, by decide⟩, .inr (by decide)⟩,
      fun _ => ⟨9007199254740992, rfl, by decide⟩⟩
  have hdates : ¬ (number.type = .date32 ∨ number.type = .date64) := by
    rintro (h | h) <;> cases h
  have hmoment : kept "d" (.relation .eq) (.text "01/02/1970") 0 = true := by decide +kernel
  have hdouble : kept "n" (.relation .eq) (.number (.floating double)) 1 = true := by
    decide +kernel
  have hfound := verdicts_rendered hvalid DateFormats.default true hday rfl (fun _ => hwritten)
    hkind hmoment
  have hends := verdicts_rendered hvalid DateFormats.default true hnumber rfl
    (fun h => absurd h hdates) hsuits hdouble
  exact ⟨hvalid, ⟨hday, rfl, hwritten, hkind, hmoment, hfound.2.1⟩, hnumber, rfl, hdates, hsuits,
    hdouble, hends.2.2.2.2.1 nofun⟩

/-- A value equals operands of another kind too, in the text of which it is not written, as null and
doubles beyond fifty-three bits; and no text is looked for where some day has none.  A time of day
is written behind a `T` in a column, and behind a blank in a pattern. -/
theorem verdicts_unlike :
  let kept (type : DataType) (cells : List (Option Cell)) (op : Operator) (value : Scalar) : Bool :=
    (Batch.mk cells.length [("v", .leaf type cells)]).verdict
      ⟨Converter.standard DateFormats.default, true⟩ 0 ⟨"v", op, .scalar value⟩
  let differs (kind : TextMatch) (type : DataType) (cells : List (Option Cell))
      (value : Scalar) : Prop :=
    kept type cells (.relation .eq) value = true ∧
    kept type cells (.textMatch kind) value = false
  differs .contains (.int .w64) [none] .null ∧
  differs .contains .boolean [some (.bool true)] (.number (.integer 1)) ∧
  differs .contains .boolean [some (.bool true)]
    (.number (.floating (.finite false 4503599627370496 1))) ∧
  differs .contains (.int .w64) [some (.int 1)] (.bool true) ∧
  differs .contains .date32 [some (.int 5)] (.number (.integer 5)) ∧
  differs .contains .date64 [some (.int 86400000)] (.number (.integer 86400000)) ∧
  differs .contains (.int .w64) [some (.int 9007199254740993)]
    (.number (.floating (.finite false 4503599627370496 1))) ∧
  differs .contains .date32 [some (.int 0), some (.int 2147483647)] (.text "1970-01-01") ∧
  differs .contains (.timestamp .second none) [some (.int 0)] (.text "1970-01-01 00:00:00") ∧
  differs .endsWith .date64 [some (.int 0)] (.text "1970-01-01")
  := by
  decide +kernel

end Batch

end RowFilter
