import RowFilter.Proofs.Filter.Operands
import RowFilter.Proofs.Number.Digits

/-!
# Integers

An integer operand is a number, or a text of its decimal digits (`Scalar.Spells`).  A field of
integers refuses it if it is not in the range of the type (`DataType.holdsInteger`), whichever way
it is written, and otherwise answers it exactly; `Batch.verdict_integer` says so of all relations
and memberships.
-/

namespace RowFilter

/-- Whether an integer is in the range of a type of integers. -/
def DataType.holdsInteger (type : DataType) (n : Int) : Bool :=
  match type with
  | .int size => fitsSigned size.bits n
  | .uint size => fitsUnsigned size.bits n
  | _ => false

/-- The cell of an integer in a type of integers, if it is in the range. -/
def DataType.integerCell? (type : DataType) (n : Int) : Option Cell :=
  if type.holdsInteger n then some (.int n) else none

/-- Whether an operand is an integer of sixty-four bits, signed or not, as a number or as the text
of its decimal digits. -/
structure Scalar.Spells (value : Scalar) (n : Int) : Prop where
  low : -(twoPow 63 : Int) ≤ n
  high : n < (twoPow 64 : Int)
  spelled : value = .number (.integer n) ∨ value = .text (signedText n)

/-! ### Ranges -/

theorem fitsSigned_iff {bits : Nat} {n : Int} :
  fitsSigned bits n = true ↔ -(twoPow (bits - 1) : Int) ≤ n ∧ n < (twoPow (bits - 1) : Int)
  := by
  rw [fitsSigned, Bool.and_eq_true, decide_eq_true_iff, decide_eq_true_iff]

theorem fitsUnsigned_iff {bits : Nat} {n : Int} :
  fitsUnsigned bits n = true ↔ 0 ≤ n ∧ n < (twoPow bits : Int)
  := by
  rw [fitsUnsigned, Bool.and_eq_true, decide_eq_true_iff, decide_eq_true_iff]

theorem IntSize.bits_le (size : IntSize) :
  size.bits ≤ 64
  := by
  cases size <;> decide

theorem twoPow_le_twoPow {m n : Nat} (h : m ≤ n) :
  (twoPow m : Int) ≤ (twoPow n : Int)
  := Int.ofNat_le.mpr (Nat.pow_le_pow_right Nat.two_pos h)

/-- What fits a word fits a wider one. -/
theorem fitsSigned_mono {narrow wide : Nat} (h : narrow ≤ wide) {n : Int}
    (hfits : fitsSigned narrow n = true) :
  fitsSigned wide n = true
  := by
  have hpow := twoPow_le_twoPow (Nat.sub_le_sub_right h 1)
  rw [fitsSigned_iff] at hfits ⊢
  omega

theorem fitsUnsigned_mono {narrow wide : Nat} (h : narrow ≤ wide) {n : Int}
    (hfits : fitsUnsigned narrow n = true) :
  fitsUnsigned wide n = true
  := by
  have hpow := twoPow_le_twoPow h
  rw [fitsUnsigned_iff] at hfits ⊢
  omega

namespace DataType

variable {type : DataType} {n : Int}

theorem integerCell?_eq (h : type.holdsInteger n = true) :
  type.integerCell? n = some (.int n)
  := if_pos h

theorem isSome_integerCell? (type : DataType) (n : Int) :
  (type.integerCell? n).isSome = type.holdsInteger n
  := by
  rw [integerCell?]
  cases type.holdsInteger n <;> rfl

theorem isNone_integerCell? (type : DataType) (n : Int) :
  (type.integerCell? n).isNone = !type.holdsInteger n
  := by
  rw [integerCell?]
  cases type.holdsInteger n <;> rfl

/-- An integer is equal to the cell of one of some integers if and only if it is one of them. -/
theorem any_integerCell? {ns : List Int} (h : ns.all type.holdsInteger = true) (v : Int) :
  (ns.any fun n => (type.integerCell? n).any fun found => (Cell.int v).compare found == .eq)
    = ns.contains v
  := by
  rw [Bool.eq_iff_iff, List.contains_eq_any_beq, List.any_eq_true, List.any_eq_true]
  refine exists_congr fun n => and_congr_right ?_
  intro hmem
  rw [integerCell?_eq (List.all_eq_true.mp h n hmem), Option.any_some, Cell.compare, beq_iff_eq,
    beq_iff_eq, Int.compare_eq_eq]

end DataType

/-! ### Literals -/

namespace Literal

/-- The integer that a literal is, if it is one. -/
def integer? : Literal → Option Int
  | .int n => some n
  | .uint n => some n
  | _ => none

theorem isNull_of_integer? {literal : Literal} {n : Int} (h : literal.integer? = some n) :
  literal.isNull = false
  := by
  cases literal with
  | null => cases h
  | _ => rfl

/-- In a type of integers, an integer has a cell if and only if the type holds it. -/
theorem toCell_integer {type : DataType} (htype : type.isInteger = true) {literal : Literal}
    {n : Int} (h : literal.integer? = some n) :
  literal.toCell type = if type.holdsInteger n then .ok (some (.int n)) else .error .cast
  := by
  cases literal with
  | int m =>
      cases h
      cases type with
      | int size => rfl
      | uint size => rfl
      | _ => cases htype
  | uint m =>
      cases h
      cases type with
      | int size => rfl
      | uint size => rfl
      | _ => cases htype
  | _ => cases h

end Literal

/-- A leaf is compared with an integer in its own type. -/
theorem Column.operands_integer {literal : Literal} {n : Int} (h : literal.integer? = some n)
    (type : DataType) (cells : List (Option Cell)) :
  (leaf type cells).operands literal = castBeside literal type cells
  := by
  cases literal with
  | int m => rfl
  | uint m => rfl
  | _ => cases h

/-- The text of an integer is converted to a type of integers, if it has at most sixty-four bits as
all integers of the type. -/
theorem Converter.standard_signedText (dates : DateFormats) {type : DataType}
    (htype : type.isInteger = true) (n : Int) :
  (∃ literal, literal.integer? = some n ∧ standard dates (signedText n) type = .ok literal) ∨
  type.holdsInteger n = false ∧
    ∃ message, standard dates (signedText n) type = .error message
  := by
  rw [standard.eq_def]
  cases type with
  | int size =>
      dsimp only
      rw [readSigned?_signedText]
      cases hfits : fitsSigned 64 n with
      | true => exact .inl ⟨.int n, rfl, rfl⟩
      | false =>
          refine .inr ⟨?_, _, rfl⟩
          rw [DataType.holdsInteger, ← Bool.not_eq_true]
          intro hnarrow
          cases hfits.symm.trans (fitsSigned_mono size.bits_le hnarrow)
  | uint size =>
      dsimp only
      rw [readUnsigned?_signedText]
      cases hfits : fitsUnsigned 64 n with
      | true =>
          have hnonneg := (fitsUnsigned_iff.mp hfits).1
          exact .inl ⟨.uint n.toNat, congrArg some (Int.toNat_of_nonneg hnonneg), rfl⟩
      | false =>
          refine .inr ⟨?_, _, rfl⟩
          rw [DataType.holdsInteger, ← Bool.not_eq_true]
          intro hnarrow
          cases hfits.symm.trans (fitsUnsigned_mono size.bits_le hnarrow)
  | _ => cases htype

namespace Coercion

variable {type : DataType} {value : Scalar} {n : Int}

/-- A number that is an integer becomes a literal that is the integer. -/
theorem integer?_numberLiteral (hlow : -(twoPow 63 : Int) ≤ n) :
  (numberLiteral (.integer n)).integer? = some n
  := by
  rw [numberLiteral]
  split
  · rfl
  · next hfits =>
      have hnonneg : 0 ≤ n := by
        by_contra hneg
        apply hfits
        have hpos : (0 : Int) < (twoPow 63 : Int) := by decide
        exact fitsSigned_iff.mpr ⟨hlow, by omega⟩
      exact congrArg some (Int.toNat_of_nonneg hnonneg)

/-- For a type of integers, an operand that spells an integer becomes a literal that is the integer,
or is refused because no integer of the type has so many bits. -/
theorem literal_integer (dates : DateFormats) (counts : Bool) (htype : type.isInteger = true)
    (h : value.Spells n) :
  (∃ literal, literal.integer? = some n ∧
    Coercion.literal ⟨Converter.standard dates, counts⟩ type value = .ok literal) ∨
  type.holdsInteger n = false ∧ ∃ message,
    Coercion.literal ⟨Converter.standard dates, counts⟩ type value
      = .error (.conversion (signedText n) type (.refused message))
  := by
  obtain ⟨hlow, _, rfl | rfl⟩ := h
  · exact .inl ⟨_, integer?_numberLiteral hlow, rfl⟩
  · rcases Converter.standard_signedText dates htype n with
      ⟨literal, hinteger, hread⟩ | ⟨hout, message, hread⟩
    · have htextual := (DataType.isPlain_of_isInteger htype).isTextual
      exact .inl ⟨literal, hinteger, literal_of_converter htextual hread⟩
    · exact .inr ⟨hout, message, literal_of_converter_error hread⟩

end Coercion

namespace ColumnField

variable {field : ColumnField} {value : Scalar} {n : Int}

/-- A field of integers is a leaf. -/
theorem eq_leaf_of_isInteger (h : field.type.isInteger = true) :
  ∃ cells, field.column = .leaf field.type cells
  := by
  cases htype : field.type with
  | int size =>
      rw [← htype]
      apply eq_leaf <;> rw [htype] <;> rfl
  | uint size =>
      rw [← htype]
      apply eq_leaf <;> rw [htype] <;> rfl
  | _ =>
      rw [htype] at h
      cases h

/-- A field of integers takes an integer by the cell that it has in the type. -/
theorem takes_integer (dates : DateFormats) (counts : Bool) (htype : field.type.isInteger = true)
    (hvalue : value.Spells n) :
  field.Takes ⟨Converter.standard dates, counts⟩ value (field.type.integerCell? n)
  := by
  obtain ⟨cells, hcolumn⟩ := eq_leaf_of_isInteger htype
  obtain ⟨literal, hinteger, hliteral⟩ | ⟨hout, message, hliteral⟩ :=
    Coercion.literal_integer dates counts htype hvalue
  · apply takes_of_toCell hcolumn hliteral (Literal.isNull_of_integer? hinteger) _ _
      (DataType.isPlain_of_isInteger htype)
    · rw [hcolumn]
      apply Column.operands_integer hinteger
    · refine ⟨.cast, ?_⟩
      rw [Literal.toCell_integer htype hinteger, DataType.integerCell?]
      split <;> rfl
  · rw [DataType.integerCell?, hout]
    exact ⟨_, rfl, .inl hliteral⟩

end ColumnField

namespace Batch

variable {batch : Batch} {path : String} {field : ColumnField}

/-- Integers are compared exactly or refused, as numbers and as texts alike.  A relation to an
integer fails, with an error that it cannot be converted, if and only if the integer is not in the
range of the type of the field; otherwise it is true in the rows whose values stand in it.  So it is
for a membership, which fails if and only if one of the integers is not in the range. -/
theorem verdict_integer (dates : DateFormats) (counts : Bool)
    (hleads : batch.Leads (Path.segments path) field) (htype : field.type.isInteger = true) :
  let coercion : Coercion := ⟨Converter.standard dates, counts⟩
  (∀ (value : Scalar) (n : Int), value.Spells n → ∀ relation,
    let comparison : Comparison := ⟨path, .relation relation, .scalar value⟩
    batch.failsConversion coercion comparison = !field.type.holdsInteger n ∧
    (field.type.holdsInteger n = true →
      batch.failure? coercion comparison = none ∧
      ∀ row, (field.column.datum row = .null → batch.verdict coercion row comparison = false) ∧
        ∀ v, field.column.datum row = .cell (.int v) →
          (batch.verdict coercion row comparison = true ↔ relation.Relates v n))) ∧
  ∀ (values : List Scalar) (ns : List Int), List.Forall₂ Scalar.Spells values ns → ∀ kind,
    let comparison : Comparison := ⟨path, .membership kind, .list values⟩
    batch.failsConversion coercion comparison = !ns.all field.type.holdsInteger ∧
    (ns.all field.type.holdsInteger = true →
      batch.failure? coercion comparison = none ∧
      ∀ row v, field.column.datum row = .cell (.int v) →
        batch.verdict coercion row comparison = kind.holds (ns.contains v))
  := by
  intro coercion
  obtain ⟨cells, hcolumn⟩ := ColumnField.eq_leaf_of_isInteger htype
  have hplain := DataType.isPlain_of_isInteger htype
  constructor
  · intro value n hvalue relation comparison
    have htakes := ColumnField.takes_integer dates counts htype hvalue
    obtain ⟨hfails, hfound⟩ := outcome_of_takes hleads hplain hcolumn htakes relation
    rw [DataType.isNone_integerCell?] at hfails
    refine ⟨hfails, ?_⟩
    intro hholds
    obtain ⟨hok, hverdict⟩ := hfound _ (DataType.integerCell?_eq hholds)
    refine ⟨hok, fun row => ⟨(hverdict row).1, ?_⟩⟩
    intro v hv
    rw [(hverdict row).2 _ hv, Cell.compare]
    apply relation.holds_compare_iff
  · intro values ns hvalues kind comparison
    have htakes := hvalues.imp fun _ _ => ColumnField.takes_integer dates counts htype
    obtain ⟨hfails, hfound⟩ := outcome_of_takes_all hleads hplain hcolumn htakes kind
    simp only [DataType.isSome_integerCell?] at hfails hfound
    refine ⟨hfails, ?_⟩
    intro hholds
    obtain ⟨hok, hverdict⟩ := hfound hholds
    refine ⟨hok, ?_⟩
    intro row v hv
    rw [(hverdict row).2 _ hv, DataType.any_integerCell? hholds]

/-- Integers at the ends of the words, compared with unsigned integers of sixty-four bits. -/
theorem verdict_integer_limits :
  let field : ColumnField := ⟨"n", .leaf (.uint .w64)
    [some (.int 18446744073709551615), some (.int 9223372036854775807), none]⟩
  let batch : Batch := ⟨3, [("n", field.column)]⟩
  let coercion : Coercion := ⟨Converter.standard DateFormats.default, true⟩
  let greatest : Scalar := .number (.integer 9223372036854775807)
  let beyond : Scalar := .text "18446744073709551615"
  batch.Leads (Path.segments "n") field ∧
  greatest.Spells 9223372036854775807 ∧ beyond.Spells 18446744073709551615 ∧
  batch.verdict coercion 0 ⟨"n", .relation .gt, .scalar greatest⟩ = true ∧
  batch.verdict coercion 2 ⟨"n", .relation .ne, .scalar greatest⟩ = false ∧
  batch.verdict coercion 1 ⟨"n", .membership .noneOf, .list [greatest, beyond]⟩ = false ∧
  batch.failsConversion coercion ⟨"n", .relation .gt, .scalar (.text "-1")⟩ = true
  := by
  intro field batch coercion greatest beyond
  have hleads : batch.Leads (Path.segments "n") field := ⟨field, rfl, rfl⟩
  have hgreatest : greatest.Spells 9223372036854775807 := ⟨by decide, by decide, .inl rfl⟩
  have hbeyond : beyond.Spells 18446744073709551615 :=
    ⟨by decide, by decide, .inr (congrArg Scalar.text (by decide +kernel))⟩
  have hbelow : Scalar.Spells (.text "-1") (-1) :=
    ⟨by decide, by decide, .inr (congrArg Scalar.text (by decide +kernel))⟩
  obtain ⟨hrelation, hmembership⟩ := verdict_integer DateFormats.default true hleads rfl
  refine ⟨hleads, hgreatest, hbeyond, ?_, ?_, ?_, ?_⟩
  · apply ((((hrelation _ _ hgreatest .gt).2 rfl).2 0).2 _ rfl).mpr
    decide
  · apply (((hrelation _ _ hgreatest .ne).2 rfl).2 2).1 rfl
  · apply ((hmembership _ _ (.cons hgreatest (.cons hbeyond .nil)) .noneOf).2 rfl).2 1 _ rfl
  · apply (hrelation _ _ hbelow .gt).1

end Batch

end RowFilter
