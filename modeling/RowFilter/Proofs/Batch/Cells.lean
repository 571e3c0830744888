import Mathlib.Order.Compare
import RowFilter.Batch.Compare

/-!
# Cells

The cells of all types are in one total order (`Cell.transCmp_compare`), in which those of one kind
are side by side.  A literal that is not null has a cell in a type of values that are in order, if
it is not refused (`Literal.settles_toCell`).
-/

namespace RowFilter

namespace Cell

/-! ### The order of cells -/

/-- Cells of different kinds are in the order of the kinds. -/
theorem compare_of_rank_ne {a b : Cell} (h : a.rank ≠ b.rank) :
  a.compare b = Ord.compare a.rank b.rank
  := by
  cases a <;> cases b <;> first | rfl | contradiction

/-- A cell is not above one of a later kind, and not below one of an earlier. -/
theorem rank_le_of_isLE {a b : Cell} (h : (a.compare b).isLE = true) :
  a.rank ≤ b.rank
  := by
  by_cases hrank : a.rank = b.rank
  · exact Nat.le_of_eq hrank
  · rw [compare_of_rank_ne hrank, Std.isLE_compare] at h
    exact h

/-- Cells of one kind are in the order of their values. -/
theorem isLE_trans_of_rank_eq {a b c : Cell} (hab : a.rank = b.rank) (hbc : b.rank = c.rank)
    (h : (a.compare b).isLE = true) (h' : (b.compare c).isLE = true) :
  (a.compare c).isLE = true
  := by
  cases a with
  | bool x =>
      cases b <;> cases hab
      cases c <;> cases hbc
      exact @Std.TransCmp.isLE_trans _ Ord.compare _ _ _ _ h h'
  | int x =>
      cases b <;> cases hab
      cases c <;> cases hbc
      exact @Std.TransCmp.isLE_trans _ Ord.compare _ _ _ _ h h'
  | float x =>
      cases b <;> cases hab
      cases c <;> cases hbc
      exact @Std.TransCmp.isLE_trans _ Ord.compare _ _ _ _ h h'
  | text x =>
      cases b <;> cases hab
      cases c <;> cases hbc
      exact @Std.TransCmp.isLE_trans _ Ord.compare _ _ _ _ h h'
  | bytes x =>
      cases b <;> cases hab
      cases c <;> cases hbc
      exact @Std.TransCmp.isLE_trans _ Ord.compare _ _ _ _ h h'

/-- The order of cells is total. -/
instance transCmp_compare : Std.TransCmp Cell.compare where
  eq_swap := by
    intro a b
    by_cases hrank : a.rank = b.rank
    · cases a <;> cases b <;> cases hrank <;>
        exact @Std.OrientedCmp.eq_swap _ Ord.compare _ _ _
    · rw [compare_of_rank_ne hrank, compare_of_rank_ne (Ne.symm hrank)]
      exact Std.OrientedCmp.eq_swap
  isLE_trans := by
    intro a b c h h'
    have hab := rank_le_of_isLE h
    have hbc := rank_le_of_isLE h'
    by_cases hrank : a.rank = c.rank
    · apply isLE_trans_of_rank_eq _ _ h h' <;> omega
    · rw [compare_of_rank_ne hrank, Std.isLE_compare]
      exact Nat.le_trans hab hbc

end Cell

/-! ### Cells of literals -/

namespace Casting

/-- Whether a cast does not come out as null. -/
def Settles (casting : Casting) : Prop :=
  casting ≠ .ok none

theorem settles_cell (cell : Cell) :
  Settles (.ok (some cell))
  := nofun

theorem settles_error (fault : CastFault) :
  Settles (.error fault)
  := nofun

theorem settles_map_some {α : Type} (outcome : Except CastFault α) (make : α → Cell) :
  Settles (outcome.map fun value => some (make value))
  := by
  cases outcome <;> nofun

theorem settles_orRefuse (cell : Option Cell) :
  (orRefuse cell).Settles
  := by
  cases cell <;> nofun

theorem settles_count (bits : Nat) (n : Int) :
  (count bits n).Settles
  := by
  rw [count]
  split <;> nofun

theorem settles_decimal (precision : Nat) (n : Int) :
  (decimal precision n).Settles
  := by
  rw [decimal]
  split <;> nofun

theorem settles_ticks (unit : TimeUnit) (seconds nanos : Int) :
  (ticks unit seconds nanos).Settles
  := by
  rw [ticks.eq_def]
  split
  · nofun
  · dsimp only
    split
    · apply settles_count
    · nofun

theorem settles_localTicks (unit : TimeUnit) (zone : Option String) (n : Int) :
  (localTicks unit zone n).Settles
  := by
  rw [localTicks.eq_def]
  split
  · nofun
  · dsimp only
    split
    · nofun
    · nofun
    · apply settles_ticks

theorem settles_decimalText (wide : Bool) (precision : Nat) (scale : Int) (text : List Char) :
  (castDecimalText wide precision scale text).Settles
  := by
  rw [castDecimalText]
  split
  · nofun
  · split
    · nofun
    · split
      · apply settles_decimal
      · nofun

theorem settles_stamp (unit : TimeUnit) (zone : Option String) (text : List Char) :
  (castStamp unit zone text).Settles
  := by
  rw [castStamp.eq_def]
  dsimp only
  split
  · apply settles_ticks
  · nofun

theorem settles_clock (wide : Bool) (unit : TimeUnit) (text : List Char) :
  (castClock wide unit text).Settles
  := by
  rw [castClock]
  split
  · nofun
  · apply settles_orRefuse

theorem settles_interval (text : List Char) :
  (castInterval text).Settles
  := by
  rw [castInterval]
  split
  · nofun
  · nofun
  · apply settles_orRefuse

theorem settles_text (s : String) (type : DataType) :
  (castText s type).Settles
  := by
  rw [castText.eq_def]
  dsimp only
  -- Unfolded no further: what is read from the text would be computed.
  split <;> with_reducible first
    | apply settles_cell
    | apply settles_error
    | apply settles_orRefuse
    | apply settles_decimalText
    | apply settles_stamp
    | apply settles_clock
    | apply settles_interval

end Casting

namespace Literal

open Casting

theorem settles_bool (b : Bool) (type : DataType) :
  (castBool b type).Settles
  := by
  rw [castBool.eq_def]
  split <;> nofun

theorem settles_decimalOfInt (wide : Bool) (precision : Nat) (scale n : Int) :
  (decimalOfInt wide precision scale n).Settles
  := by
  rw [decimalOfInt]
  split
  · nofun
  · split
    · apply settles_decimal
    · split
      · apply settles_decimal
      · nofun

/-- An integer has no null among its outcomes in a type of numbers, truth values or texts. -/
theorem settles_number (n : Int) (type : DataType) :
  ((ofNumber? n type).getD (.error .cast)).Settles
  := by
  rw [ofNumber?.eq_def]
  split
  case h_2 => apply settles_count
  case h_3 =>
    rw [Option.getD_some]
    split <;> nofun
  case h_7 => apply settles_decimalOfInt
  case h_8 => apply settles_count
  case h_9 => apply settles_count
  all_goals nofun

theorem settles_decimalOfFloat (wide : Bool) (precision : Nat) (scale : Int) (x : Floating) :
  (decimalOfFloat wide precision scale x).Settles
  := by
  rw [decimalOfFloat]
  split
  · nofun
  · split
    · apply settles_decimal
    · nofun

theorem settles_int (n : Int) (type : DataType) :
  (castInt n type).Settles
  := by
  rw [castInt.eq_def]
  split <;> first | apply settles_count | apply settles_number

theorem settles_float (x : Floating) (type : DataType) :
  (castFloat x type).Settles
  := by
  rw [castFloat.eq_def]
  dsimp only
  split <;> first
    | apply settles_cell
    | apply settles_error
    | apply settles_orRefuse
    | apply settles_decimalOfFloat

theorem settles_date (days : Int) (type : DataType) :
  (castDate days type).Settles
  := by
  rw [castDate.eq_def]
  split <;> first
    | apply settles_cell
    | apply settles_error
    | apply settles_localTicks
    | apply settles_map_some

theorem settles_instant (nanos : Int) (type : DataType) :
  (castInstant nanos type).Settles
  := by
  rw [castInstant.eq_def]
  split <;> first
    | apply settles_cell
    | apply settles_error
    | apply settles_localTicks
    | apply settles_int
    | apply settles_map_some

/-- A literal that is not null does not come out as null in a flat type. -/
theorem settles_flat {literal : Literal} (h : literal.isNull = false) (type : DataType) :
  (literal.castFlat type).Settles
  := by
  cases literal with
  | null => cases h
  | bool b => apply settles_bool
  | int n => apply settles_int
  | uint n => apply settles_number
  | float x => apply settles_float
  | text s => apply settles_text
  | date days => apply settles_date
  | instant nanos => apply settles_instant

/-- In a type of which the values are in order, a literal that is not null has a cell, or it is
refused. -/
theorem settles_toCell {literal : Literal} (h : literal.isNull = false) {type : DataType}
    (horder : type.isOrderable = true) :
  (literal.toCell type).Settles
  := by
  rw [toCell.eq_def, h, if_neg Bool.false_ne_true]
  split
  · split
    · apply settles_flat h
    · nofun
  · cases horder
  · cases horder
  · cases horder
  · apply settles_flat h

end Literal

end RowFilter
