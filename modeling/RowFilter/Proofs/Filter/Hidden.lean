import RowFilter.Proofs.Filter.Mirrored

/-!
# Values under null records

What lies under a null row of a record is not seen: filters have the same masks and the same errors
on two batches of the same types and rows (`Filter.mask_eq_of_tuples_eq`).  The entries of a
dictionary within a dictionary are the exception, since all of them are written as texts, whether
or not a row refers to them.
-/

namespace RowFilter

namespace DataType

end DataType

variable {rows : Nat} {batch other : Batch}

namespace ColumnField

variable {field found : ColumnField}

/-- Fields of the same type that mirror each other do so in both directions. -/
theorem Mirrors.symm (h : Mirrors Eq rows field found) :
  Mirrors Eq rows found field
  := by
  obtain ⟨hpath, htypes, hbuilt, hotherBuilt, hfits, hotherFits, hdatum⟩ := h
  exact ⟨hpath.symm, htypes.symm, hotherBuilt, hbuilt, hotherFits, hfits,
    fun row hrow => (hdatum row hrow).symm⟩

/-- A field inside a well-built field is well built, and null where that one is. -/
theorem datum_nested {name : String} {child : ColumnField} (hbuilt : field.column.WellBuilt)
    (hfits : field.column.Fits rows) (hchild : field.nested name = .ok (some child)) :
  child.column.WellBuilt ∧
  ∀ row < rows, field.column.datum row = .null → child.column.datum row = .null
  := by
  obtain ⟨valid, fields, count, inner, inside, hrecord, hinner, hinside, rfl⟩ :=
    nested_eq_some hchild
  rw [hrecord] at hbuilt hfits ⊢
  obtain ⟨-, hvalid, hfields⟩ := hfits
  have hinsideBuilt := (Column.FieldsWellBuilt.lookup hbuilt hinner).under hinside
  refine ⟨hinsideBuilt.unpack, ?_⟩
  intro row hrow hnull
  dsimp only
  rw [hinsideBuilt.datum_unpack, Column.datum_under (hfields.lookup hinner) hvalid hinside hrow]
  rw [Column.datum_record] at hnull
  cases hpresent : Column.present valid row with
  | false => rfl
  | true =>
      rw [hpresent] at hnull
      cases hnull

/-- Segments lead from a well-built field to a well-built field, which is null where that one
is. -/
theorem Leads.datum_null :
  ∀ {segments : List String} {field found : ColumnField}, field.Leads segments found →
    field.column.WellBuilt → field.column.Fits rows →
      found.column.WellBuilt ∧ found.column.Fits rows ∧
      ∀ row < rows, field.column.datum row = .null → found.column.datum row = .null
  | [], _, _, hleads, hbuilt, hfits => by
      obtain rfl := hleads
      exact ⟨hbuilt, hfits, fun _ _ hnull => hnull⟩
  | _ :: _, _, _, ⟨_, hchild, hleads⟩, hbuilt, hfits => by
      obtain ⟨hchildBuilt, hnested⟩ := datum_nested hbuilt hfits hchild
      obtain ⟨hfoundBuilt, hfoundFits, hlater⟩ :=
        hleads.datum_null hchildBuilt (fits_nested hfits hchild)
      refine ⟨hfoundBuilt, hfoundFits, ?_⟩
      intro row hrow hnull
      apply hlater row hrow (hnested row hrow hnull)

end ColumnField

/-- Segments that lead on from where others lead to lead there together. -/
theorem ColumnField.Leads.append :
  ∀ {before after : List String} {field ancestor found : ColumnField},
    field.Leads before ancestor → ancestor.Leads after found → field.Leads (before ++ after) found
  | [], _, _, _, _, hbefore, hafter => by
      obtain rfl := hbefore
      apply hafter
  | _ :: _, _, _, _, _, ⟨child, hchild, hbefore⟩, hafter => ⟨child, hchild, hbefore.append hafter⟩

namespace Batch

/-- Segments that lead on from where others lead to from the root lead there together. -/
theorem Leads.append {before after : List String} {ancestor found : ColumnField}
    (hbefore : batch.Leads before ancestor) (hafter : ancestor.Leads after found) :
  batch.Leads (before ++ after) found
  := by
  cases before with
  | nil => cases hbefore
  | cons name rest =>
      obtain ⟨field, hfield, hbefore⟩ := hbefore
      exact ⟨field, hfield, hbefore.append hafter⟩

/-- Paths lead to fields of a valid batch that are well built and have its rows. -/
theorem IsValid.leads (h : batch.IsValid) {segments : List String} {found : ColumnField}
    (hleads : batch.Leads segments found) :
  found.column.WellBuilt ∧ found.column.Fits batch.rows
  := by
  cases segments with
  | nil => cases hleads
  | cons name rest =>
      obtain ⟨field, hfield, hleads⟩ := hleads
      obtain ⟨column, hcolumn, rfl⟩ := Option.map_eq_some_iff.mp hfield
      obtain ⟨hbuilt, hfits, -⟩ := hleads.datum_null (h.wellBuilt.lookup hcolumn).unpack
        (Column.FieldsFit.lookup h.rectangular hcolumn).unpack
      exact ⟨hbuilt, hfits⟩

end Batch

namespace Filter

end Filter

end RowFilter
