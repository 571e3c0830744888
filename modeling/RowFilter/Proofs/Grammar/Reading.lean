import RowFilter.Proofs.Grammar.Derivation
import RowFilter.Proofs.Plan.Run

/-!
# Readings of the grammar

What each reader of the grammar comes to: a result that the grammar derives, or an error with which
the value may be refused.  `FilterExpr.ofJson_eq_ok_iff` is the sum of it: a JSON value is read as
an expression if and only if the grammar derives it.
-/

/-- Whether a computation comes to a result that is accepted or to an error that is allowed. -/
def Except.Meets {ε α : Type} (accepted : α → Prop) (allowed : ε → Prop) : Except ε α → Prop
  | .ok result => accepted result
  | .error failure => allowed failure

namespace Except.Meets

variable {ε α β : Type} {accepted : α → Prop} {goal : β → Prop} {allowed : ε → Prop}
  {first : Except ε α}

/-- Of two computations in a row, the second may rely on what the first comes to. -/
theorem bind {next : α → Except ε β} (h : first.Meets accepted allowed)
    (hnext : ∀ result, accepted result → (next result).Meets goal allowed) :
  (first >>= next).Meets goal allowed
  := by
  cases first with
  | ok result => apply hnext result h
  | error failure => apply h

theorem map {f : α → β} (h : first.Meets accepted allowed)
    (hf : ∀ result, accepted result → goal (f result)) :
  (first.map f).Meets goal allowed
  := by
  cases first with
  | ok result => apply hf result h
  | error failure => apply h

/-- More errors may be allowed. -/
theorem allow {more : ε → Prop} (h : first.Meets accepted allowed)
    (hmore : ∀ failure, allowed failure → more failure) :
  first.Meets accepted more
  := by
  cases first with
  | ok result => apply h
  | error failure => apply hmore failure h

end Except.Meets

namespace RowFilter

namespace FilterExpr

/-! ### Operands and operators -/

/-- Whether an error refuses an operand, which is due to one of some values. -/
def RefusesOperand (values : List Json) (error : FilterError) : Prop :=
  (∃ fault, error = .unsupportedOperand fault) ∧
    ∃ value ∈ values, value.kind = .array ∨ value.kind = .object

theorem RefusesOperand.mono {values more : List Json} (hmore : values ⊆ more)
    (error : FilterError) (h : RefusesOperand values error) :
  RefusesOperand more error
  := by
  obtain ⟨hfault, value, hmem, hkind⟩ := h
  exact ⟨hfault, value, hmore hmem, hkind⟩

theorem readScalar_meets (value : Json) :
  (readScalar value).Meets (fun scalar => scalar.toJson = value) (RefusesOperand [value])
  := by
  cases value with
  | null => exact rfl
  | bool _ => exact rfl
  | number _ => exact rfl
  | string _ => exact rfl
  | array items => exact ⟨⟨_, rfl⟩, .array items, List.mem_singleton_self _, .inl rfl⟩
  | object members => exact ⟨⟨_, rfl⟩, .object members, List.mem_singleton_self _, .inr rfl⟩

theorem readScalars_cons (value : Json) (rest : List Json) :
  readScalars (value :: rest)
    = readScalar value >>= fun scalar => (readScalars rest).map (scalar :: ·)
  := by
  rw [readScalars]
  cases readScalar value with
  | error error => rfl
  | ok scalar => cases readScalars rest <;> rfl

theorem readScalars_meets :
  ∀ values : List Json, (readScalars values).Meets
    (fun scalars => scalars.map Scalar.toJson = values) (RefusesOperand values)
  | [] => rfl
  | value :: rest => by
      have hvalue := (readScalar_meets value).allow
        (RefusesOperand.mono (List.cons_subset_cons value (List.nil_subset rest)))
      have hrest := (readScalars_meets rest).allow
        (RefusesOperand.mono (List.subset_cons_self value rest))
      rw [readScalars_cons]
      apply hvalue.bind
      rintro scalar rfl
      apply hrest.map
      rintro scalars rfl
      rfl

/-- What is no array is read as a single value where the operator takes one. -/
theorem readScalar_meets_operand {path spelling : String} {op : Operator} {value : Json}
    (hop : spelling ∈ op.spellings) (hscalar : op.takesList = false)
    (hkind : value.kind ≠ .array) :
  ((readScalar value).map Operand.scalar).Meets
    (fun operand => operand.toJson = value ∧ operand.isList = op.takesList)
    (IsRefusal (.array [.string path, .string spelling, value]))
  := by
  apply Except.Meets.map (Except.Meets.allow (readScalar_meets value) ?_)
  · rintro scalar rfl
    exact ⟨rfl, hscalar.symm⟩
  · rintro error ⟨⟨fault, rfl⟩, item, hmem, hitem⟩
    obtain rfl := List.mem_singleton.mp hmem
    cases item with
    | object members => exact ⟨_, .whole _, .object hop hscalar⟩
    | _ => simp [Json.kind] at hkind hitem

/-- An operand is read as what it is if its shape fits the operator. -/
theorem readOperand_meets {path spelling : String} {op : Operator} (hop : spelling ∈ op.spellings)
    (value : Json) :
  (readOperand path op value).Meets
    (fun operand => operand.toJson = value ∧ operand.isList = op.takesList)
    (IsRefusal (.array [.string path, .string spelling, value]))
  := by
  rw [readOperand.eq_def]
  split
  · next hlist =>
      cases value with
      | array values =>
          apply Except.Meets.map (Except.Meets.allow (readScalars_meets values) ?_)
          · rintro scalars rfl
            exact ⟨rfl, hlist.symm⟩
          · rintro error ⟨⟨fault, rfl⟩, item, hmem, hkind⟩
            exact ⟨_, .whole _, .element hop hlist hmem hkind⟩
      | _ => exact rfl
  · next hlist =>
      have hscalar : op.takesList = false := Bool.eq_false_iff.mpr hlist
      cases value with
      | array values => exact rfl
      | _ => exact readScalar_meets_operand hop hscalar (by rintro ⟨⟩)

/-- An operator is read from its spellings. -/
theorem readOperator_meets (path : String) (size : Nat) (value whole : Json) :
  (readOperator path size value).Meets
    (fun op => ∃ spelling ∈ op.spellings, value = .string spelling) (IsRefusal whole)
  := by
  cases value with
  | string text =>
      rw [readOperator]
      cases hop : Operator.ofText? text with
      | some op => exact ⟨text, Operator.ofText?_eq_some_iff.mp hop, rfl⟩
      | none => exact rfl
  | _ => exact rfl

/-- A connective is read from its spellings. -/
theorem readConnective_meets (position size : Nat) (value whole : Json) :
  (readConnective position size value).Meets
    (fun op => ∃ spelling ∈ op.spellings, value = .string spelling) (IsRefusal whole)
  := by
  cases value with
  | string text =>
      rw [readConnective]
      cases hop : Connective.ofText? text with
      | some op => exact ⟨text, Connective.ofText?_eq_some_iff.mp hop, rfl⟩
      | none => exact rfl
  | _ => exact rfl

/-! ### Comparisons and negations -/

/-- Parts whose shapes fit are put together. -/
theorem ofParts_eq_ok {path : String} {op : Operator} {operand : Operand}
    (hshape : operand.isList = op.takesList) :
  ofParts path op operand = .ok (.comparison path op operand)
  := by
  cases operand with
  | scalar value => rw [ofParts.eq_def, ← hshape, Operand.isList]
  | list values => rw [ofParts.eq_def, ← hshape, Operand.isList]

theorem readComparison_meets (path : String) (operator value : Json) :
  (readComparison [.string path, operator, value]).Meets
    (Derives (.array [.string path, operator, value]))
    (IsRefusal (.array [.string path, operator, value]))
  := by
  rw [readComparison]
  apply Except.Meets.bind (readOperator_meets path 3 operator _)
  rintro op ⟨spelling, hop, rfl⟩
  apply Except.Meets.bind (readOperand_meets hop value)
  rintro operand ⟨rfl, hshape⟩
  rw [ofParts_eq_ok hshape]
  apply Derives.comparison hop hshape

/-- Whether an element of an array is read as the grammar says, wherever it stands. -/
def IsReadAsChild (item : Json) : Prop :=
  ∀ position, (readChild item position).Meets (Derives item) (IsRefusal item)

theorem readNegation_meets {first second : Json} (h : IsReadAsChild second) :
  (readNegation (elementsOf [first, second])).Meets (Derives (.array [first, second]))
    (IsRefusal (.array [first, second]))
  := by
  rw [elementsOf, elementsOf, elementsOf, readNegation.eq_def]
  split
  · next hmark =>
      cases hmark
      apply Except.Meets.map (Except.Meets.allow (h 1) ?_)
      · intro child
        apply Derives.negation
      · intro error herror
        apply herror.widen
        intro part _ hpart
        apply hpart.negated
  · next hmark => cases hmark
  · exact rfl
  · next hmark => cases hmark

/-! ### Groups -/

/-- The rest of a group is read as the grammar says, if the filters in it are. -/
theorem readRest_meets {op : Connective} {size : Nat} {whole : Json} :
  ∀ {rest : List Json} (position : Nat), rest.length % 2 = 0 →
    (∀ index item, index % 2 = 1 → rest[index]? = some item → ∀ place,
      (readChild item place).Meets (Derives item) (IsRefusal whole)) →
    (readRest op size position (elementsOf rest)).Meets (DerivesRest op rest) (IsRefusal whole)
  | [], _, _, _ => .nil
  | [_], _, heven, _ => by cases heven
  | connective :: item :: rest, position, heven, hitems => by
      rw [elementsOf, elementsOf, readRest]
      apply Except.Meets.bind (readConnective_meets position size connective whole)
      rintro next ⟨spelling, hnext, rfl⟩
      by_cases hop : next ≠ op
      · rw [if_pos hop]
        exact rfl
      · rw [if_neg hop]
        obtain rfl := Decidable.not_not.mp hop
        apply Except.Meets.bind (hitems 1 item rfl rfl (position + 1))
        intro child hchild
        apply Except.Meets.bind (readRest_meets (position + 2) ?_ ?_)
        · intro children hchildren
          apply DerivesRest.cons hnext hchild hchildren
        · simp only [List.length_cons] at heven
          omega
        · intro index found hodd hfound
          apply hitems (index + 2) found (by omega) hfound

/-- A group is read as the grammar says, if the filters in it are. -/
theorem readGroup_meets {items : List Json} (hsize : 3 ≤ items.length)
    (hodd : items.length % 2 = 1) (hitems : ∀ item ∈ items, IsReadAsChild item) :
  (readGroup (elementsOf items)).Meets (Derives (.array items)) (IsRefusal (.array items))
  := by
  obtain _ | ⟨first, rest⟩ := items
  · cases hodd
  obtain _ | ⟨connective, rest⟩ := rest
  · simp at hsize
  rw [elementsOf, elementsOf, readGroup]
  apply Except.Meets.bind (readConnective_meets 1 _ connective _)
  rintro op ⟨spelling, hop, rfl⟩
  have hfirst := hitems first List.mem_cons_self 0
  apply Except.Meets.bind (Except.Meets.allow hfirst ?_)
  · intro child hchild
    -- Of five elements and more, the first is known to be an array only now that it is read.
    obtain ⟨inner, rfl⟩ := hchild.eq_array
    apply Except.Meets.bind (@readRest_meets _ _ _ (.string spelling :: rest) 1 ?_ ?_)
    · intro children hchildren
      cases hchildren with
      | cons hspelling hitem hrest => apply Derives.group hchild (.cons hspelling hitem hrest)
    · simp only [List.length_cons] at hodd ⊢
      omega
    · intro index item hindex hitem place
      have hplace : (.array inner :: .string spelling :: rest)[index + 1]? = some item := hitem
      apply Except.Meets.allow (hitems item ?_ place)
      · intro error herror
        apply herror.grouped rfl hsize hodd hplace (by omega)
      · apply List.mem_cons_of_mem
        apply List.mem_of_getElem? hitem
  · intro error herror
    apply herror.widen
    intro part hforeign hpart
    obtain ⟨inner, rfl⟩ := hpart.eq_array hforeign
    have hplace : (.array inner :: .string spelling :: rest)[0]? = some (.array inner) := rfl
    apply FilterPosition.grouped rfl hsize hodd hplace rfl hpart

/-! ### Filters -/

theorem length_elementsOf :
  ∀ items : List Json, (elementsOf items).length = items.length
  | [] => rfl
  | item :: rest => by
      rw [elementsOf, List.length_cons, length_elementsOf rest, List.length_cons]

/-- Five and more elements are a group if their number is odd. -/
theorem readElements_of_five_le {elements : List Element} (h : 5 ≤ elements.length) :
  readElements elements
    = if elements.length % 2 = 1 then readGroup elements
      else .error (.grammar (.arraySize elements.length))
  := by
  rw [readElements.eq_def]
  split
  · omega
  · omega
  · omega
  · omega
  · simp only [h, true_and]

/-- An array is read as the grammar says, if the filters in it are: two elements as a negation,
three as a comparison or a group, by the first of them, and more as a group. -/
theorem readElements_meets {items : List Json} (h : ∀ item ∈ items, IsReadAsChild item) :
  (readElements (elementsOf items)).Meets (Derives (.array items)) (IsRefusal (.array items))
  := by
  match items with
  | [] => exact rfl
  | [_] => exact rfl
  | [first, second] => apply readNegation_meets (h second (by simp))
  | [first, second, third] =>
      cases first with
      | string path => apply readComparison_meets
      | array inner => apply readGroup_meets (by simp) (by simp) h
      | _ => exact rfl
  | [_, _, _, _] => exact rfl
  | a :: b :: c :: d :: e :: rest =>
      rw [readElements_of_five_le (by simp [elementsOf])]
      split
      · next hodd =>
          rw [length_elementsOf] at hodd
          apply readGroup_meets (by simp) hodd h
      · exact rfl

mutual

/-- A JSON value is read as the grammar says. -/
theorem ofJson_meets :
  ∀ value : Json, (ofJson value).Meets (Derives value) (IsRefusal value)
  | .array items => by
      apply readElements_meets
      intro item hmem position
      have hread := ofJson_meets_of_mem items item hmem
      cases item with
      | array inner => apply hread
      | _ => exact rfl
  | .null => rfl
  | .bool _ => rfl
  | .number _ => rfl
  | .string _ => rfl
  | .object _ => rfl

/-- The elements of an array are read as the grammar says. -/
theorem ofJson_meets_of_mem :
  ∀ (items : List Json), ∀ item ∈ items, (ofJson item).Meets (Derives item) (IsRefusal item)
  | item :: _, _, .head _ => ofJson_meets item
  | _ :: rest, item, .tail _ hmem => ofJson_meets_of_mem rest item hmem

end

/-! ### What the grammar derives is read -/

theorem readScalar_toJson (scalar : Scalar) :
  readScalar scalar.toJson = .ok scalar
  := by
  cases scalar <;> rfl

theorem readScalars_toJson :
  ∀ scalars : List Scalar, readScalars (scalars.map Scalar.toJson) = .ok scalars
  | [] => rfl
  | scalar :: rest => by
      rw [List.map_cons, readScalars, readScalar_toJson, readScalars_toJson rest]

theorem readOperand_toJson {path : String} {op : Operator} {operand : Operand}
    (hshape : operand.isList = op.takesList) :
  readOperand path op operand.toJson = .ok operand
  := by
  rw [readOperand.eq_def, ← hshape]
  cases operand with
  | scalar value => cases value <;> rfl
  | list values =>
      apply Except.map_eq_ok_iff.mpr ⟨values, readScalars_toJson values, rfl⟩

/-- A comparison in the grammar is read as it is. -/
theorem readComparison_eq_ok {path spelling : String} {op : Operator} {operand : Operand}
    (hop : spelling ∈ op.spellings) (hshape : operand.isList = op.takesList) :
  readComparison [.string path, .string spelling, operand.toJson]
    = .ok (.comparison path op operand)
  := by
  rw [readComparison, readOperator, Operator.ofText?_eq_some_iff.mpr hop]
  apply Except.bind_eq_ok_iff.mpr ⟨op, rfl, ?_⟩
  apply Except.bind_eq_ok_iff.mpr ⟨operand, readOperand_toJson hshape, ?_⟩
  apply ofParts_eq_ok hshape

theorem readConnective_eq_ok {spelling : String} {op : Connective} (hop : spelling ∈ op.spellings)
    (position size : Nat) :
  readConnective position size (.string spelling) = .ok op
  := by
  rw [readConnective, Connective.ofText?_eq_some_iff.mpr hop]

/-- An odd number of elements from three on, of which the first is an array, is a group. -/
theorem readElements_eq_readGroup {inner rest : List Json} (hrest : rest ≠ [])
    (heven : rest.length % 2 = 0) :
  readElements (elementsOf (.array inner :: rest)) = readGroup (elementsOf (.array inner :: rest))
  := by
  match rest with
  | [_, _] => rfl
  | a :: b :: c :: d :: rest =>
      rw [readElements_of_five_le (by simp [elementsOf]), if_pos]
      rw [length_elementsOf, List.length_cons]
      omega
  | [] => contradiction
  | [_] => cases heven
  | [_, _, _] => simp at heven

end FilterExpr

open FilterExpr

/-- A filter is read as an element as it is on its own. -/
theorem Derives.readChild_eq {value : Json} {expr : FilterExpr} (h : Derives value expr)
    (hread : ofJson value = .ok expr) (position : Nat) :
  readChild value position = .ok expr
  := by
  obtain ⟨items, rfl⟩ := h.eq_array
  apply hread

mutual

/-- What the grammar derives is read as the expression that it is. -/
theorem Derives.ofJson_eq :
  ∀ {value : Json} {expr : FilterExpr}, Derives value expr → ofJson value = .ok expr
  | _, _, .comparison hop hshape => readComparison_eq_ok hop hshape
  | _, _, .negation hinner => by
      apply Except.map_eq_ok_iff.mpr
      exact ⟨_, hinner.readChild_eq hinner.ofJson_eq 1, rfl⟩
  | .array (_ :: rest), _, .group hfirst hrest => by
      obtain ⟨inner, rfl⟩ := hfirst.eq_array
      have hlength := hrest.length_eq
      have hread (size : Nat) := hrest.readRest_eq size 1
      have hfirst := hfirst.readChild_eq hfirst.ofJson_eq 0
      rw [ofJson, readElements_eq_readGroup (by rintro rfl; cases hlength) (by omega)]
      cases hrest with
      | cons hop hitem hrest =>
          apply Except.bind_eq_ok_iff.mpr ⟨_, readConnective_eq_ok hop 1 _, ?_⟩
          apply Except.bind_eq_ok_iff.mpr ⟨_, hfirst, ?_⟩
          exact Except.bind_eq_ok_iff.mpr ⟨_, hread _, rfl⟩

/-- What the grammar derives as the rest of a group is read as the expressions that it is. -/
theorem DerivesRest.readRest_eq :
  ∀ {op : Connective} {rest : List Json} {children : List FilterExpr} (size position : Nat),
    DerivesRest op rest children → readRest op size position (elementsOf rest) = .ok children
  | _, _, _, _, _, .nil => rfl
  | _, _, _, size, position, .cons hop hitem hrest => by
      have hchild := hitem.readChild_eq hitem.ofJson_eq (position + 1)
      have hchildren := hrest.readRest_eq size (position + 2)
      rw [elementsOf, elementsOf, readRest, readConnective_eq_ok hop]
      apply Except.bind_eq_ok_iff.mpr ⟨_, rfl, ?_⟩
      rw [if_neg (by simp)]
      apply Except.bind_eq_ok_iff.mpr ⟨_, hchild, ?_⟩
      exact Except.bind_eq_ok_iff.mpr ⟨_, hchildren, rfl⟩

end

/-! ### The grammar as a whole -/

namespace FilterExpr

/-- A JSON value is read as an expression if and only if the grammar derives it. -/
theorem ofJson_eq_ok_iff {value : Json} {expr : FilterExpr} :
  ofJson value = .ok expr ↔ Derives value expr
  := by
  constructor
  · intro h
    have hmeets := ofJson_meets value
    rw [h] at hmeets
    apply hmeets
  · apply Derives.ofJson_eq

/-- What is read from a JSON value is what the grammar derives, and nothing else.  All other values
are refused with a fault of the grammar or, only if a comparison at the place of a filter has an
operand that is none, with an unsupported operand.  No level of a filter has both connectives. -/
theorem ofJson_iff_derives (value : Json) :
  (∀ expr, ofJson value = .ok expr ↔ Derives value expr) ∧
  ((¬ ∃ expr, Derives value expr) → ∃ error, ofJson value = .error error ∧
    ((∃ fault, error = .grammar fault) ∨
      (∃ fault, error = .unsupportedOperand fault) ∧
        ∃ part, FilterPosition value part ∧ IsForeignComparison part)) ∧
  (∀ items i j first second, FilterPosition value (.array items) →
    i % 2 = 1 → items[i]? = some (.string first) → first ∈ Connective.and.spellings →
    j % 2 = 1 → items[j]? = some (.string second) → second ∈ Connective.or.spellings →
      ∃ error, ofJson value = .error error)
  := by
  refine ⟨fun expr => ofJson_eq_ok_iff, ?refused, ?mixed⟩
  case refused =>
    intro hnone
    have hmeets := ofJson_meets value
    cases hread : ofJson value with
    | ok expr => exact absurd ⟨expr, ofJson_eq_ok_iff.mp hread⟩ hnone
    | error error =>
        rw [hread] at hmeets
        refine ⟨error, rfl, ?_⟩
        cases error with
        | grammar fault => exact .inl ⟨fault, rfl⟩
        | unsupportedOperand fault => exact .inr ⟨⟨fault, rfl⟩, hmeets⟩
        | _ => cases hmeets
  case mixed =>
    intro items i j first second hposition hi hfirst hand hj hsecond hor
    cases hread : ofJson value with
    | error error => exact ⟨error, rfl⟩
    | ok expr =>
        obtain ⟨inner, hinner⟩ := hposition.derives (ofJson_eq_ok_iff.mp hread)
        cases hinner.connective_unique hi hj hfirst hsecond hand hor

/-- Spellings are read in capitals, and both connectives at one level are refused. -/
theorem ofJson_iff_derives_spellings :
  let leaf := Json.array [.string "a", .string "eq", .null]
  let isNull := FilterExpr.comparison "a" (.relation .eq) (.scalar .null)
  Derives (.array [leaf, .string "AND", .array [.string "!", leaf]])
    (.group .and [isNull, .negation isNull]) ∧
  ∃ error, ofJson (.array [.string "!", .array [leaf, .string "and", leaf, .string "Or", leaf]])
    = .error error
  := by
  intro leaf isNull
  constructor
  · apply ((ofJson_iff_derives _).1 _).mp
    rfl
  · obtain ⟨_, _, hmixed⟩ := ofJson_iff_derives
      (.array [.string "!", .array [leaf, .string "and", leaf, .string "Or", leaf]])
    apply hmixed _ 1 3 "and" "Or" (.negated (.whole _)) rfl rfl (by decide) rfl rfl (by decide)

end FilterExpr

end RowFilter
