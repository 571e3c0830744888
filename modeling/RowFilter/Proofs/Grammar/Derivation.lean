import RowFilter.Filter.Grammar

/-!
# The grammar of filters as derivations

`Derives` is the grammar: which JSON values are filters, and which expression each of them is.
`Operator.spellings` and `Connective.spellings` list the texts that are accepted for an operator
and for a connective.  `FilterPosition` tells the parts of a JSON value that have to be filters of
their own, and `IsForeignComparison` the comparisons whose operand is no operand at all.
-/

namespace RowFilter

/-! ### Spellings -/

/-- The texts that are accepted for an operator. -/
def Operator.spellings : Operator → List String
  | .relation .eq => ["=", "eq"]
  | .relation .ne => ["<>", "ne"]
  | .relation .gt => [">", "gt"]
  | .relation .ge => [">=", "ge"]
  | .relation .lt => ["<", "lt"]
  | .relation .le => ["<=", "le"]
  | .textMatch .startsWith => ["startswith"]
  | .textMatch .endsWith => ["endswith"]
  | .textMatch .contains => ["contains"]
  | .textMatch .notContains => ["notcontains"]
  | .membership .anyOf => ["anyof"]
  | .membership .noneOf => ["noneof"]

/-- A text is read as an operator if and only if it is one of its spellings. -/
theorem Operator.ofText?_eq_some_iff {text : String} {op : Operator} :
  ofText? text = some op ↔ text ∈ op.spellings
  := by
  constructor
  · intro h
    simp only [ofText?] at h
    split at h <;> cases h <;> simp [spellings]
  · intro h
    cases op with
    | relation relation =>
        cases relation <;> simp only [spellings, List.mem_cons, List.not_mem_nil, or_false] at h
          <;> obtain rfl | rfl := h <;> rfl
    | textMatch kind => cases kind <;> cases List.mem_singleton.mp h <;> rfl
    | membership kind => cases kind <;> cases List.mem_singleton.mp h <;> rfl

/-- The texts that are accepted for a connective: its letters, each small or capital. -/
def Connective.spellings : Connective → List String
  | .and => ["and", "anD", "aNd", "aND", "And", "AnD", "ANd", "AND"]
  | .or => ["or", "oR", "Or", "OR"]

/-- A letter whose small letter is given is that one or its capital, which comes thirty-two places
before it. -/
theorem letter_of_toLower_eq {letter small capital : Char} (h : letter.toLower = small)
    (hcapital : capital.toNat + 32 = small.toNat) :
  letter = small ∨ letter = capital
  := by
  delta Char.toLower at h
  split at h
  · next hrange =>
      right
      have hle : letter.val.toNat ≤ 90 := UInt32.le_iff_toNat_le.mp hrange.2
      have hsum : (letter.val + 32).toNat = (letter.val.toNat + 32) % 2 ^ 32 :=
        UInt32.toNat_add _ _
      have hsmall : small.toNat = (letter.val + 32).toNat := by
        rw [← h]
        rfl
      apply Char.toNat_inj.mp
      change letter.val.toNat = _
      omega
  · left
    apply h

/-- A text is read as a connective if and only if its small letters are those of the connective. -/
theorem Connective.ofText?_eq_some_iff_toLower {text : String} {op : Connective} :
  ofText? text = some op ↔ text.toList.map Char.toLower = op.symbol.toList
  := by
  rw [ofText?]
  split
  · next h =>
      rw [← String.toList_inj, String.toList_ofList] at h
      rw [h]
      cases op <;> decide
  · next h =>
      rw [← String.toList_inj, String.toList_ofList] at h
      rw [h]
      cases op <;> decide
  · next hand hor =>
      rw [← String.toList_inj, String.toList_ofList] at hand hor
      constructor
      · rintro ⟨⟩
      · intro h
        cases op with
        | and => contradiction
        | or => contradiction

/-- A text is read as a connective if and only if it is one of its spellings. -/
theorem Connective.ofText?_eq_some_iff {text : String} {op : Connective} :
  ofText? text = some op ↔ text ∈ op.spellings
  := by
  constructor
  · rw [ofText?_eq_some_iff_toLower]
    intro h
    rw [← String.ofList_toList (s := text)]
    cases op with
    | and =>
        obtain ⟨a, rest, hlist, ha, hrest⟩ := List.map_eq_cons_iff.mp h
        obtain ⟨n, rest, rfl, hn, hrest⟩ := List.map_eq_cons_iff.mp hrest
        obtain ⟨d, rest, rfl, hd, hrest⟩ := List.map_eq_cons_iff.mp hrest
        cases List.map_eq_nil_iff.mp hrest
        rw [hlist]
        obtain rfl | rfl := @letter_of_toLower_eq _ _ 'A' ha rfl <;>
          obtain rfl | rfl := @letter_of_toLower_eq _ _ 'N' hn rfl <;>
          obtain rfl | rfl := @letter_of_toLower_eq _ _ 'D' hd rfl <;>
          decide
    | or =>
        obtain ⟨o, rest, hlist, ho, hrest⟩ := List.map_eq_cons_iff.mp h
        obtain ⟨r, rest, rfl, hr, hrest⟩ := List.map_eq_cons_iff.mp hrest
        cases List.map_eq_nil_iff.mp hrest
        rw [hlist]
        obtain rfl | rfl := @letter_of_toLower_eq _ _ 'O' ho rfl <;>
          obtain rfl | rfl := @letter_of_toLower_eq _ _ 'R' hr rfl <;>
          decide
  · intro h
    have hall : ∀ spelling ∈ op.spellings, ofText? spelling = some op := by
      cases op <;> decide
    apply hall text h

/-- No text spells two connectives. -/
theorem Connective.eq_of_mem_spellings {text : String} {first second : Connective}
    (hfirst : text ∈ first.spellings) (hsecond : text ∈ second.spellings) :
  first = second
  := by
  rw [← ofText?_eq_some_iff] at hfirst hsecond
  apply Option.some.inj (hfirst.symm.trans hsecond)

/-! ### Derivations -/

/-- Whether the operand is a list. -/
def Operand.isList : Operand → Bool
  | .scalar _ => false
  | .list _ => true

mutual

/-- Which expression a JSON value is, by the grammar. -/
inductive Derives : Json → FilterExpr → Prop where
  /-- A path, an operator, and an operand whose shape fits the operator. -/
  | comparison {path spelling : String} {op : Operator} {operand : Operand}
    (hop : spelling ∈ op.spellings) (hshape : operand.isList = op.takesList) :
    Derives (.array [.string path, .string spelling, operand.toJson])
      (.comparison path op operand)
  /-- The mark of a negation, and a filter. -/
  | negation {inner : Json} {child : FilterExpr} (hinner : Derives inner child) :
    Derives (.array [.string "!", inner]) (.negation child)
  /-- A filter, and then others, at least one. -/
  | group {first : Json} {rest : List Json} {op : Connective} {child next : FilterExpr}
    {children : List FilterExpr} (hfirst : Derives first child)
    (hrest : DerivesRest op rest (next :: children)) :
    Derives (.array (first :: rest)) (.group op (child :: next :: children))

/-- Which expressions some elements are that come after the first filter of a group: filters, each
after the connective. -/
inductive DerivesRest : Connective → List Json → List FilterExpr → Prop where
  | nil {op : Connective} : DerivesRest op [] []
  | cons {spelling : String} {op : Connective} {item : Json} {rest : List Json}
    {child : FilterExpr} {children : List FilterExpr} (hop : spelling ∈ op.spellings)
    (hitem : Derives item child) (hrest : DerivesRest op rest children) :
    DerivesRest op (.string spelling :: item :: rest) (child :: children)

end

/-- Every filter is an array. -/
theorem Derives.eq_array {value : Json} {expr : FilterExpr} (h : Derives value expr) :
  ∃ items, value = .array items
  := by
  cases h with
  | comparison => exact ⟨_, rfl⟩
  | negation => exact ⟨_, rfl⟩
  | group => exact ⟨_, rfl⟩

/-- The elements after the first filter of a group are as many connectives as filters. -/
theorem DerivesRest.length_eq {op : Connective} :
  ∀ {rest : List Json} {children : List FilterExpr}, DerivesRest op rest children →
    rest.length = 2 * children.length
  | _, _, .nil => rfl
  | _, _, .cons _ _ hrest => by
      rw [List.length_cons, List.length_cons, hrest.length_eq, List.length_cons]
      rfl

/-- At the even places of what comes after the first filter of a group are connectives, and at the
odd ones filters. -/
theorem DerivesRest.getElem? {op : Connective} :
  ∀ {rest : List Json} {children : List FilterExpr} {index : Nat} {item : Json},
    DerivesRest op rest children → rest[index]? = some item →
      index % 2 = 0 ∧ (∃ spelling ∈ op.spellings, item = .string spelling) ∨
      index % 2 = 1 ∧ ∃ child, Derives item child
  | _, _, 0, _, .cons hop _ _, hitem => by
      cases hitem
      exact .inl ⟨rfl, _, hop, rfl⟩
  | _, _, 1, _, .cons _ hchild _, hitem => by
      cases hitem
      exact .inr ⟨rfl, _, hchild⟩
  | _, _, index + 2, _, .cons _ _ hrest, hitem => by
      obtain ⟨heven, hfound⟩ | ⟨hodd, hfound⟩ := hrest.getElem? hitem
      · exact .inl ⟨by omega, hfound⟩
      · exact .inr ⟨by omega, hfound⟩

theorem DerivesRest.connective_eq {op p : Connective} {rest : List Json}
    {children : List FilterExpr} {index : Nat} {text : String} (h : DerivesRest op rest children)
    (htext : rest[index]? = some (.string text)) (hp : text ∈ p.spellings) :
  p = op
  := by
  obtain ⟨_, spelling, hspelling, heq⟩ | ⟨_, child, hchild⟩ := h.getElem? htext
  · cases heq
    apply Connective.eq_of_mem_spellings hp hspelling
  · obtain ⟨_, heq⟩ := hchild.eq_array
    cases heq

/-- All connectives at one level of a filter are the same. -/
theorem Derives.connective_unique {items : List Json} {expr : FilterExpr} {i j : Nat}
    {first second : String} {p q : Connective} (h : Derives (.array items) expr)
    (hi : i % 2 = 1) (hj : j % 2 = 1) (hfirst : items[i]? = some (.string first))
    (hsecond : items[j]? = some (.string second)) (hp : first ∈ p.spellings)
    (hq : second ∈ q.spellings) :
  p = q
  := by
  have hibound := (List.getElem?_eq_some_iff.mp hfirst).1
  have hjbound := (List.getElem?_eq_some_iff.mp hsecond).1
  cases h with
  | comparison _ _ =>
      simp only [List.length_cons, List.length_nil] at hibound hjbound
      obtain rfl : i = 1 := by omega
      obtain rfl : j = 1 := by omega
      cases hfirst
      cases hsecond
      apply Connective.eq_of_mem_spellings hp hq
  | negation hinner =>
      simp only [List.length_cons, List.length_nil] at hibound
      obtain rfl : i = 1 := by omega
      obtain ⟨inner, rfl⟩ := hinner.eq_array
      cases hfirst
  | group _ hrest =>
      obtain ⟨i, rfl⟩ : ∃ before, i = before + 1 := ⟨i - 1, by omega⟩
      obtain ⟨j, rfl⟩ : ∃ before, j = before + 1 := ⟨j - 1, by omega⟩
      rw [hrest.connective_eq hfirst hp, hrest.connective_eq hsecond hq]

/-! ### What is not derived -/

/-- Whether the second value is the first one or a part of it that has to be a filter. -/
inductive FilterPosition : Json → Json → Prop where
  | whole (value : Json) : FilterPosition value value
  | negated {inner part : Json} (h : FilterPosition inner part) :
    FilterPosition (.array [.string "!", inner]) part
  | grouped {items inner : List Json} {item part : Json} {position : Nat}
    (hfirst : items.head? = some (.array inner)) (hsize : 3 ≤ items.length)
    (hodd : items.length % 2 = 1) (hitem : items[position]? = some item)
    (heven : position % 2 = 0) (h : FilterPosition item part) :
    FilterPosition (.array items) part

/-- The parts of a filter that have to be filters are filters. -/
theorem FilterPosition.derives {value part : Json} (h : FilterPosition value part) :
  ∀ {expr : FilterExpr}, Derives value expr → ∃ inner, Derives part inner
  := by
  induction h with
  | whole value =>
      intro expr hexpr
      exact ⟨expr, hexpr⟩
  | negated _ ih =>
      intro expr hexpr
      cases hexpr with
      | negation hinner => apply ih hinner
      | group _ hrest =>
          have hlength := hrest.length_eq
          simp only [List.length_cons, List.length_nil] at hlength
          omega
  | @grouped items inner item part position hfirst hsize hodd hitem heven _ ih =>
      intro expr hexpr
      cases hexpr with
      | comparison _ _ => cases hfirst
      | negation _ => cases hfirst
      | group hchild hrest =>
          obtain _ | place := position
          · cases hitem
            apply ih hchild
          · obtain ⟨_, _⟩ | ⟨_, child, hplace⟩ := hrest.getElem? hitem
            · omega
            · apply ih hplace

/-- Whether a JSON value is a comparison with an object in place of a single value, or with a list
that has an array or an object in it. -/
inductive IsForeignComparison : Json → Prop where
  | object {path spelling : String} {op : Operator} {members : List (String × Json)}
    (hop : spelling ∈ op.spellings) (hscalar : op.takesList = false) :
    IsForeignComparison (.array [.string path, .string spelling, .object members])
  | element {path spelling : String} {op : Operator} {items : List Json} {item : Json}
    (hop : spelling ∈ op.spellings) (hlist : op.takesList = true) (hitem : item ∈ items)
    (hkind : item.kind = .array ∨ item.kind = .object) :
    IsForeignComparison (.array [.string path, .string spelling, .array items])

/-- Whether a fault can lie in a JSON value.  No reader looks for an element where there is none,
takes a path from what is no text, or goes on with an operand whose shape does not fit. -/
def GrammarFault.liesInValue : GrammarFault → Bool
  | .noElement _ | .pathNotText | .listForScalar _ _ | .valueForList _ _ _ => false
  | _ => true

/-- With which errors a JSON value may be refused: with faults of the grammar, and with an operand
that is not supported if a comparison in it has such an operand. -/
def IsRefusal (value : Json) : FilterError → Prop
  | .grammar fault => fault.liesInValue = true
  | .unsupportedOperand _ => ∃ part, FilterPosition value part ∧ IsForeignComparison part
  | _ => False

/-- A value may be refused as a part of it is, if it has the same comparisons in it. -/
theorem IsRefusal.widen {inner whole : Json} {error : FilterError} (h : IsRefusal inner error)
    (hparts : ∀ part, IsForeignComparison part → FilterPosition inner part →
      FilterPosition whole part) :
  IsRefusal whole error
  := by
  cases error with
  | grammar fault => apply h
  | unsupportedOperand fault =>
      obtain ⟨part, hpart, hforeign⟩ := h
      exact ⟨part, hparts part hforeign hpart, hforeign⟩
  | _ => cases h

/-- A group may be refused as a filter in it is. -/
theorem IsRefusal.grouped {items inner : List Json} {item : Json} {error : FilterError}
    {position : Nat} (h : IsRefusal item error) (hfirst : items.head? = some (.array inner))
    (hsize : 3 ≤ items.length) (hodd : items.length % 2 = 1)
    (hitem : items[position]? = some item) (heven : position % 2 = 0) :
  IsRefusal (.array items) error
  := by
  apply h.widen
  intro part _ hpart
  apply FilterPosition.grouped hfirst hsize hodd hitem heven hpart

/-- A comparison stands in an array only. -/
theorem FilterPosition.eq_array {value part : Json} (h : FilterPosition value part)
    (hforeign : IsForeignComparison part) :
  ∃ items, value = .array items
  := by
  cases h with
  | whole =>
      cases hforeign with
      | object _ _ => exact ⟨_, rfl⟩
      | element _ _ _ _ => exact ⟨_, rfl⟩
  | negated => exact ⟨_, rfl⟩
  | grouped => exact ⟨_, rfl⟩

end RowFilter
