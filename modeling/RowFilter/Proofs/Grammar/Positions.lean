import RowFilter.Proofs.Grammar.Wire

/-!
# Readings by positions

The readers of the grammar take arrays apart by their shape.  `FilterExpr.walk` reads the same
filters by positions: an element is looked up at a position of its array, where there may be none,
a path is the empty one if its element is no text, and the shape of an operand is looked at once
more before a comparison is put together.  A `Walk` keeps what is taken for granted on the way, as
`Assumption`s.  `FilterExpr.walk_follows` says that both readings come to the same and that every
assumption holds.
-/

namespace RowFilter

/-! ### Walks -/

/-- What a reading by positions takes for granted. -/
inductive Assumption where
  /-- An array of a size has an element at a position. -/
  | element (size position : Nat)
  /-- The element in place of a path is a text. -/
  | text (found : Json)
  /-- The operand of a comparison has the shape that the operator takes. -/
  | shape (path : String) (op : Operator) (operand : Operand)

/-- Whether what is taken for granted is so. -/
def Assumption.Holds : Assumption → Prop
  | .element size position => position < size
  | .text found => ∃ path, found = .string path
  | .shape path op operand =>
    FilterExpr.ofParts path op operand = .ok (.comparison path op operand)

/-- Why a reading by positions comes to nothing. -/
inductive Stop where
  /-- An array has no element where one is looked up. -/
  | outOfRange
  /-- The value is refused. -/
  | refused (error : FilterError)

/-- A reading by positions: what it takes for granted, in order, and what it comes to. -/
structure Walk (α : Type) where
  assumed : List Assumption
  outcome : Except Stop α

namespace Walk

variable {α β : Type}

/-- The walk that goes on with the result of another one. -/
def bind (walk : Walk α) (next : α → Walk β) : Walk β :=
  match walk.outcome with
  | .ok result => ⟨walk.assumed ++ (next result).assumed, (next result).outcome⟩
  | .error stop => ⟨walk.assumed, .error stop⟩

instance : Monad Walk where
  pure result := ⟨[], .ok result⟩
  bind := bind

/-- Takes something for granted. -/
def assume (assumption : Assumption) : Walk Unit :=
  ⟨[assumption], .ok ()⟩

/-- Takes nothing for granted, and comes to what a computation did. -/
def ofExcept (reading : Except FilterError α) : Walk α :=
  ⟨[], reading.mapError .refused⟩

/-- Looks up the element at a position, taking for granted that there is one. -/
def lookup (elements : List α) (position : Nat) : Walk α :=
  ⟨[.element elements.length position],
    match elements[position]? with
    | some element => .ok element
    | none => .error .outOfRange⟩

/-- Whether a walk comes to what another reading does, and takes nothing for granted that is not
so. -/
structure Follows (walk : Walk α) (reading : Except FilterError α) : Prop where
  outcome_eq : walk.outcome = reading.mapError .refused
  holds : ∀ assumption ∈ walk.assumed, assumption.Holds

namespace Follows

variable {walk : Walk α} {next : α → Walk β} {reading : Except FilterError α}
  {goal : Except FilterError β}

theorem ofExcept (reading : Except FilterError α) :
  (Walk.ofExcept reading).Follows reading
  := by
  constructor
  · rfl
  · intro assumption hmem
    cases hmem

theorem pure (result : α) :
  (Pure.pure result : Walk α).Follows (.ok result)
  := ofExcept (.ok result)

/-- Of two walks in a row, the second has to follow only from what the first comes to. -/
theorem bind {after : α → Except FilterError β} (h : walk.Follows reading)
    (hnext : ∀ result, reading = .ok result → (next result).Follows (after result)) :
  (walk >>= next).Follows (reading >>= after)
  := by
  obtain ⟨assumed, outcome⟩ := walk
  obtain ⟨rfl, hholds⟩ := h
  cases reading with
  | error error => exact ⟨rfl, hholds⟩
  | ok result =>
      obtain ⟨houtcome, hafter⟩ := hnext result rfl
      constructor
      · apply houtcome
      · intro assumption hmem
        obtain hmem | hmem := List.mem_append.mp hmem
        · apply hholds assumption hmem
        · apply hafter assumption hmem

theorem map {f : α → β} (h : walk.Follows reading) :
  (walk >>= fun result => Pure.pure (f result)).Follows (reading.map f)
  := by
  have hbind : (walk >>= fun result => Pure.pure (f result)).Follows
      (reading >>= fun result => .ok (f result)) := h.bind fun result _ => pure (f result)
  cases reading with
  | ok result => apply hbind
  | error error => apply hbind

/-- A walk that takes one thing for granted, which holds, may go on with its result. -/
theorem step {assumption : Assumption} {result : α} (h : assumption.Holds)
    (hnext : (next result).Follows goal) :
  ((⟨[assumption], .ok result⟩ : Walk α) >>= next).Follows goal
  := by
  constructor
  · apply hnext.outcome_eq
  · intro other hmem
    obtain rfl | hmem := List.mem_cons.mp hmem
    · apply h
    · apply hnext.holds other hmem

theorem assume {next : Unit → Walk β} {assumption : Assumption} (h : assumption.Holds)
    (hnext : (next ()).Follows goal) :
  (Walk.assume assumption >>= next).Follows goal
  := step h hnext

/-- A look-up at a position where there is an element goes on with that element. -/
theorem lookup {elements : List α} {position : Nat} {element : α}
    (h : elements[position]? = some element) (hnext : (next element).Follows goal) :
  (Walk.lookup elements position >>= next).Follows goal
  := by
  have hbound : (Assumption.element elements.length position).Holds :=
    (List.getElem?_eq_some_iff.mp h).1
  rw [Walk.lookup, h]
  apply step hbound hnext

end Follows

end Walk

namespace FilterExpr

/-! ### The readers by positions -/

/-- An element of an array, and how it is read by positions as a filter of its own. -/
abbrev Place := Json × (Nat → Walk FilterExpr)

/-- The path that an element stands for; nothing, where it is no text. -/
def pathOf : Json → String
  | .string path => path
  | _ => ""

/-- Reads a comparison: its path, its operator, its operand. -/
def walkComparison (items : List Json) : Walk FilterExpr := do
  let first ← Walk.lookup items 0
  Walk.assume (.text first)
  let operator ← Walk.lookup items 1
  let op ← Walk.ofExcept (readOperator (pathOf first) items.length operator)
  let value ← Walk.lookup items 2
  let operand ← Walk.ofExcept (readOperand (pathOf first) op value)
  Walk.assume (.shape (pathOf first) op operand)
  Walk.ofExcept (ofParts (pathOf first) op operand)

/-- Reads a negation: its mark, and what it negates. -/
def walkNegation (places : List Place) : Walk FilterExpr := do
  let first ← Walk.lookup places 0
  match first.1 with
  | .string "!" => do
    let second ← Walk.lookup places 1
    let child ← second.2 1
    return .negation child
  | _ => do
    -- The fault names the element, which is looked up once more for it.
    let found ← Walk.lookup places 0
    Walk.ofExcept (.error (.grammar (.notNegation found.1)))

/-- Reads the connective at a position. -/
def walkConnective (places : List Place) (position : Nat) : Walk Connective := do
  let place ← Walk.lookup places position
  Walk.ofExcept (readConnective position places.length place.1)

/-- Reads the rest of a group: the connectives at some positions, and the condition that comes
after each. -/
def walkRest (op : Connective) (places : List Place) : List Nat → Walk (List FilterExpr)
  | [] => return []
  | position :: positions => do
    let next ← walkConnective places position
    if next ≠ op then Walk.ofExcept (.error (.grammar (.mixedConnectives op next places.length)))
    else
      let place ← Walk.lookup places (position + 1)
      let child ← place.2 (position + 1)
      let children ← walkRest op places positions
      return child :: children

/-- Reads a group: its connective, its first condition, and then the others, with the connectives
at the odd positions. -/
def walkGroup (places : List Place) : Walk FilterExpr := do
  let op ← walkConnective places 1
  let first ← Walk.lookup places 0
  let child ← first.2 0
  let children ← walkRest op places (List.range' 1 (places.length / 2) 2)
  return .group op (child :: children)

/-- Reads the elements of an array as a filter. -/
def walkElements (places : List Place) : Walk FilterExpr :=
  match places.length with
  | 2 => walkNegation places
  | 3 => do
    let first ← Walk.lookup places 0
    match first.1 with
    | .string _ => walkComparison (places.map Prod.fst)
    | .array _ => walkGroup places
    | other => Walk.ofExcept (.error (.grammar (.firstElement other.kind)))
  | size =>
    if 5 ≤ size ∧ size % 2 = 1 then walkGroup places
    else Walk.ofExcept (.error (.grammar (.arraySize size)))

mutual

/-- Reads the element at a position of an array, which has to be a filter of its own. -/
def walkChild : Json → Nat → Walk FilterExpr
  | .array items, _ => walkElements (placesOf items)
  | other, position => Walk.ofExcept (.error (.grammar (.childNotArray position other.kind)))

/-- The elements of an array, each with its reader by positions. -/
def placesOf : List Json → List Place
  | [] => []
  | item :: rest => (item, walkChild item) :: placesOf rest

end

/-- Reads a JSON value as a filter, by positions. -/
def walk : Json → Walk FilterExpr
  | .array items => walkElements (placesOf items)
  | other => Walk.ofExcept (.error (.grammar (.notArray other.kind)))

/-! ### Both readings come to the same -/

theorem placesOf_eq_map :
  ∀ items : List Json, placesOf items = items.map fun item => (item, walkChild item)
  | [] => rfl
  | item :: rest => by rw [placesOf, placesOf_eq_map rest, List.map_cons]

theorem length_placesOf (items : List Json) :
  (placesOf items).length = items.length
  := by
  rw [placesOf_eq_map, List.length_map]

/-- At a position of an array is the element there with its reader. -/
theorem getElem?_placesOf {items : List Json} {position : Nat} {item : Json}
    (h : items[position]? = some item) :
  (placesOf items)[position]? = some (item, walkChild item)
  := by
  rw [placesOf_eq_map, List.getElem?_map, h, Option.map_some]

/-- Whether an element of an array is read by positions as it is by its shape, wherever it
stands. -/
def IsWalkedAsRead (item : Json) : Prop :=
  ∀ position, (walkChild item position).Follows (readChild item position)

/-- An operand is read in the shape that the operator takes. -/
theorem isList_of_readOperand {path : String} {op : Operator} {value : Json} {operand : Operand}
    (h : readOperand path op value = .ok operand) :
  operand.isList = op.takesList
  := by
  have hmeets : (readOperand path op value).Meets _ _ :=
    readOperand_meets op.symbol_mem_spellings value
  rw [h] at hmeets
  apply hmeets.2

theorem walkComparison_follows (path : String) (operator value : Json) :
  (walkComparison [.string path, operator, value]).Follows
    (readComparison [.string path, operator, value])
  := by
  have hfirst : [.string path, operator, value][0]? = some (.string path) := rfl
  have hsecond : [.string path, operator, value][1]? = some operator := rfl
  have hthird : [.string path, operator, value][2]? = some value := rfl
  have hpath : (Assumption.text (.string path)).Holds := ⟨path, rfl⟩
  apply Walk.Follows.lookup hfirst
  apply Walk.Follows.assume hpath
  apply Walk.Follows.lookup hsecond
  apply Walk.Follows.bind (Walk.Follows.ofExcept _)
  intro op _
  apply Walk.Follows.lookup hthird
  apply Walk.Follows.bind (Walk.Follows.ofExcept _)
  intro operand hoperand
  have hshape : (Assumption.shape path op operand).Holds :=
    ofParts_eq_ok (isList_of_readOperand hoperand)
  apply Walk.Follows.assume hshape
  apply Walk.Follows.ofExcept

/-- Two elements without the mark of a negation are refused. -/
theorem readNegation_of_ne {first second : Json} (h : first ≠ .string "!") :
  readNegation (elementsOf [first, second]) = .error (.grammar (.notNegation first))
  := by
  rw [elementsOf, elementsOf, elementsOf, readNegation.eq_def]
  split
  · next hmark =>
      cases hmark
      contradiction
  · next hmark => cases hmark
  · next hmark =>
      cases hmark
      rfl
  · next hmark => cases hmark

theorem walkNegation_follows {first second : Json} (h : IsWalkedAsRead second) :
  (walkNegation (placesOf [first, second])).Follows (readNegation (elementsOf [first, second]))
  := by
  have hfirst : (placesOf [first, second])[0]? = some (first, walkChild first) := rfl
  have hsecond : (placesOf [first, second])[1]? = some (second, walkChild second) := rfl
  apply Walk.Follows.lookup hfirst
  split
  · next hmark =>
      obtain rfl : first = .string "!" := hmark
      apply Walk.Follows.lookup hsecond
      apply Walk.Follows.map (h 1)
  · next hmark =>
      rw [readNegation_of_ne hmark]
      apply Walk.Follows.lookup hfirst
      apply Walk.Follows.ofExcept

theorem walkConnective_follows {items : List Json} {position : Nat} {item : Json}
    (h : items[position]? = some item) :
  (walkConnective (placesOf items) position).Follows (readConnective position items.length item)
  := by
  apply Walk.Follows.lookup (getElem?_placesOf h)
  rw [length_placesOf]
  apply Walk.Follows.ofExcept

/-- The rest of a group is read as it is by its shape, if it has as many conditions as connectives:
then there is a position after each connective. -/
theorem walkRest_follows (op : Connective) {items : List Json}
    (hitems : ∀ item ∈ items, IsWalkedAsRead item) :
  ∀ (count position : Nat), position + 2 * count = items.length →
    (walkRest op (placesOf items) (List.range' position count 2)).Follows
      (readRest op items.length position (elementsOf (items.drop position)))
  -- On the number of connectives left; the two readers go on from the same position.
  | 0, position, hsize => by
      rw [List.drop_of_length_le (by omega)]
      apply Walk.Follows.pure
  | count + 1, position, hsize => by
      have hconnective : position < items.length := by omega
      have hcondition : position + 1 < items.length := by omega
      have hchild := hitems _ (List.getElem_mem hcondition) (position + 1)
      have hrest := walkRest_follows op hitems count (position + 2) (by omega)
      rw [List.drop_eq_getElem_cons hconnective, List.drop_eq_getElem_cons hcondition, elementsOf,
        elementsOf, readRest, List.range'_succ, walkRest]
      apply Walk.Follows.bind (walkConnective_follows (List.getElem?_eq_getElem hconnective))
      intro next _
      by_cases hop : next ≠ op
      · rw [if_pos hop, if_pos hop, length_placesOf]
        apply Walk.Follows.ofExcept
      · rw [if_neg hop, if_neg hop]
        apply Walk.Follows.lookup (getElem?_placesOf (List.getElem?_eq_getElem hcondition))
        apply Walk.Follows.bind hchild
        intro child _
        apply Walk.Follows.bind hrest
        intro children _
        apply Walk.Follows.pure

theorem walkGroup_follows {items : List Json} (hsize : 3 ≤ items.length)
    (hodd : items.length % 2 = 1) (hitems : ∀ item ∈ items, IsWalkedAsRead item) :
  (walkGroup (placesOf items)).Follows (readGroup (elementsOf items))
  := by
  obtain _ | ⟨first, _ | ⟨connective, rest⟩⟩ := items
  · cases hodd
  · simp at hsize
  · have hfirst : (first :: connective :: rest)[0]? = some first := rfl
    have hsecond : (first :: connective :: rest)[1]? = some connective := rfl
    have hrest (op : Connective) :=
      walkRest_follows op hitems ((first :: connective :: rest).length / 2) 1 (by omega)
    rw [elementsOf, elementsOf, readGroup, length_elementsOf]
    apply Walk.Follows.bind (walkConnective_follows hsecond)
    intro op _
    apply Walk.Follows.lookup (getElem?_placesOf hfirst)
    apply Walk.Follows.bind (hitems first List.mem_cons_self 0)
    intro child _
    rw [length_placesOf]
    apply Walk.Follows.bind (hrest op)
    intro children _
    apply Walk.Follows.pure

/-- Five and more elements are a group if their number is odd. -/
theorem walkElements_of_five_le {places : List Place} (h : 5 ≤ places.length) :
  walkElements places
    = if places.length % 2 = 1 then walkGroup places
      else Walk.ofExcept (.error (.grammar (.arraySize places.length)))
  := by
  rw [walkElements]
  split
  · omega
  · omega
  · simp only [h, true_and]

theorem walkElements_follows {items : List Json} (h : ∀ item ∈ items, IsWalkedAsRead item) :
  (walkElements (placesOf items)).Follows (readElements (elementsOf items))
  := by
  match items with
  | [] => apply Walk.Follows.ofExcept
  | [_] => apply Walk.Follows.ofExcept
  | [first, second] => apply walkNegation_follows (h second (by simp))
  | [first, second, third] =>
      have hfirst : (placesOf [first, second, third])[0]? = some (first, walkChild first) := rfl
      apply Walk.Follows.lookup hfirst
      cases first with
      | string path => apply walkComparison_follows
      | array inner => apply walkGroup_follows (by simp) (by simp) h
      | _ => apply Walk.Follows.ofExcept
  | [_, _, _, _] => apply Walk.Follows.ofExcept
  | a :: b :: c :: d :: e :: rest =>
      rw [readElements_of_five_le (by simp [elementsOf]), length_elementsOf,
        walkElements_of_five_le (by simp [placesOf]), length_placesOf]
      split
      · next hodd => apply walkGroup_follows (by simp) hodd h
      · apply Walk.Follows.ofExcept

mutual

/-- Read by positions, a JSON value comes to what it is read as, and all that is taken for granted
holds. -/
theorem walk_follows :
  ∀ value : Json, (walk value).Follows (ofJson value)
  | .array items => by
      apply walkElements_follows
      intro item hmem position
      have hitem := walk_follows_of_mem items item hmem
      cases item with
      | array inner => apply hitem
      | _ => apply Walk.Follows.ofExcept
  | .null => .ofExcept _
  | .bool _ => .ofExcept _
  | .number _ => .ofExcept _
  | .string _ => .ofExcept _
  | .object _ => .ofExcept _

/-- So do the elements of an array. -/
theorem walk_follows_of_mem :
  ∀ (items : List Json), ∀ item ∈ items, (walk item).Follows (ofJson item)
  | item :: _, _, .head _ => walk_follows item
  | _ :: rest, item, .tail _ hmem => walk_follows_of_mem rest item hmem

end

/-! ### No reading slips -/

/-- A JSON value is refused only with faults that can lie in it. -/
theorem liesInValue_of_ofJson {value : Json} {fault : GrammarFault}
    (h : ofJson value = .error (.grammar fault)) :
  fault.liesInValue = true
  := by
  have hmeets := ofJson_meets value
  rw [h] at hmeets
  apply hmeets

/-- No reading slips.  Read by positions, a JSON value comes to what it is read as, and no look-up
misses: every position that is looked up lies in its array.  Every path is the text of an element,
not the empty one in its place, and every operand that is read has a shape that its operator
accepts.  So no fault comes up that only such a slip can cause. -/
theorem walk_neverSlips (value : Json) :
  (walk value).outcome = (ofJson value).mapError .refused ∧
  (walk value).outcome ≠ .error .outOfRange ∧
  (∀ size position, .element size position ∈ (walk value).assumed → position < size) ∧
  (∀ found, .text found ∈ (walk value).assumed → ∃ path, found = .string path) ∧
  (∀ path op operand, .shape path op operand ∈ (walk value).assumed →
    ofParts path op operand = .ok (.comparison path op operand)) ∧
  ∀ fault, ofJson value = .error (.grammar fault) → fault.liesInValue = true
  := by
  obtain ⟨houtcome, hholds⟩ := walk_follows value
  refine ⟨houtcome, ?misses, ?positions, ?paths, ?shapes, ?faults⟩
  case misses =>
    rw [houtcome]
    cases ofJson value <;> rintro ⟨⟩
  case positions =>
    intro size position hmem
    apply hholds _ hmem
  case paths =>
    intro found hmem
    apply hholds _ hmem
  case shapes =>
    intro path op operand hmem
    apply hholds _ hmem
  case faults =>
    intro fault
    apply liesInValue_of_ofJson

/-- A group of a comparison and a negation is read without a slip, and an array of one element is
refused for its size. -/
theorem walk_neverSlips_group :
  let leaf := Json.array [.string "a", .string "=", .null]
  let value := Json.array [leaf, .string "and", .array [.string "!", leaf]]
  let equals := Operator.relation .eq
  (.element 3 2 ∈ (walk value).assumed ∧ 2 < 3) ∧
  (.element 2 1 ∈ (walk value).assumed ∧ 1 < 2) ∧
  (.text (.string "a") ∈ (walk value).assumed ∧ ∃ path, Json.string "a" = .string path) ∧
  (.shape "a" equals (.scalar .null) ∈ (walk value).assumed ∧
    ofParts "a" equals (.scalar .null) = .ok (.comparison "a" equals (.scalar .null))) ∧
  (ofJson (.array [leaf]) = .error (.grammar (.arraySize 1)) ∧
    (GrammarFault.arraySize 1).liesInValue = true)
  := by
  intro leaf value equals
  obtain ⟨_, _, hpositions, hpaths, hshapes, _⟩ := walk_neverSlips value
  obtain ⟨_, _, _, _, _, hfaults⟩ := walk_neverSlips (.array [leaf])
  have hassumed : (walk value).assumed
      = [.element 3 0, .element 3 1, .element 3 0,
        .element 3 0, .element 3 0, .text (.string "a"), .element 3 1, .element 3 2,
        .shape "a" equals (.scalar .null), .element 3 1, .element 3 2,
        .element 2 0, .element 2 1,
        .element 3 0, .element 3 0, .text (.string "a"), .element 3 1, .element 3 2,
        .shape "a" equals (.scalar .null)] := by
    subst value leaf equals
    rfl
  have hlast : .element 3 2 ∈ (walk value).assumed := by simp [hassumed]
  have hnegated : .element 2 1 ∈ (walk value).assumed := by simp [hassumed]
  have htext : .text (.string "a") ∈ (walk value).assumed := by simp [hassumed]
  have hshape : .shape "a" equals (.scalar .null) ∈ (walk value).assumed := by simp [hassumed]
  exact ⟨⟨hlast, hpositions _ _ hlast⟩, ⟨hnegated, hpositions _ _ hnegated⟩,
    ⟨htext, hpaths _ htext⟩, ⟨hshape, hshapes _ _ _ hshape⟩, rfl, hfaults _ rfl⟩

/-- The readers rely on the check of the size: a mark without a filter, and a connective without
one after it, make a look-up miss. -/
example : (walkNegation (placesOf [.string "!"])).outcome = .error .outOfRange := rfl

example :
  let leaf := Json.array [.string "a", .string "=", .null]
  (walkGroup (placesOf [leaf, .string "and", leaf, .string "and"])).outcome = .error .outOfRange
  := rfl

end FilterExpr

end RowFilter
