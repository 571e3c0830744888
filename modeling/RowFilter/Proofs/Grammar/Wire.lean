import RowFilter.Proofs.Grammar.Reading

/-!
# Written forms read back

The JSON value that stands for an expression is read back as that expression if the expression is
`FilterExpr.IsWireFormed`, and refused otherwise.  Everything that is read is wire-formed.
-/

namespace RowFilter

/-! ### Operands -/

theorem Scalar.toJson_inj {first second : Scalar} (h : first.toJson = second.toJson) :
  first = second
  := by
  cases first <;> cases second <;> simp_all [toJson]

/-- Operands that are written alike are the same. -/
theorem Operand.toJson_inj {first second : Operand} (h : first.toJson = second.toJson) :
  first = second
  := by
  cases first with
  | scalar value =>
      cases second with
      | scalar other => rw [Scalar.toJson_inj h]
      | list others => cases value <;> cases h
  | list values =>
      cases second with
      | scalar other => cases other <;> cases h
      | list others =>
          have hlists := Json.array.inj h
          rw [List.map_inj_right (fun _ _ => Scalar.toJson_inj)] at hlists
          rw [hlists]

theorem Operator.symbol_mem_spellings (op : Operator) :
  op.symbol ∈ op.spellings
  := by
  cases op with
  | relation relation => cases relation <;> apply List.mem_cons_self
  | textMatch kind => cases kind <;> apply List.mem_cons_self
  | membership kind => cases kind <;> apply List.mem_cons_self

theorem Connective.symbol_mem_spellings (op : Connective) :
  op.symbol ∈ op.spellings
  := by
  cases op <;> apply List.mem_cons_self

/-- No text spells two operators. -/
theorem Operator.eq_of_mem_spellings {text : String} {first second : Operator}
    (hfirst : text ∈ first.spellings) (hsecond : text ∈ second.spellings) :
  first = second
  := by
  rw [← ofText?_eq_some_iff] at hfirst hsecond
  apply Option.some.inj (hfirst.symm.trans hsecond)

namespace FilterExpr

/-! ### Wire-formed expressions -/

mutual

/-- Whether the expression can be written: nothing in it is empty, its groups have at least two
conditions, and the operands of its comparisons fit their operators. -/
def IsWireFormed : FilterExpr → Prop
  | .empty => False
  | .comparison _ op operand => operand.isList = op.takesList
  | .group _ children => 2 ≤ children.length ∧ AllWireFormed children
  | .negation child => child.IsWireFormed

/-- Whether all expressions of a list can be written. -/
def AllWireFormed : List FilterExpr → Prop
  | [] => True
  | child :: rest => child.IsWireFormed ∧ AllWireFormed rest

end

mutual

/-- A wire-formed expression is derived from the JSON value that stands for it. -/
theorem derives_toJson :
  ∀ {expr : FilterExpr}, expr.IsWireFormed → Derives expr.toJson expr
  | .comparison _ op _, h => .comparison op.symbol_mem_spellings h
  | .negation _, h => .negation (derives_toJson h)
  | .group _ (_ :: _ :: _), ⟨_, hfirst, hrest⟩ =>
      .group (derives_toJson hfirst) (derivesRest_joinedJson hrest)
  | .group _ [], ⟨hsize, _⟩ => by cases hsize
  | .group _ [_], ⟨hsize, _⟩ => by cases Nat.le_of_succ_le_succ hsize

/-- Wire-formed expressions are derived from the elements that stand for them in a group. -/
theorem derivesRest_joinedJson {op : Connective} :
  ∀ {children : List FilterExpr}, AllWireFormed children →
    DerivesRest op (joinedJson op children) children
  | [], _ => .nil
  | _ :: _, ⟨hchild, hrest⟩ =>
      .cons op.symbol_mem_spellings (derives_toJson hchild) (derivesRest_joinedJson hrest)

end

end FilterExpr

open FilterExpr

mutual

/-- What the grammar derives is wire-formed. -/
theorem Derives.isWireFormed :
  ∀ {value : Json} {expr : FilterExpr}, Derives value expr → expr.IsWireFormed
  | _, _, .comparison _ hshape => hshape
  | _, _, .negation hinner => hinner.isWireFormed
  | _, _, .group hfirst hrest => ⟨by simp, hfirst.isWireFormed, hrest.allWireFormed⟩

/-- What the grammar derives as the rest of a group is wire-formed. -/
theorem DerivesRest.allWireFormed :
  ∀ {op : Connective} {rest : List Json} {children : List FilterExpr},
    DerivesRest op rest children → AllWireFormed children
  | _, _, _, .nil => trivial
  | _, _, _, .cons _ hitem hrest => ⟨hitem.isWireFormed, hrest.allWireFormed⟩

end

/-! ### Written forms are not confused -/

/-- No written form is a text. -/
theorem FilterExpr.toJson_ne_string (expr : FilterExpr) (text : String) :
  expr.toJson ≠ .string text
  := by
  cases expr with
  | group op children => cases children <;> rintro ⟨⟩
  | _ => rintro ⟨⟩

mutual

/-- Only the expression itself is derived from the JSON value that stands for it. -/
theorem Derives.eq_of_toJson :
  ∀ (expr : FilterExpr) {found : FilterExpr}, Derives expr.toJson found → found = expr
  | .empty, _, h => by cases h
  | .comparison path op operand, _, h => by
      rw [toJson] at h
      -- A derivation is taken apart over variables only, not over what a function writes.
      generalize hvalue : operand.toJson = value at h
      cases h with
      | comparison hop hshape =>
          rw [Operand.toJson_inj hvalue,
            Operator.eq_of_mem_spellings op.symbol_mem_spellings hop]
      | group hfirst hrest =>
          obtain ⟨_, hfirst⟩ := hfirst.eq_array
          cases hfirst
  | .negation child, _, h => by
      rw [toJson] at h
      generalize hvalue : child.toJson = value at h
      cases h with
      | negation hinner =>
          subst hvalue
          rw [Derives.eq_of_toJson child hinner]
      | group hfirst hrest =>
          obtain ⟨_, hfirst⟩ := hfirst.eq_array
          cases hfirst
  | .group op [], _, h => by
      rw [toJson] at h
      cases h
  | .group op (first :: rest), _, h => by
      rw [toJson] at h
      generalize hfirst : first.toJson = value at h
      generalize hrest : joinedJson op rest = values at h
      cases h with
      | comparison hop hshape => cases first.toJson_ne_string _ hfirst
      | negation hinner => cases first.toJson_ne_string _ hfirst
      | group hchild hchildren =>
          subst hfirst
          subst hrest
          obtain ⟨hrest, hop⟩ := DerivesRest.eq_of_joinedJson rest hchildren
          rw [Derives.eq_of_toJson first hchild, hrest, hop (by rintro ⟨⟩)]

/-- Only the expressions themselves are derived from the elements that stand for them. -/
theorem DerivesRest.eq_of_joinedJson {op : Connective} :
  ∀ (expected : List FilterExpr) {p : Connective} {children : List FilterExpr},
    DerivesRest p (joinedJson op expected) children →
      children = expected ∧ (children ≠ [] → p = op)
  | [], _, _, h => by
      cases h
      refine ⟨rfl, ?_⟩
      intro hnil
      contradiction
  | child :: rest, p, _, h => by
      rw [joinedJson] at h
      generalize hchild : child.toJson = value at h
      cases h with
      | cons hop hitem hrest =>
          subst hchild
          obtain ⟨hrest, _⟩ := DerivesRest.eq_of_joinedJson rest hrest
          rw [Derives.eq_of_toJson child hitem, hrest]
          refine ⟨rfl, ?_⟩
          intro _
          apply Connective.eq_of_mem_spellings hop op.symbol_mem_spellings

end

namespace FilterExpr

/-- The JSON value of an expression is read as that expression if it is wire-formed, and refused
otherwise.  What is read from any JSON value is wire-formed, so that its own JSON value is read as
the same expression again. -/
theorem ofJson_toJson :
  (∀ expr : FilterExpr, expr.IsWireFormed → ofJson expr.toJson = .ok expr) ∧
  (∀ expr : FilterExpr, ¬ expr.IsWireFormed → ∃ error, ofJson expr.toJson = .error error) ∧
  ∀ (value : Json) (expr : FilterExpr), ofJson value = .ok expr →
    expr.IsWireFormed ∧ ofJson expr.toJson = .ok expr
  := by
  refine ⟨?back, ?refused, ?again⟩
  case back =>
    intro expr h
    apply ofJson_eq_ok_iff.mpr (derives_toJson h)
  case refused =>
    intro expr h
    cases hread : ofJson expr.toJson with
    | error error => exact ⟨error, rfl⟩
    | ok found =>
        have hfound := ofJson_eq_ok_iff.mp hread
        obtain rfl := hfound.eq_of_toJson expr
        exact absurd hfound.isWireFormed h
  case again =>
    intro value expr hread
    have hformed := (ofJson_eq_ok_iff.mp hread).isWireFormed
    exact ⟨hformed, ofJson_eq_ok_iff.mpr (derives_toJson hformed)⟩

/-- A group of a negation and a comparison is read back; a group of one condition is refused. -/
theorem ofJson_toJson_groups :
  let isNull := FilterExpr.comparison "a" (.relation .eq) (.scalar .null)
  let both := group .and [.negation isNull, isNull]
  (both.IsWireFormed ∧ ofJson both.toJson = .ok both) ∧
  (¬ (group .and [isNull]).IsWireFormed ∧
    ∃ error, ofJson (group .and [isNull]).toJson = .error error) ∧
  (ofJson (.array [.string "a", .string "eq", .null]) = .ok isNull ∧
    ofJson isNull.toJson = .ok isNull)
  := by
  intro isNull both
  obtain ⟨hback, hrefused, hagain⟩ := ofJson_toJson
  have hboth : both.IsWireFormed := ⟨Nat.le_refl 2, rfl, rfl, trivial⟩
  have hsingle : ¬ (group .and [isNull]).IsWireFormed := by
    rintro ⟨hsize, _⟩
    cases Nat.le_of_succ_le_succ hsize
  refine ⟨⟨hboth, hback both hboth⟩, ⟨hsingle, hrefused _ hsingle⟩, rfl, ?_⟩
  exact (hagain (.array [.string "a", .string "eq", .null]) isNull rfl).2

end FilterExpr

end RowFilter
