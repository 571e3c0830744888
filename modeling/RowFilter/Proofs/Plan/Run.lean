import RowFilter.Filter.Plan

/-!
# Outcomes of composed plans

The outcome of a plan that goes on with the result of another one is the outcome of the first,
followed by that of the second (`Plan.run_bind`).  Two computations in a row have a result if and
only if both have one (`Except.bind_eq_ok_iff`).
-/

/-- Two computations in a row have a result if and only if the first has one with which the
second has that result. -/
theorem Except.bind_eq_ok_iff {ε α β : Type} {first : Except ε α} {next : α → Except ε β}
    {result : β} :
  (first >>= next) = .ok result ↔ ∃ between, first = .ok between ∧ next between = .ok result
  := by
  cases first with
  | ok between => simp [bind, Except.bind]
  | error error => simp [bind, Except.bind]

/-- A computation followed by a function has a result if and only if the computation has one
that the function takes to it. -/
theorem Except.map_eq_ok_iff {ε α β : Type} {first : Except ε α} {f : α → β} {result : β} :
  first.map f = .ok result ↔ ∃ between, first = .ok between ∧ f between = result
  := by
  cases first with
  | ok between => simp [Except.map]
  | error error => simp [Except.map]

namespace RowFilter

namespace Plan

variable {Field Predicate α β : Type}

/-- Of three plans in a row, it does not matter which two are put together first. -/
theorem bind_assoc {γ : Type} (plan : Plan Field Predicate α) (next : α → Plan Field Predicate β)
    (last : β → Plan Field Predicate γ) :
  (plan.bind next).bind last = plan.bind fun result => (next result).bind last
  := by
  induction plan with
  | done result => rfl
  | fail error => rfl
  | note event rest ih => apply congrArg (Plan.note event) ih
  | ask kind call rest ih =>
      rw [Plan.bind, Plan.bind, Plan.bind]
      congr 1
      funext answer
      apply ih

variable (backend : Backend Field Predicate)

@[simp]
theorem run_done (result : α) :
  (done result : Plan Field Predicate α).run backend = .ok result
  := rfl

@[simp]
theorem run_fail (error : FilterError) :
  (fail error : Plan Field Predicate α).run backend = .error error
  := rfl

@[simp]
theorem run_note (event : Note) (rest : Plan Field Predicate α) :
  (note event rest).run backend = rest.run backend
  := rfl

/-- The plan that makes a call comes out as the answer, followed by the rest of the plan. -/
theorem run_ask (kind : CallKind) (call : Call Field Predicate kind)
    (next : Answer Field Predicate kind → Plan Field Predicate α) :
  (ask kind call next).run backend
    = backend.answer kind call >>= fun answer => (next answer).run backend
  := by
  rw [run]
  cases backend.answer kind call <;> rfl

/-- A plan that goes on with the result of another one comes out as the two one after the
other. -/
theorem run_bind (plan : Plan Field Predicate α) (next : α → Plan Field Predicate β) :
  (plan.bind next).run backend = plan.run backend >>= fun result => (next result).run backend
  := by
  induction plan with
  | done result => rfl
  | fail error => rfl
  | note event rest ih => apply ih
  | ask kind call rest ih =>
      rw [Plan.bind, run_ask, run_ask]
      cases backend.answer kind call with
      | ok answer => apply ih
      | error error => rfl

/-- The plan that ends as a computation did comes out as that computation. -/
@[simp]
theorem run_ofExcept (outcome : Except FilterError α) :
  (ofExcept outcome : Plan Field Predicate α).run backend = outcome
  := by
  cases outcome <;> rfl

/-- The plan that asks for a condition comes out as the answer. -/
@[simp]
theorem run_predicate (request : Call Field Predicate .predicate) :
  (predicate request).run backend = backend.answer .predicate request
  := by
  rw [predicate, run_ask]
  cases backend.answer .predicate request <;> rfl

/-- The plan that asks for a field comes out as the answer. -/
theorem run_field (request : Call Field Predicate .field) :
  (ask .field request done : Plan Field Predicate Field).run backend
    = backend.answer .field request
  := by
  apply Eq.trans (run_ask backend .field request _)
  cases backend.answer .field request <;> rfl

end Plan

end RowFilter
