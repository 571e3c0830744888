import RowFilter.Proofs.Plan.Memory

/-!
# What a plan may do

A plan stays within some kinds of calls and some errors when it has no other calls, whatever the
answers, and no other errors of its own (`Plan.Within`).  Then it makes only such calls on a store,
and it has such an error when it gives up.  A plan gives up early when it has not asked for any
condition by then (`Plan.GivesUpEarly`).  It yields some results when it has no others, whatever the
answers (`Plan.Yields`).
-/

namespace RowFilter

namespace Plan

variable {Field Predicate α β : Type}

/-- Whether all calls of a plan, whatever the answers, are of some kinds, and all errors with which
it ends by itself are among some errors. -/
def Within (kinds : CallKind → Prop) (errors : FilterError → Prop) :
    Plan Field Predicate α → Prop
  | .done _ => True
  | .fail error => errors error
  | .note _ rest => rest.Within kinds errors
  | .ask kind _ next => kinds kind ∧ ∀ answer, (next answer).Within kinds errors

/-- Whether the plan, when it gives up on a store, has one of some errors and has not asked for any
condition. -/
def GivesUpEarly (errors : FilterError → Prop) (plan : Plan Field Predicate α) : Prop :=
  ∀ (store : Store Field Predicate) (before : List (Made Field Predicate)),
    plan.GivesUp store before →
      (∀ call ∈ plan.made store before, call.1 ≠ .predicate) ∧
      ∃ error, plan.outcome store before = .error error ∧ errors error

/-- Whether all results of a plan, whatever the answers, are among some results. -/
def Yields (results : α → Prop) : Plan Field Predicate α → Prop
  | .done result => results result
  | .fail _ => True
  | .note _ rest => rest.Yields results
  | .ask _ _ next => ∀ answer, (next answer).Yields results

variable {kinds : CallKind → Prop} {errors : FilterError → Prop} {plan : Plan Field Predicate α}
  {store : Store Field Predicate} {before : List (Made Field Predicate)}

/-- A plan that stays within some calls and errors stays within all that they are among. -/
theorem Within.mono {others : CallKind → Prop} {allowed : FilterError → Prop}
    (h : plan.Within kinds errors) (hothers : ∀ kind, kinds kind → others kind)
    (hallowed : ∀ error, errors error → allowed error) :
  plan.Within others allowed
  := by
  induction plan with
  | done result => trivial
  | fail error => exact hallowed error h
  | note event rest ih => exact ih h
  | ask kind call rest ih =>
      obtain ⟨hkind, hrest⟩ := h
      exact ⟨hothers kind hkind, fun answer => ih answer (hrest answer)⟩

/-- Two plans in a row stay within what both stay within. -/
theorem Within.bind {next : α → Plan Field Predicate β} (h : plan.Within kinds errors)
    (hnext : ∀ result, (next result).Within kinds errors) :
  (plan.bind next).Within kinds errors
  := by
  induction plan with
  | done result => apply hnext
  | fail error => apply h
  | note event rest ih => apply ih h
  | ask kind call rest ih =>
      obtain ⟨hkind, hrest⟩ := h
      constructor
      · apply hkind
      · intro answer
        apply ih answer (hrest answer)

/-- A plan makes only calls of the kinds that it stays within. -/
theorem Within.mem_made (h : plan.Within kinds errors) :
  ∀ call ∈ plan.made store before, kinds call.1
  := by
  induction plan generalizing before with
  | done result => simp [made]
  | fail error => simp [made]
  | note event rest ih => apply ih h
  | ask kind call rest ih =>
      obtain ⟨hkind, hrest⟩ := h
      rw [made, List.forall_mem_cons]
      constructor
      · apply hkind
      · cases (store before).answer kind call with
        | ok answer => apply ih answer (hrest answer)
        | error error => simp

/-- A plan gives up with one of the errors that it stays within. -/
theorem Within.error_of_givesUp (h : plan.Within kinds errors)
    (hgivesUp : plan.GivesUp store before) :
  ∃ error, plan.outcome store before = .error error ∧ errors error
  := by
  induction plan generalizing before with
  | done result => cases hgivesUp
  | fail error => exact ⟨error, rfl, h⟩
  | note event rest ih => apply ih h hgivesUp
  | ask kind call rest ih =>
      obtain ⟨hkind, hrest⟩ := h
      rw [GivesUp] at hgivesUp
      rw [outcome]
      cases hanswer : (store before).answer kind call with
      | ok answer =>
          rw [hanswer] at hgivesUp
          apply ih answer (hrest answer) hgivesUp
      | error error =>
          rw [hanswer] at hgivesUp
          cases hgivesUp

/-- An error with which a plan ends is one that it stays within, or one of the store. -/
theorem Within.of_outcome_error {error : FilterError} (h : plan.Within kinds errors)
    (herror : plan.outcome store before = .error error) :
  errors error ∨ ∃ calls kind call, (store calls).answer kind call = .error error
  := by
  induction plan generalizing before with
  | done result => cases herror
  | fail other =>
      cases herror
      exact Or.inl h
  | note event rest ih => exact ih h herror
  | ask kind call rest ih =>
      obtain ⟨_, hrest⟩ := h
      rw [outcome] at herror
      cases hanswer : (store before).answer kind call with
      | ok answer =>
          rw [hanswer] at herror
          exact ih answer (hrest answer) herror
      | error other =>
          rw [hanswer] at herror
          cases herror
          exact Or.inr ⟨before, kind, call, hanswer⟩

/-- The plan that ends as a computation did stays within its error. -/
theorem within_ofExcept {result : Except FilterError α}
    (h : ∀ error, result = .error error → errors error) :
  (ofExcept result : Plan Field Predicate α).Within kinds errors
  := by
  cases result with
  | ok value => trivial
  | error error => apply h error rfl

/-! ### Giving up early -/

theorem givesUpEarly_fail {error : FilterError} (h : errors error) :
  (fail error : Plan Field Predicate α).GivesUpEarly errors
  := by
  intro store before _
  exact ⟨by simp [made], error, rfl, h⟩

/-- The plan that asks for a condition does not give up. -/
theorem not_givesUp_predicate (request : Call Field Predicate .predicate) :
  ¬ (predicate request).GivesUp store before
  := by
  rw [predicate, GivesUp]
  cases (store before).answer .predicate request with
  | ok answer => apply id
  | error error => apply id

/-- A plan without calls for conditions is followed by one that gives up early: then both in a row
do. -/
theorem Within.bind_givesUpEarly {next : α → Plan Field Predicate β}
    (h : plan.Within (· ≠ .predicate) errors)
    (hnext : ∀ result, (next result).GivesUpEarly errors) :
  (plan.bind next).GivesUpEarly errors
  := by
  intro store before hgivesUp
  obtain hfirst | ⟨result, hresult, hsecond⟩ := givesUp_bind_iff.mp hgivesUp
  · obtain ⟨error, herror, hallowed⟩ := h.error_of_givesUp hfirst
    constructor
    · rw [made_bind_of_error next herror]
      apply h.mem_made
    · refine ⟨error, ?_, hallowed⟩
      rw [outcome_bind, herror]
      rfl
  · obtain ⟨hcalls, error, herror, hallowed⟩ := hnext result store _ hsecond
    constructor
    · rw [made_bind_of_ok next hresult, List.forall_mem_append]
      exact ⟨h.mem_made, hcalls⟩
    · refine ⟨error, ?_, hallowed⟩
      rw [outcome_bind, hresult]
      apply herror

/-! ### Results -/

/-- Every plan yields what it yields. -/
theorem yields_true (plan : Plan Field Predicate α) :
  plan.Yields fun _ => True
  := by
  induction plan with
  | done result => trivial
  | fail error => trivial
  | note event rest ih => apply ih
  | ask kind call rest ih => exact ih

/-- A plan that yields some results yields all that they are among. -/
theorem Yields.mono {results others : α → Prop} (h : plan.Yields results)
    (hothers : ∀ result, results result → others result) :
  plan.Yields others
  := by
  induction plan with
  | done result => apply hothers result h
  | fail error => trivial
  | note event rest ih => apply ih h
  | ask kind call rest ih =>
      intro answer
      apply ih answer (h answer)

/-- Of two plans in a row, the second yields what it does after the results of the first. -/
theorem Yields.bind {results : α → Prop} {last : β → Prop} {next : α → Plan Field Predicate β}
    (h : plan.Yields results) (hnext : ∀ result, results result → (next result).Yields last) :
  (plan.bind next).Yields last
  := by
  induction plan with
  | done result => apply hnext result h
  | fail error => trivial
  | note event rest ih => apply ih h
  | ask kind call rest ih =>
      intro answer
      apply ih answer (h answer)

/-- The result on a store is one that the plan yields. -/
theorem Yields.of_outcome {results : α → Prop} {result : α} (h : plan.Yields results)
    (hresult : plan.outcome store before = .ok result) :
  results result
  := by
  induction plan generalizing before with
  | done found =>
      cases hresult
      apply h
  | fail error => cases hresult
  | note event rest ih => apply ih h hresult
  | ask kind call rest ih =>
      rw [outcome] at hresult
      cases hanswer : (store before).answer kind call with
      | ok answer =>
          rw [hanswer] at hresult
          apply ih answer (h answer) hresult
      | error error =>
          rw [hanswer] at hresult
          cases hresult

end Plan

end RowFilter
