import RowFilter.Proofs.Plan.Memory

/-!
# Calls of composed plans

The calls and notes of two plans in a row are those of the first and, if it comes out, those of the
second (`Plan.calls_bind_of_ok`, `Plan.notes_bind_of_ok`).  So what a part of a plan asks for, the
plan asks for (`Plan.Includes`), and plans of parts that ask for the same do so as well
(`Plan.SameOn`).
-/

namespace RowFilter

namespace Plan

variable {Field Predicate α β : Type} {backend : Backend Field Predicate}

/-- The calls of two plans in a row are those of the first and then those of the second, if the
first one comes out. -/
theorem calls_bind_of_ok {plan : Plan Field Predicate α} {result : α}
    (h : plan.run backend = .ok result) (next : α → Plan Field Predicate β) :
  (plan.bind next).calls backend = plan.calls backend ++ (next result).calls backend
  := by
  have houtcome : plan.outcome (.ofBackend backend) [] = .ok result := by
    rw [outcome_ofBackend, h]
  rw [← made_ofBackend backend (plan.bind next) [], made_bind_of_ok next houtcome, made_ofBackend,
    made_ofBackend]

/-- The calls of two plans in a row are those of the first, if it does not come out. -/
theorem calls_bind_of_error {plan : Plan Field Predicate α} {error : FilterError}
    (h : plan.run backend = .error error) (next : α → Plan Field Predicate β) :
  (plan.bind next).calls backend = plan.calls backend
  := by
  have houtcome : plan.outcome (.ofBackend backend) [] = .error error := by
    rw [outcome_ofBackend, h]
  rw [← made_ofBackend backend (plan.bind next) [], made_bind_of_error next houtcome,
    made_ofBackend]

/-- The notes of two plans in a row are those of the first and then those of the second, if the
first one comes out. -/
theorem notes_bind_of_ok {plan : Plan Field Predicate α} {result : α}
    (h : plan.run backend = .ok result) (next : α → Plan Field Predicate β) :
  (plan.bind next).notes backend = plan.notes backend ++ (next result).notes backend
  := by
  induction plan with
  | done found =>
      cases h
      rfl
  | fail error => cases h
  | note event rest ih => apply congrArg (event :: ·) (ih h)
  | ask kind call rest ih =>
      rw [run_ask] at h
      obtain ⟨answer, hanswer, h⟩ := Except.bind_eq_ok_iff.mp h
      rw [Plan.bind, notes, notes, hanswer]
      apply ih answer h

/-! ### Included plans -/

/-- Whether another plan comes out on a backend, and a plan makes all of its calls and takes all of
its notes in a row. -/
structure Includes (backend : Backend Field Predicate) (plan : Plan Field Predicate α)
    (part : Plan Field Predicate β) : Prop where
  run : ∃ result, part.run backend = .ok result
  calls : part.calls backend <:+: plan.calls backend
  notes : part.notes backend <:+: plan.notes backend

theorem Includes.refl {plan : Plan Field Predicate α} {result : α}
    (h : plan.run backend = .ok result) :
  plan.Includes backend plan
  := ⟨⟨result, h⟩, List.infix_refl _, List.infix_refl _⟩

/-- What the first of two plans in a row includes, both do, if the first one comes out. -/
theorem Includes.bind_left {plan : Plan Field Predicate α} {part : Plan Field Predicate β}
    {γ : Type} {result : α} (h : plan.Includes backend part) (hrun : plan.run backend = .ok result)
    (next : α → Plan Field Predicate γ) :
  (plan.bind next).Includes backend part
  := by
  constructor
  · apply h.run
  · rw [calls_bind_of_ok hrun]
    apply h.calls.trans (List.prefix_append _ _).isInfix
  · rw [notes_bind_of_ok hrun]
    apply h.notes.trans (List.prefix_append _ _).isInfix

/-- What the second of two plans in a row includes, both do, if the first one comes out. -/
theorem Includes.bind_right {plan : Plan Field Predicate α} {part : Plan Field Predicate β}
    {γ : Type} {result : α} {next : α → Plan Field Predicate γ}
    (h : (next result).Includes backend part) (hrun : plan.run backend = .ok result) :
  (plan.bind next).Includes backend part
  := by
  constructor
  · apply h.run
  · rw [calls_bind_of_ok hrun]
    apply h.calls.trans (List.suffix_append _ _).isInfix
  · rw [notes_bind_of_ok hrun]
    apply h.notes.trans (List.suffix_append _ _).isInfix

/-! ### Plans that ask for the same -/

/-- Whether two plans make the same calls on a backend and come out the same. -/
structure SameOn (backend : Backend Field Predicate) (plan other : Plan Field Predicate α) :
    Prop where
  run_eq : plan.run backend = other.run backend
  calls_eq : plan.calls backend = other.calls backend

theorem SameOn.refl (plan : Plan Field Predicate α) :
  plan.SameOn backend plan
  := ⟨rfl, rfl⟩

/-- Plans that make the same calls and come out the same do so when they are followed by plans that
do. -/
theorem SameOn.bind {plan other : Plan Field Predicate α} {next after : α → Plan Field Predicate β}
    (h : plan.SameOn backend other)
    (hnext : ∀ result, plan.run backend = .ok result →
      (next result).SameOn backend (after result)) :
  (plan.bind next).SameOn backend (other.bind after)
  := by
  cases hrun : plan.run backend with
  | ok result =>
      have hother := h.run_eq.symm.trans hrun
      obtain ⟨hruns, hcalls⟩ := hnext result hrun
      constructor
      · rw [run_bind, run_bind, hrun, hother]
        apply hruns
      · rw [calls_bind_of_ok hrun, calls_bind_of_ok hother, h.calls_eq, hcalls]
  | error error =>
      have hother := h.run_eq.symm.trans hrun
      constructor
      · rw [run_bind, run_bind, hrun, hother]
        rfl
      · rw [calls_bind_of_error hrun, calls_bind_of_error hother, h.calls_eq]

end Plan

end RowFilter
