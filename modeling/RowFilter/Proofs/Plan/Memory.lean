import RowFilter.Proofs.Plan.Run

/-!
# Stores with a memory

A `Store` may answer a call by the calls that were made before it.  `Plan.outcome` and `Plan.made`
are the outcome of a plan on a store and the calls that it makes there, after some calls; on a
backend, which remembers nothing, they are `Plan.run` and `Plan.calls`.  If a store is made to fail
at one call, then a plan that comes as far makes the same calls up to this one, and ends with its
error (`Plan.made_failAt`, `Plan.outcome_failAt`).
-/

namespace RowFilter

/-- A data store that answers by what it was asked before. -/
abbrev Store (Field Predicate : Type) := List (Plan.Made Field Predicate) → Backend Field Predicate

namespace Store

variable {Field Predicate : Type}

/-- The store that remembers nothing. -/
def ofBackend (backend : Backend Field Predicate) : Store Field Predicate :=
  fun _ => backend

/-- The store whose call of some number fails; the first call has the number one. -/
def failAt (store : Store Field Predicate) (number : Nat) (error : FilterError) :
    Store Field Predicate :=
  fun before => if before.length + 1 = number then ⟨fun _ _ => .error error⟩ else store before

end Store

namespace Plan

variable {Field Predicate α β : Type}

/-- The outcome of a plan on a store, after some calls. -/
def outcome (store : Store Field Predicate) (before : List (Made Field Predicate)) :
    Plan Field Predicate α → Except FilterError α
  | .done result => .ok result
  | .fail error => .error error
  | .note _ rest => rest.outcome store before
  | .ask kind call next =>
    match (store before).answer kind call with
    | .ok answer => (next answer).outcome store (before ++ [⟨kind, call⟩])
    | .error error => .error error

/-- The calls that a plan makes on a store, after some calls. -/
def made (store : Store Field Predicate) (before : List (Made Field Predicate)) :
    Plan Field Predicate α → List (Made Field Predicate)
  | .done _ => []
  | .fail _ => []
  | .note _ rest => rest.made store before
  | .ask kind call next =>
    ⟨kind, call⟩ ::
      match (store before).answer kind call with
      | .ok answer => (next answer).made store (before ++ [⟨kind, call⟩])
      | .error _ => []

/-- Whether the plan fails although the store has answered all of its calls. -/
def GivesUp (store : Store Field Predicate) (before : List (Made Field Predicate)) :
    Plan Field Predicate α → Prop
  | .done _ => False
  | .fail _ => True
  | .note _ rest => rest.GivesUp store before
  | .ask kind call next =>
    match (store before).answer kind call with
    | .ok answer => (next answer).GivesUp store (before ++ [⟨kind, call⟩])
    | .error _ => False

/-! ### Backends as stores -/

/-- The outcome on a backend as a store is the outcome on the backend. -/
theorem outcome_ofBackend (backend : Backend Field Predicate) (plan : Plan Field Predicate α)
    (before : List (Made Field Predicate)) :
  plan.outcome (.ofBackend backend) before = plan.run backend
  := by
  induction plan generalizing before with
  | done result => rfl
  | fail error => rfl
  | note event rest ih => apply ih
  | ask kind call next ih =>
      rw [outcome, run, Store.ofBackend]
      cases backend.answer kind call with
      | ok answer => apply ih
      | error error => rfl

/-- The calls made on a backend as a store are the calls made on the backend. -/
theorem made_ofBackend (backend : Backend Field Predicate) (plan : Plan Field Predicate α)
    (before : List (Made Field Predicate)) :
  plan.made (.ofBackend backend) before = plan.calls backend
  := by
  induction plan generalizing before with
  | done result => rfl
  | fail error => rfl
  | note event rest ih => apply ih
  | ask kind call next ih =>
      rw [made, calls, Store.ofBackend]
      congr 1
      cases backend.answer kind call with
      | ok answer => apply ih
      | error error => rfl

/-! ### Plans in a row -/

variable {store : Store Field Predicate}

/-- A plan that goes on with the result of another one comes out as the two one after the other,
the second after the calls of the first. -/
theorem outcome_bind (plan : Plan Field Predicate α) (next : α → Plan Field Predicate β)
    (before : List (Made Field Predicate)) :
  (plan.bind next).outcome store before
    = plan.outcome store before >>= fun result =>
        (next result).outcome store (before ++ plan.made store before)
  := by
  induction plan generalizing before with
  | done result =>
      rw [made, List.append_nil]
      rfl
  | fail error => rfl
  | note event rest ih => apply ih
  | ask kind call rest ih =>
      rw [Plan.bind, outcome, outcome, made]
      cases (store before).answer kind call with
      | ok answer =>
          dsimp only
          rw [ih, List.append_assoc, List.singleton_append]
      | error error => rfl

/-- A plan that goes on with the result of another one makes the calls of the first, and then those
of the second if there is a result. -/
theorem made_bind_of_ok {plan : Plan Field Predicate α} (next : α → Plan Field Predicate β)
    {before : List (Made Field Predicate)} {result : α}
    (h : plan.outcome store before = .ok result) :
  (plan.bind next).made store before
    = plan.made store before ++ (next result).made store (before ++ plan.made store before)
  := by
  induction plan generalizing before with
  | done found =>
      cases h
      rw [made, List.nil_append, List.append_nil]
      rfl
  | fail error => cases h
  | note event rest ih => apply ih h
  | ask kind call rest ih =>
      rw [outcome] at h
      rw [Plan.bind, made, made]
      cases hanswer : (store before).answer kind call with
      | ok answer =>
          rw [hanswer] at h
          dsimp only at h ⊢
          rw [ih answer h, List.cons_append, List.append_assoc, List.singleton_append]
      | error error =>
          rw [hanswer] at h
          cases h

/-- A plan that goes on with the result of another one makes only the calls of that one if it
fails. -/
theorem made_bind_of_error {plan : Plan Field Predicate α} (next : α → Plan Field Predicate β)
    {before : List (Made Field Predicate)} {error : FilterError}
    (h : plan.outcome store before = .error error) :
  (plan.bind next).made store before = plan.made store before
  := by
  induction plan generalizing before with
  | done found => cases h
  | fail error => rfl
  | note event rest ih => apply ih h
  | ask kind call rest ih =>
      rw [outcome] at h
      rw [Plan.bind, made, made]
      cases hanswer : (store before).answer kind call with
      | ok answer =>
          rw [hanswer] at h
          dsimp only at h ⊢
          rw [ih answer h]
      | error error => rfl

/-! ### Giving up -/

/-- Of two plans in a row, the first gives up, or the second does with the result of the first. -/
theorem givesUp_bind_iff {plan : Plan Field Predicate α} {next : α → Plan Field Predicate β}
    {before : List (Made Field Predicate)} :
  (plan.bind next).GivesUp store before ↔ plan.GivesUp store before ∨
    ∃ result, plan.outcome store before = .ok result ∧
      (next result).GivesUp store (before ++ plan.made store before)
  := by
  induction plan generalizing before with
  | done result => simp [Plan.bind, GivesUp, outcome, made]
  | fail error => simp [Plan.bind, GivesUp]
  | note event rest ih => apply ih
  | ask kind call rest ih =>
      rw [Plan.bind, GivesUp, GivesUp, outcome, made]
      cases (store before).answer kind call with
      | ok answer =>
          dsimp only
          rw [ih, List.append_assoc, List.singleton_append]
      | error error => simp

/-! ### A call that fails -/

variable {plan : Plan Field Predicate α} {before : List (Made Field Predicate)} {number : Nat}

theorem length_append_made (before : List (Made Field Predicate)) (kind : CallKind)
    (call : Call Field Predicate kind) :
  (before ++ [(⟨kind, call⟩ : Made Field Predicate)]).length = before.length + 1
  := by
  rw [List.length_append, List.length_singleton]

/-- A plan ends with the error of a call that is made to fail. -/
theorem outcome_failAt (error : FilterError) (hbefore : before.length < number)
    (hnumber : number ≤ before.length + (plan.made store before).length) :
  plan.outcome (store.failAt number error) before = .error error
  := by
  induction plan generalizing before with
  | done result => simp only [made, List.length_nil] at hnumber; omega
  | fail other => simp only [made, List.length_nil] at hnumber; omega
  | note event rest ih => apply ih hbefore hnumber
  | ask kind call next ih =>
      rw [outcome, Store.failAt]
      by_cases hhere : before.length + 1 = number
      · rw [if_pos hhere]
      · rw [if_neg hhere]
        rw [made, List.length_cons] at hnumber
        cases hanswer : (store before).answer kind call with
        | ok answer =>
            rw [hanswer] at hnumber
            dsimp only at hnumber
            have hlength := length_append_made before kind call
            apply ih answer
            · omega
            · omega
        | error other =>
            rw [hanswer, List.length_nil] at hnumber
            omega

/-- A plan makes the calls up to the one that is made to fail, and no other. -/
theorem made_failAt (error : FilterError) (hbefore : before.length < number)
    (hnumber : number ≤ before.length + (plan.made store before).length) :
  plan.made (store.failAt number error) before
    = (plan.made store before).take (number - before.length)
  := by
  induction plan generalizing before with
  | done result => simp [made]
  | fail other => simp [made]
  | note event rest ih => apply ih hbefore hnumber
  | ask kind call next ih =>
      have hlength := length_append_made before kind call
      have hsize : number - before.length = (number - (before.length + 1)) + 1 := by omega
      rw [made, List.length_cons] at hnumber
      rw [made, made, hsize, List.take_succ_cons, Store.failAt]
      congr 1
      by_cases hhere : before.length + 1 = number
      · rw [if_pos hhere, hhere, Nat.sub_self, List.take_zero]
      · rw [if_neg hhere]
        cases hanswer : (store before).answer kind call with
        | ok answer =>
            rw [hanswer] at hnumber
            dsimp only at hnumber ⊢
            rw [ih answer (by omega) (by omega), hlength]
        | error other =>
            rw [hanswer, List.length_nil] at hnumber
            omega

end Plan

end RowFilter
