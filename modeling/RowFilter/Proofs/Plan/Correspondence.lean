import RowFilter.Proofs.Plan.Run

/-!
# Plans on corresponding stores

A `Correspondence` says which fields and which conditions of two data stores stand for each other.
Plans correspond when they ask for the same of what stands for each other, and go on in the same
way after answers that do (`Correspondence.Plans`).  If the answers of the first store are followed
by those of the second (`Correspondence.Backends`), then the outcome of a plan is followed by that
of a corresponding one (`Correspondence.Plans.run`).
-/

namespace Except

variable {ε α β γ δ : Type}

/-- Whether a computation is followed by another one: its result by a related one, and its error by
the same one if it is a lasting error. -/
def Follows (lasting : ε → Prop) (related : α → β → Prop) : Except ε α → Except ε β → Prop
  | .ok value, second => ∃ other, second = .ok other ∧ related value other
  | .error fault, second => lasting fault → second = .error fault

variable {lasting : ε → Prop} {related : α → β → Prop} {first : Except ε α} {second : Except ε β}

/-- Two computations in a row are followed by two others in a row. -/
theorem Follows.bind {results : γ → δ → Prop} {next : α → Except ε γ} {after : β → Except ε δ}
    (h : first.Follows lasting related second)
    (hnext : ∀ value other, related value other →
      (next value).Follows lasting results (after other)) :
  (first >>= next).Follows lasting results (second >>= after)
  := by
  cases first with
  | ok value =>
      obtain ⟨other, rfl, hrelated⟩ := h
      apply hnext value other hrelated
  | error fault =>
      intro hlasting
      rw [h hlasting]
      rfl

/-- A computation followed by a function is followed by another one with another function. -/
theorem Follows.map {results : γ → δ → Prop} {f : α → γ} {g : β → δ}
    (h : first.Follows lasting related second)
    (hresults : ∀ value other, related value other → results (f value) (g other)) :
  (first.map f).Follows lasting results (second.map g)
  := by
  cases first with
  | ok value =>
      obtain ⟨other, rfl, hrelated⟩ := h
      exact ⟨g other, rfl, hresults value other hrelated⟩
  | error fault =>
      intro hlasting
      rw [h hlasting]
      rfl

end Except

namespace RowFilter

/-- Which fields of two data stores, and which conditions, stand for each other. -/
structure Correspondence (Field Predicate Other Condition : Type) where
  fields : Field → Other → Prop
  predicates : Predicate → Condition → Prop

namespace Correspondence

variable {Field Predicate Other Condition α β γ δ : Type}
  (alike : Correspondence Field Predicate Other Condition)

/-- Whether two calls ask for the same of fields and conditions that stand for each other. -/
inductive Calls :
    (kind : CallKind) → Call Field Predicate kind → Call Other Condition kind → Prop where
  | root (name : String) : Calls .lookup (.root name) (.root name)
  | nested {parent : Field} {other : Other} (h : alike.fields parent other) (name : String) :
    Calls .lookup (.nested parent name) (.nested other name)
  | lower {field : Field} {other : Other} (h : alike.fields field other) :
    Calls .field (.lower field) (.lower other)
  | compare (relation : Relation) {field : Field} {other : Other} (h : alike.fields field other)
      (literal : Literal) :
    Calls .predicate (.compare relation field literal) (.compare relation other literal)
  | isNull {field : Field} {other : Other} (h : alike.fields field other) :
    Calls .predicate (.isNull field) (.isNull other)
  | notNull {field : Field} {other : Other} (h : alike.fields field other) :
    Calls .predicate (.notNull field) (.notNull other)
  | like {field : Field} {other : Other} (h : alike.fields field other) (pattern : String) :
    Calls .predicate (.like field pattern) (.like other pattern)
  | notLike {field : Field} {other : Other} (h : alike.fields field other) (pattern : String) :
    Calls .predicate (.notLike field pattern) (.notLike other pattern)
  | isIn {field : Field} {other : Other} (h : alike.fields field other)
      (literals : List Literal) :
    Calls .predicate (.isIn field literals) (.isIn other literals)
  | not {predicate : Predicate} {condition : Condition}
      (h : alike.predicates predicate condition) :
    Calls .predicate (.not predicate) (.not condition)
  | join (op : Connective) {left right : Predicate} {first second : Condition}
      (hleft : alike.predicates left first) (hright : alike.predicates right second) :
    Calls .predicate (.join op left right) (.join op first second)

/-- Whether two answers stand for each other. -/
def Answers : (kind : CallKind) → Answer Field Predicate kind → Answer Other Condition kind → Prop
  | .lookup => Option.Rel alike.fields
  | .field => alike.fields
  | .predicate => alike.predicates

/-- Whether two plans make the same calls as long as the answers stand for each other, and end with
related results or with the same error. -/
inductive Plans (results : α → β → Prop) :
    Plan Field Predicate α → Plan Other Condition β → Prop where
  | done {result : α} {other : β} (h : results result other) :
    Plans results (.done result) (.done other)
  | fail (error : FilterError) : Plans results (.fail error) (.fail error)
  | note (event : Note) {rest : Plan Field Predicate α} {other : Plan Other Condition β}
      (h : Plans results rest other) :
    Plans results (.note event rest) (.note event other)
  | ask {kind : CallKind} {call : Call Field Predicate kind} {other : Call Other Condition kind}
      {next : Answer Field Predicate kind → Plan Field Predicate α}
      {after : Answer Other Condition kind → Plan Other Condition β}
      (hcall : alike.Calls kind call other)
      (hnext : ∀ answer reply, alike.Answers kind answer reply →
        Plans results (next answer) (after reply)) :
    Plans results (.ask kind call next) (.ask kind other after)

/-- Whether the answers of a backend are followed by those of another one. -/
def Backends (lasting : FilterError → Prop) (first : Backend Field Predicate)
    (second : Backend Other Condition) : Prop :=
  ∀ kind call other, alike.Calls kind call other →
    (first.answer kind call).Follows lasting (alike.Answers kind) (second.answer kind other)

variable {alike} {results : α → β → Prop}

/-- Corresponding plans in a row correspond. -/
theorem Plans.bind {last : γ → δ → Prop} {plan : Plan Field Predicate α}
    {other : Plan Other Condition β} {next : α → Plan Field Predicate γ}
    {after : β → Plan Other Condition δ} (h : alike.Plans results plan other)
    (hnext : ∀ result found, results result found →
      alike.Plans last (next result) (after found)) :
  alike.Plans last (plan.bind next) (other.bind after)
  := by
  induction h with
  | done h => apply hnext _ _ h
  | fail error => apply Plans.fail
  | note event h ih => apply Plans.note event ih
  | ask hcall hrest ih => apply Plans.ask hcall ih

/-- The plans that end as one computation did correspond. -/
theorem plans_ofExcept (outcome : Except FilterError α) :
  alike.Plans Eq (.ofExcept outcome) (.ofExcept outcome)
  := by
  cases outcome with
  | ok result => apply Plans.done rfl
  | error error => apply Plans.fail

/-- The plans that ask for corresponding conditions correspond. -/
theorem plans_predicate {request : Call Field Predicate .predicate}
    {other : Call Other Condition .predicate} (h : alike.Calls .predicate request other) :
  alike.Plans alike.predicates (.predicate request) (.predicate other)
  := by
  apply Plans.ask h
  intro answer reply hanswer
  apply Plans.done hanswer

/-- The outcome of a plan is followed by that of a corresponding one, if the answers are. -/
theorem Plans.run {lasting : FilterError → Prop} {first : Backend Field Predicate}
    {second : Backend Other Condition} (hbackends : alike.Backends lasting first second)
    {plan : Plan Field Predicate α} {other : Plan Other Condition β}
    (h : alike.Plans results plan other) :
  (plan.run first).Follows lasting results (other.run second)
  := by
  induction h with
  | done h => exact ⟨_, rfl, h⟩
  | fail error =>
      intro _
      rfl
  | note event h ih => apply ih
  | ask hcall hnext ih =>
      rw [Plan.run_ask, Plan.run_ask]
      apply (hbackends _ _ _ hcall).bind ih

end Correspondence

end RowFilter
