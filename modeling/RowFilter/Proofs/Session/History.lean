import RowFilter.Batch.Selection
import RowFilter.Session

/-!
# Histories of a session

A history is a list of events in a session, the latest first: changes, compilations and
applications of filters.  Where a filter comes from is its `Origin`, and `History.origin?` finds
that of the filter under a name.  The session after a history holds just the filters of these
origins, each pinned as it was on the way to the leftmost filter that it is made of, and the default
that was set last (`History.tracks_session`).  So a compilation or an application depends on the
default of its own moment, and on no earlier one (`History.compile_configured`).
-/

namespace RowFilter

/-! ### Events -/

/-- What is done in a session. -/
inductive Event where
  | change (step : Step)
  | compile (slot : String)
  | apply (slot : String) (batch : Batch)

/-- A list of events, the latest first. -/
abbrev History := List Event

/-- The slot that a step fills if it succeeds. -/
def Step.target? : Step → Option String
  | .setDefault _ => none
  | .read slot _ | .build slot _ | .compare slot _ _ _ | .join _ slot _ _ | .not slot _
  | .pin slot _ _ => some slot

namespace Event

/-- The slot that an event fills if it succeeds. -/
def target? : Event → Option String
  | change step => step.target?
  | _ => none

/-- Whether the event sets the default. -/
def setsDefault : Event → Bool
  | change (.setDefault _) => true
  | _ => false

/-- Whether the event pins the default, whatever it is. -/
def pinsDefault : Event → Bool
  | change (.pin _ _ none) => true
  | _ => false

end Event

namespace Session

/-- The session after an event.  A step that fails leaves it as it was. -/
def advance (session : Session) : Event → Session
  | .change step =>
    match session.perform step with
    | .ok next => next
    | .error _ => session
  | _ => session

/-- The plan of the filter of a name. -/
def compiled {Field Predicate : Type} (session : Session) (slot : String)
    (typeOf : Field → DataType) : Except StepFault (Plan Field Predicate (Option Predicate)) :=
  (session.find slot).map fun filter => filter.compile typeOf session.defaultConfig

/-- What applying the filter of a name to a batch gives, with the notes that are taken. -/
def applied (session : Session) (slot : String) (batch : Batch) :
    Except StepFault (Except FilterError Batch × List Note) :=
  (session.find slot).map fun filter =>
    (filter.apply session.defaultConfig batch, filter.applyNotes session.defaultConfig batch)

end Session

/-! ### Origins -/

/-- Where a filter comes from. -/
inductive Origin where
  | made (expr : FilterExpr)
  | joined (op : Connective) (left right : Origin)
  | opposite (origin : Origin)
  | pinned (origin : Origin) (config : FilterConfig)

namespace Origin

/-- The expression of a filter. -/
def expr : Origin → FilterExpr
  | made expr => expr
  | joined op left right => left.expr.join op right.expr
  | opposite origin => origin.expr.not
  | pinned origin _ => origin.expr

/-- The configuration that was pinned last on the way to the leftmost filter that it is made of. -/
def pin? : Origin → Option FilterConfig
  | made _ => none
  | joined _ left _ => left.pin?
  | opposite origin => origin.pin?
  | pinned _ config => some config

/-- The filter of an origin. -/
def filter (origin : Origin) : Filter :=
  ⟨origin.expr, Converter.standard DateFormats.default, origin.pin?⟩

end Origin

namespace History

/-- The default after a history: the one that was set last. -/
def default : History → FilterConfig
  | [] => ⟨true⟩
  | .change (.setDefault caseSensitive) :: _ => ⟨caseSensitive⟩
  | _ :: earlier => default earlier

/-- The origin of what a step makes, given those of the filters before and the default. -/
def made? (found : String → Option Origin) (default : FilterConfig) : Step → Option Origin
  | .setDefault _ => none
  | .read _ text => (FilterExpr.read text).toOption.map .made
  | .build _ expr => some (.made expr)
  | .compare _ path op operand => (FilterExpr.ofParts path op operand).toOption.map .made
  | .join op _ left right => do return .joined op (← found left) (← found right)
  | .not _ source => (found source).map .opposite
  | .pin _ source config => (found source).map (.pinned · (config.getD default))

/-- The origin of the filter that a name has after a history. -/
def origin? : History → String → Option Origin
  | [], _ => none
  | .change step :: earlier, slot =>
    if step.target? = some slot then
      (made? (origin? earlier) (default earlier) step).or (origin? earlier slot)
    else origin? earlier slot
  | _ :: earlier, slot => origin? earlier slot

/-- The session after a history. -/
def session : History → Session
  | [] => .start
  | event :: earlier => (session earlier).advance event

/-! ### What a session holds -/

/-- Whether a session has the default of a history and the filters of its origins. -/
structure Tracks (history : History) (session : Session) : Prop where
  default_eq : session.defaultConfig = history.default
  find_eq (slot : String) :
    session.find slot
      = (history.origin? slot).elim (.error (.noFilter slot)) fun origin => .ok origin.filter

end History

namespace Session

variable {session : Session}

theorem find_put (name slot : String) (filter : Filter) :
  (session.put name filter).find slot = if name = slot then .ok filter else session.find slot
  := by
  by_cases h : name = slot
  · subst h
    rw [if_pos rfl, find, put, List.lookup_cons_self]
  · rw [if_neg h, find, put, List.lookup_cons, beq_eq_false_iff_ne.mpr (Ne.symm h)]
    rfl

end Session

namespace History

variable {history : History} {session : Session}

/-- A name has an origin or there is no filter of that name. -/
theorem Tracks.find_cases (h : Tracks history session) (name : String) :
  (∃ origin, history.origin? name = some origin ∧ session.find name = .ok origin.filter) ∨
  history.origin? name = none ∧ session.find name = .error (.noFilter name)
  := by
  have hfind := h.find_eq name
  cases horigin : history.origin? name with
  | none =>
      rw [horigin] at hfind
      exact .inr ⟨rfl, hfind⟩
  | some origin =>
      rw [horigin] at hfind
      exact .inl ⟨origin, rfl, hfind⟩

/-- The ways in which a step goes. -/
inductive Goes (history : History) (session : Session) (step : Step) : Prop where
  | setDefault (caseSensitive : Bool) (h : step = .setDefault caseSensitive)
  | fills (slot : String) (origin : Origin) (htarget : step.target? = some slot)
      (hmade : made? history.origin? history.default step = some origin)
      (hperform : session.perform step = .ok (session.put slot origin.filter))
  | fails (fault : StepFault) (hmade : made? history.origin? history.default step = none)
      (hperform : session.perform step = .error fault)

/-- A step that makes a filter of an expression goes as the reading of the expression does. -/
theorem goes_of_outcome {step : Step} {slot : String} {outcome : Except FilterError FilterExpr}
    (htarget : step.target? = some slot)
    (hmade : made? history.origin? history.default step = outcome.toOption.map .made)
    (hperform : session.perform step
      = (Session.orRefused outcome).map fun expr => session.put slot (.ofExpr expr)) :
  Goes history session step
  := by
  cases outcome with
  | ok expr => exact .fills slot (.made expr) htarget hmade hperform
  | error error => exact .fails (.refused error) hmade hperform

/-- A step goes in one of these ways. -/
theorem Tracks.goes (h : Tracks history session) (step : Step) :
  Goes history session step
  := by
  cases step with
  | setDefault caseSensitive => exact .setDefault caseSensitive rfl
  | read slot text =>
      apply goes_of_outcome rfl rfl
      rw [Session.perform, Filter.read]
      cases FilterExpr.read text <;> rfl
  | build slot expr => exact .fills slot (.made expr) rfl rfl rfl
  | compare slot path op operand => exact goes_of_outcome rfl rfl rfl
  | join op slot left right =>
      obtain ⟨first, hfirst, hleft⟩ | ⟨hfirst, hleft⟩ := h.find_cases left
      · obtain ⟨second, hsecond, hright⟩ | ⟨hsecond, hright⟩ := h.find_cases right
        · apply Goes.fills slot (.joined op first second) rfl
          · rw [made?, hfirst, hsecond]
            rfl
          · rw [Session.perform, hleft, hright]
            rfl
        · apply Goes.fails (.noFilter right)
          · rw [made?, hfirst, hsecond]
            rfl
          · rw [Session.perform, hleft, hright]
            rfl
      · apply Goes.fails (.noFilter left)
        · rw [made?, hfirst]
          rfl
        · rw [Session.perform, hleft]
          rfl
  | not slot source =>
      obtain ⟨origin, horigin, hsource⟩ | ⟨horigin, hsource⟩ := h.find_cases source
      · apply Goes.fills slot (.opposite origin) rfl
        · rw [made?, horigin]
          rfl
        · rw [Session.perform, hsource]
          rfl
      · apply Goes.fails (.noFilter source)
        · rw [made?, horigin]
          rfl
        · rw [Session.perform, hsource]
          rfl
  | pin slot source config =>
      obtain ⟨origin, horigin, hsource⟩ | ⟨horigin, hsource⟩ := h.find_cases source
      · apply Goes.fills slot (.pinned origin (config.getD history.default)) rfl
        · rw [made?, horigin]
          rfl
        · rw [Session.perform, hsource, h.default_eq]
          rfl
      · apply Goes.fails (.noFilter source)
        · rw [made?, horigin]
          rfl
        · rw [Session.perform, hsource]
          rfl

/-- Only setting it changes the default. -/
theorem default_change {step : Step} (h : ∀ caseSensitive, step ≠ .setDefault caseSensitive)
    (history : History) :
  default (.change step :: history) = history.default
  := by
  cases step with
  | setDefault caseSensitive => exact absurd rfl (h caseSensitive)
  | _ => rfl

/-- An event takes the session that a history describes to the one that the longer history does. -/
theorem Tracks.advance (h : Tracks history session) (event : Event) :
  Tracks (event :: history) (session.advance event)
  := by
  cases event with
  | compile slot => exact ⟨h.default_eq, h.find_eq⟩
  | apply slot batch => exact ⟨h.default_eq, h.find_eq⟩
  | change step =>
      obtain ⟨caseSensitive, rfl⟩ | ⟨slot, origin, htarget, hmade, hperform⟩ |
        ⟨fault, hmade, hperform⟩ := h.goes step
      · constructor
        · rfl
        · apply h.find_eq
      · have hset : ∀ caseSensitive, step ≠ .setDefault caseSensitive := by
          rintro caseSensitive rfl
          cases htarget
        rw [Session.advance, hperform]
        constructor
        · rw [default_change hset]
          apply h.default_eq
        · intro name
          rw [Session.find_put, origin?, htarget, hmade, Option.some_or]
          by_cases hname : slot = name
          · rw [if_pos hname, if_pos (congrArg some hname)]
            rfl
          · rw [if_neg hname, if_neg (hname ∘ Option.some.inj), h.find_eq]
      · have hset : ∀ caseSensitive, step ≠ .setDefault caseSensitive := by
          rintro caseSensitive rfl
          cases hperform
        rw [Session.advance, hperform]
        constructor
        · rw [default_change hset]
          apply h.default_eq
        · intro name
          rw [origin?, hmade, Option.none_or, ite_self, h.find_eq]

/-- The session after a history has its default and the filters of its origins. -/
theorem tracks_session (history : History) :
  Tracks history history.session
  := by
  induction history with
  | nil => exact ⟨rfl, fun slot => rfl⟩
  | cons event earlier ih => apply ih.advance

/-! ### What does not matter -/

/-- The origin of a filter does not change when another slot is filled. -/
theorem origin?_cons {event : Event} {slot : String} (h : event.target? ≠ some slot)
    (history : History) :
  origin? (event :: history) slot = history.origin? slot
  := by
  cases event with
  | change step => exact if_neg h
  | compile name => rfl
  | apply name batch => rfl

/-- What a step makes does not depend on the default, unless it pins it. -/
theorem made?_eq {step : Step} (h : (Event.change step).pinsDefault = false)
    (found : String → Option Origin) (default other : FilterConfig) :
  made? found default step = made? found other step
  := by
  cases step with
  | pin slot source config =>
      cases config with
      | some config => rfl
      | none => cases h
  | _ => rfl

/-- Origins do not depend on when the default is set, unless it is pinned. -/
theorem origin?_filter {history : History} (h : ∀ event ∈ history, event.pinsDefault = false) :
  origin? history = origin? (history.filter fun event => !event.setsDefault)
  := by
  induction history with
  | nil => rfl
  | cons event earlier ih =>
      rw [List.forall_mem_cons] at h
      have hearlier := ih h.2
      cases hsets : event.setsDefault with
      | true =>
          have htarget (slot : String) : event.target? ≠ some slot := by
            cases event with
            | change step =>
                cases step <;> cases hsets
                rintro ⟨⟩
            | compile name => cases hsets
            | apply name batch => cases hsets
          rw [List.filter_cons_of_neg (by rw [hsets]; rintro ⟨⟩), ← hearlier]
          funext slot
          apply origin?_cons (htarget slot)
      | false =>
          rw [List.filter_cons_of_pos (by rw [hsets]; rfl)]
          funext slot
          cases event with
          | compile name => exact congrFun hearlier slot
          | apply name batch => exact congrFun hearlier slot
          | change step => rw [origin?, origin?, hearlier, made?_eq h.1]

/-- A filter is compiled and applied in the configuration that was pinned last on the way to the
leftmost filter that it is made of, and otherwise in the default that was set last before that, or
with letter case where none was.  No event changes the filter in a slot that it does not fill, and
the defaults at other times do not matter, unless one of them is itself pinned. -/
theorem compile_configured :
  (∀ (history : History) (slot : String),
    match history.origin? slot with
    | none => history.session.find slot = .error (.noFilter slot)
    | some origin =>
      let filter := Filter.ofExpr origin.expr
      let config := origin.pin?.getD history.default
      (∀ (Field Predicate : Type) (typeOf : Field → DataType),
        history.session.compiled slot typeOf
          = .ok (filter.compileWith typeOf config : Plan Field Predicate (Option Predicate))) ∧
      ∀ batch : Batch, history.session.applied slot batch
        = .ok (filter.apply config batch, filter.applyNotes config batch)) ∧
  (∀ (history : History) (event : Event) (slot : String), event.target? ≠ some slot →
    (History.session (event :: history)).find slot = history.session.find slot) ∧
  ∀ history other : History,
    (history.filter fun event => !event.setsDefault)
      = (other.filter fun event => !event.setsDefault) →
    (∀ event ∈ history, event.pinsDefault = false) →
    (∀ event ∈ other, event.pinsDefault = false) →
    ∀ slot, history.session.find slot = other.session.find slot ∧
      (history.default = other.default →
        (∀ (Field Predicate : Type) (typeOf : Field → DataType),
          (history.session.compiled slot typeOf :
              Except StepFault (Plan Field Predicate (Option Predicate)))
            = other.session.compiled slot typeOf) ∧
        ∀ batch : Batch, history.session.applied slot batch = other.session.applied slot batch)
  := by
  refine ⟨?configured, ?frame, ?defaults⟩
  case configured =>
    intro history slot
    have htracks := tracks_session history
    obtain ⟨origin, horigin, hfind⟩ | ⟨horigin, hfind⟩ := htracks.find_cases slot
    · rw [horigin]
      constructor
      · intro Field Predicate typeOf
        rw [Session.compiled, hfind, htracks.default_eq]
        rfl
      · intro batch
        rw [Session.applied, hfind, htracks.default_eq]
        rfl
    · rw [horigin]
      apply hfind
  case frame =>
    intro history event slot h
    rw [(tracks_session _).find_eq, (tracks_session _).find_eq, origin?_cons h]
  case defaults =>
    intro history other hsame hhistory hother slot
    have htracks := tracks_session history
    have hothers := tracks_session other
    have hfind : history.session.find slot = other.session.find slot := by
      rw [htracks.find_eq, hothers.find_eq, origin?_filter hhistory, origin?_filter hother, hsame]
    refine ⟨hfind, ?_⟩
    intro hdefault
    constructor
    · intro Field Predicate typeOf
      rw [Session.compiled, Session.compiled, hfind, htracks.default_eq, hothers.default_eq,
        hdefault]
    · intro batch
      rw [Session.applied, Session.applied, hfind, htracks.default_eq, hothers.default_eq, hdefault]

/-- A filter is made, pinned and joined with itself, before the default is set in one history and
after it in the other. -/
theorem compile_configured_pinned :
  let expr : FilterExpr := .comparison "s" (.relation .eq) (.scalar (.text "x"))
  let steps : History :=
    [.change (.join .or "d" "a" "b"), .change (.join .and "c" "b" "a"),
     .change (.pin "b" "a" (some ⟨true⟩)), .change (.build "a" expr)]
  let early : History := steps ++ [.change (.setDefault false)]
  let late : History := .change (.setDefault false) :: steps
  let compiled (history : History) (slot : String) :
      Except StepFault (Plan ColumnField Mask (Option Mask)) :=
    history.session.compiled slot ColumnField.type
  let plan (op : Connective) (caseSensitive : Bool) : Plan ColumnField Mask (Option Mask) :=
    (Filter.ofExpr (expr.join op expr)).compileWith ColumnField.type ⟨caseSensitive⟩
  late.session.find "a" = .ok (.ofExpr expr) ∧
  compiled early "c" = .ok (plan .and true) ∧ compiled early "d" = .ok (plan .or false) ∧
  compiled early "d" = compiled late "d"
  := by
  intro expr steps early late compiled plan
  have hsame : (early.filter fun event => !event.setsDefault)
      = (late.filter fun event => !event.setsDefault) := rfl
  have hearly : ∀ event ∈ early, event.pinsDefault = false := by decide
  have hlate : ∀ event ∈ late, event.pinsDefault = false := by decide
  have hdefault : early.default = late.default := rfl
  obtain ⟨hconfigured, hframe, hdefaults⟩ := compile_configured
  obtain ⟨hpinned, _⟩ := hconfigured early "c"
  obtain ⟨hunpinned, _⟩ := hconfigured early "d"
  refine ⟨?_, ?_, ?_, ?_⟩
  · apply hframe steps (.change (.setDefault false)) "a"
    rintro ⟨⟩
  · apply hpinned ColumnField Mask ColumnField.type
  · apply hunpinned ColumnField Mask ColumnField.type
  · obtain ⟨_, hlater⟩ := hdefaults early late hsame hearly hlate "d"
    apply (hlater hdefault).1

end History

end RowFilter
