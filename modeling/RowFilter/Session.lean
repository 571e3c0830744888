import RowFilter.Filter.Filter

/-!
# Sessions

A `Session` holds the default configuration and filters by name.  A `Step` sets the default or
fills a slot with a filter that is read, built, composed of others or pinned; `Session.perform`
carries one out.  A step that fails leaves the session as it was.
-/

namespace RowFilter

/-- The default configuration and the filters that have names. -/
structure Session where
  defaultConfig : FilterConfig
  filters : List (String × Filter)

/-- A change of a session. -/
inductive Step where
  /-- Sets whether letter case counts by default. -/
  | setDefault (caseSensitive : Bool)
  /-- Reads a filter. -/
  | read (slot : String) (text : Option String)
  /-- Takes an expression as a filter. -/
  | build (slot : String) (expr : FilterExpr)
  /-- Makes a filter of a comparison. -/
  | compare (slot path : String) (op : Operator) (operand : Operand)
  /-- Joins two filters. -/
  | join (op : Connective) (slot left right : String)
  /-- Takes the opposite of a filter. -/
  | not (slot source : String)
  /-- Pins a configuration to a filter, the present default if none is given. -/
  | pin (slot source : String) (config : Option FilterConfig)

/-- Why a step fails. -/
inductive StepFault where
  /-- No filter has the name. -/
  | noFilter (name : String)
  /-- The filter is refused. -/
  | refused (error : FilterError)

namespace Session

/-- A session without filters, in which letter case counts. -/
def start : Session :=
  ⟨⟨true⟩, []⟩

/-- The filter of a name. -/
def find (session : Session) (name : String) : Except StepFault Filter :=
  match session.filters.lookup name with
  | some filter => .ok filter
  | none => .error (.noFilter name)

/-- The session with a filter under a name. -/
def put (session : Session) (name : String) (filter : Filter) : Session :=
  { session with filters := (name, filter) :: session.filters }

/-- An outcome of reading as one of a step. -/
def orRefused {α : Type} : Except FilterError α → Except StepFault α
  | .ok value => .ok value
  | .error error => .error (.refused error)

/-- Carries out a step. -/
def perform (session : Session) : Step → Except StepFault Session
  | .setDefault caseSensitive => .ok { session with defaultConfig := ⟨caseSensitive⟩ }
  | .read slot text => (orRefused (Filter.read text)).map (session.put slot)
  | .build slot expr => .ok (session.put slot (.ofExpr expr))
  | .compare slot path op operand =>
    (orRefused (FilterExpr.ofParts path op operand)).map fun expr =>
      session.put slot (.ofExpr expr)
  | .join op slot left right => do
    let first ← session.find left
    let second ← session.find right
    return session.put slot (first.join op second)
  | .not slot source => do
    let filter ← session.find source
    return session.put slot filter.not
  | .pin slot source config => do
    let filter ← session.find source
    return session.put slot (filter.withConfig (config.getD session.defaultConfig))

end Session

end RowFilter
