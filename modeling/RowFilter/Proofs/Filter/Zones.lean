import RowFilter.Proofs.Calendar.Reach
import RowFilter.Proofs.Filter.Integers
import RowFilter.Proofs.Filter.Timestamps

/-!
# Instants and zones

Timestamps are ticks since the epoch, whatever zone they are shown in.  An instant that is compared
with them is put in the type of the field, zone and all: its tick is taken for a local one of the
zone, and so moved by the offset (`TimeUnit.tickOf?`).  `Batch.verdict_zone` compares the answers of
the same timestamps with two zones: they differ for those between the ticks that the zones show
(`Relation.Separates`), and a zone without an offset has no answer.
-/

namespace RowFilter

/-- Whether a tick stands in a relation to only one of two others. -/
def Relation.Separates (relation : Relation) (a b t : Int) : Prop :=
  match relation with
  | .eq | .ne => a ≠ b ∧ (t = a ∨ t = b)
  | .ge | .lt => min a b ≤ t ∧ t < max a b
  | .gt | .le => min a b < t ∧ t ≤ max a b

theorem Relation.holds_compare_eq_iff (relation : Relation) (a b t : Int) :
  relation.holds (compare t a) = relation.holds (compare t b) ↔ ¬ relation.Separates a b t
  := by
  rw [Bool.eq_iff_iff]
  have ha : relation.holds (compare t a) = true ↔ relation.Relates t a :=
    relation.holds_compare_iff t a
  have hb : relation.holds (compare t b) = true ↔ relation.Relates t b :=
    relation.holds_compare_iff t b
  rw [ha, hb]
  cases relation <;> simp only [Relates, Separates] <;> omega

namespace TimeUnit

/-- The ticks of a second. -/
def perSecond (unit : TimeUnit) : Int :=
  secondNanos / unit.nanos

/-- Whether a tick can be moved by an offset: but for ticks of a second, the whole second that it
falls into and the tick itself have to fit sixty-four bits after that. -/
def reaches (unit : TimeUnit) (offset tick : Int) : Bool :=
  unit == .second ||
    fitsSigned 64 ((tick / unit.perSecond - offset) * unit.perSecond) &&
      fitsSigned 64 (tick - offset * unit.perSecond)

/-- The tick that universal time shows as a zone shows some tick.  A zone has to be one with an
offset. -/
def localTick? (unit : TimeUnit) (zone : Option String) (tick : Int) : Option Int :=
  match zone with
  | none => some tick
  | some name =>
    (Zone.offset? name).bind fun offset =>
      if unit.reaches offset tick then some (tick - offset * unit.perSecond) else none

/-- The tick with which an instant is compared in a zone: the one that it falls into is taken for a
local tick of the zone. -/
def tickOf? (unit : TimeUnit) (zone : Option String) (n : Int) : Option Int :=
  (fitInstant? n).bind fun n => unit.localTick? zone (n.tdiv unit.nanos)

/-- The whole seconds and the ticks after them of some ticks. -/
theorem seconds_of_ticks (unit : TimeUnit) (tick : Int) :
  tick * unit.nanos / secondNanos = tick / unit.perSecond ∧
    tick * unit.nanos % secondNanos / unit.nanos = tick % unit.perSecond
  := by
  have hseconds : secondNanos = 1000000000 := rfl
  cases unit <;> simp only [perSecond, nanos, hseconds] <;> omega

/-- The tick that an instant falls into has a moment in the calendar. -/
theorem exists_momentOf?_tick (unit : TimeUnit) {n : Int} (h : fitsSigned 64 n = true) :
  ∃ moment, momentOf? (n.tdiv unit.nanos * unit.nanos) = some moment
  := by
  obtain ⟨hsum, -, -, hnonneg, hnonpos⟩ := tmod_bounds n unit.nanos_pos
  apply exists_momentOf?
  rw [fitsSigned_iff] at h ⊢
  rw [Int.mul_comm] at hsum
  rcases Int.le_total 0 n with hn | hn
  · have hrest := hnonneg hn
    have hless : 0 ≤ n.tdiv unit.nanos * unit.nanos :=
      Int.mul_nonneg (Int.tdiv_nonneg hn unit.nanos_pos.le) unit.nanos_pos.le
    omega
  · have hrest := hnonpos hn
    have hless : 0 ≤ (-n).tdiv unit.nanos * unit.nanos :=
      Int.mul_nonneg (Int.tdiv_nonneg (by omega) unit.nanos_pos.le) unit.nanos_pos.le
    rw [Int.neg_tdiv, Int.neg_mul] at hless
    omega

/-- A moment is moved by an offset as its tick is. -/
theorem ticks_eq (unit : TimeUnit) (offset tick : Int) :
  Casting.ticks unit (tick * unit.nanos / secondNanos - offset) (tick * unit.nanos % secondNanos)
    = if unit.reaches offset tick then .ok (some (.int (tick - offset * unit.perSecond)))
      else .error .cast
  := by
  obtain ⟨hseconds, hrest⟩ := unit.seconds_of_ticks tick
  have hmoved : (tick / unit.perSecond - offset) * unit.perSecond + tick % unit.perSecond
      = tick - offset * unit.perSecond := by
    have hsum := Int.ediv_mul_add_emod tick unit.perSecond
    rw [Int.sub_mul]
    omega
  rw [hseconds]
  by_cases hsecond : unit = .second
  · subst hsecond
    have hper : TimeUnit.perSecond .second = 1 := rfl
    rw [hper, Int.mul_one, Int.ediv_one]
    rfl
  · have hreaches : unit.reaches offset tick
        = (fitsSigned 64 ((tick / unit.perSecond - offset) * unit.perSecond) &&
          fitsSigned 64 (tick - offset * unit.perSecond)) := by
      rw [reaches, beq_false_of_ne hsecond, Bool.false_or]
    rw [Casting.ticks.eq_def, hreaches]
    split
    · next hunit => cases hsecond rfl
    · dsimp only
      rw [hrest, ← perSecond, hmoved, Casting.count]
      cases fitsSigned 64 ((tick / unit.perSecond - offset) * unit.perSecond) <;>
        cases fitsSigned 64 (tick - offset * unit.perSecond) <;> rfl

/-- The tick of an instant is put in a zone as a local tick. -/
theorem exists_localTicks_eq (unit : TimeUnit) (zone : Option String) {n : Int}
    (h : fitsSigned 64 n = true) :
  ∃ fault, Casting.localTicks unit zone (n.tdiv unit.nanos)
    = ((unit.tickOf? zone n).map Cell.int).elim (.error fault) fun cell => .ok (some cell)
  := by
  obtain ⟨moment, hmoment⟩ := unit.exists_momentOf?_tick h
  rw [Casting.localTicks.eq_def, tickOf?, fitInstant?, if_pos h, Option.bind_some]
  cases zone with
  | none => exact ⟨.cast, rfl⟩
  | some name =>
      rw [localTick?]
      dsimp only
      rw [hmoment]
      cases Zone.offset? name with
      | none => exact ⟨.parse, rfl⟩
      | some offset =>
          refine ⟨.cast, ?_⟩
          dsimp only
          rw [ticks_eq, Option.bind_some]
          split <;> rfl

end TimeUnit

/-- Whether an operand is the text of an instant with its offset from universal time. -/
def Scalar.IsInstant (value : Scalar) (n : Int) : Prop :=
  ∃ text, value = .text text ∧ Instant.readInternet? (trim text.toList) = some n

/-- The text of an instant is converted to timestamps if the instant has at most sixty-four bits. -/
theorem Converter.standard_instant (dates : DateFormats) {text : String} {n : Int}
    (h : Instant.readInternet? (trim text.toList) = some n) (unit : TimeUnit)
    (zone : Option String) :
  fitsSigned 64 n = true ∧ standard dates text (.timestamp unit zone) = .ok (.instant n) ∨
  fitsSigned 64 n = false ∧
    ∃ message, standard dates text (.timestamp unit zone) = .error message
  := by
  rw [standard, DateFormats.readInstant?, h]
  dsimp only
  rw [fitInstant?]
  cases fitsSigned 64 n with
  | true => exact .inl ⟨rfl, rfl⟩
  | false => exact .inr ⟨rfl, _, rfl⟩

/-- A leaf of timestamps takes an instant by the tick that its zone shows. -/
theorem ColumnField.takes_instant (dates : DateFormats) (counts : Bool) {field : ColumnField}
    {unit : TimeUnit} {zone : Option String} {cells : List (Option Cell)}
    (hcolumn : field.column = .leaf (.timestamp unit zone) cells) {value : Scalar} {n : Int}
    (h : value.IsInstant n) :
  field.Takes ⟨Converter.standard dates, counts⟩ value ((unit.tickOf? zone n).map .int)
  := by
  obtain ⟨text, rfl, hread⟩ := h
  obtain ⟨hfits, hok⟩ | ⟨hout, message, herror⟩ :=
    Converter.standard_instant dates hread unit zone
  · have hliteral : Coercion.literal ⟨Converter.standard dates, counts⟩ (.timestamp unit zone)
        (.text text) = .ok (.instant n) := Coercion.literal_of_converter rfl hok
    apply takes_of_toCell hcolumn hliteral rfl _ (unit.exists_localTicks_eq zone hfits)
      ⟨rfl, rfl, rfl, rfl⟩
    rw [hcolumn]
    apply Column.operands_leaf rfl
  · rw [TimeUnit.tickOf?, fitInstant?, hout, if_neg Bool.false_ne_true]
    refine ⟨.conversion text (.timestamp unit zone) (.refused message), rfl, .inl ?_⟩
    rw [ColumnField.type, hcolumn]
    apply Coercion.literal_of_converter_error herror

/-- Timestamps are compared as they are. -/
theorem ColumnField.isPlain_of_timestamp {field : ColumnField} {unit : TimeUnit}
    {zone : Option String} {cells : List (Option Cell)}
    (h : field.column = .leaf (.timestamp unit zone) cells) :
  field.type.IsPlain
  := by
  rw [ColumnField.type, h]
  exact ⟨rfl, rfl, rfl, rfl⟩

namespace Batch

variable {batch other : Batch} {path : String} {field found : ColumnField}

/-- A relation to an instant fails, as one that cannot be converted, if and only if the zone shows
no tick of the instant, and otherwise compares timestamps with the tick. -/
theorem relation_instant (dates : DateFormats) (counts : Bool)
    (hleads : batch.Leads (Path.segments path) field) {unit : TimeUnit} {zone : Option String}
    {cells : List (Option Cell)} (hcolumn : field.column = .leaf (.timestamp unit zone) cells)
    {value : Scalar} {n : Int} (h : value.IsInstant n) (relation : Relation) :
  let coercion : Coercion := ⟨Converter.standard dates, counts⟩
  let comparison : Comparison := ⟨path, .relation relation, .scalar value⟩
  batch.failsConversion coercion comparison = (unit.tickOf? zone n).isNone ∧
  ∀ a, unit.tickOf? zone n = some a →
    batch.failure? coercion comparison = none ∧
    ∀ row, (field.column.datum row = .null → batch.verdict coercion row comparison = false) ∧
      ∀ t, field.column.datum row = .cell (.int t) →
        batch.verdict coercion row comparison = relation.holds (compare t a)
  := by
  intro coercion comparison
  have htakes := ColumnField.takes_instant dates counts hcolumn h
  obtain ⟨hfails, hfound⟩ :=
    outcome_of_takes hleads (ColumnField.isPlain_of_timestamp hcolumn) hcolumn htakes relation
  refine ⟨?_, ?_⟩
  · rw [hfails, Option.isNone_map]
  · intro a ha
    obtain ⟨hok, hverdict⟩ := hfound (.int a) (by rw [ha, Option.map_some])
    exact ⟨hok, fun row => ⟨(hverdict row).1, fun t => (hverdict row).2 (.int t)⟩⟩

/-- A membership among instants fails, as one that cannot be converted, if and only if the zone
shows no tick of one of them, and otherwise looks for timestamps among the ticks. -/
theorem membership_instant (dates : DateFormats) (counts : Bool)
    (hleads : batch.Leads (Path.segments path) field) {unit : TimeUnit} {zone : Option String}
    {cells : List (Option Cell)} (hcolumn : field.column = .leaf (.timestamp unit zone) cells)
    {values : List Scalar} {ns : List Int} (h : List.Forall₂ Scalar.IsInstant values ns)
    (kind : Membership) :
  let coercion : Coercion := ⟨Converter.standard dates, counts⟩
  let comparison : Comparison := ⟨path, .membership kind, .list values⟩
  let shown : Bool := ns.all fun n => (unit.tickOf? zone n).isSome
  batch.failsConversion coercion comparison = !shown ∧
  (shown = true →
    batch.failure? coercion comparison = none ∧
    ∀ row,
      (field.column.datum row = .null →
        (batch.verdict coercion row comparison = true
          ↔ row < cells.length ∧ kind.holds false = true)) ∧
      ∀ t, field.column.datum row = .cell (.int t) →
        batch.verdict coercion row comparison
          = kind.holds (ns.any fun n => unit.tickOf? zone n == some t))
  := by
  intro coercion comparison shown
  have hrows : field.column.rows = cells.length := by rw [hcolumn, Column.rows]
  have htakes := h.imp fun _ _ => ColumnField.takes_instant dates counts hcolumn
  obtain ⟨hfails, hfound⟩ := outcome_of_takes_all hleads
    (ColumnField.isPlain_of_timestamp hcolumn) hcolumn htakes kind
  simp only [Option.isSome_map] at hfails hfound
  refine ⟨hfails, ?_⟩
  intro hshown
  obtain ⟨hok, hverdict⟩ := hfound hshown
  refine ⟨hok, ?_⟩
  intro row
  rw [← hrows]
  refine ⟨(hverdict row).1, ?_⟩
  intro t ht
  rw [(hverdict row).2 _ ht]
  congr 2
  funext n
  cases unit.tickOf? zone n with
  | none => rfl
  | some a =>
      rw [Option.map_some, Option.any_some, Cell.compare, Bool.eq_iff_iff, beq_iff_eq, beq_iff_eq,
        Int.compare_eq_eq, Option.some_inj, eq_comm]

/-- Instants are compared with timestamps as their zone shows them.  A relation to an instant fails,
with an error that it cannot be converted, if and only if the zone shows no tick of it; so does a
membership, if and only if one of the instants is shown no tick.  The same timestamps with two zones
answer a relation alike if and only if they are not between the two ticks, and nulls are always
answered alike. -/
theorem verdict_zone (dates : DateFormats) (counts : Bool)
    (hleads : batch.Leads (Path.segments path) field)
    (hother : other.Leads (Path.segments path) found) {unit : TimeUnit}
    {zone label : Option String} {cells : List (Option Cell)}
    (hcolumn : field.column = .leaf (.timestamp unit zone) cells)
    (hfound : found.column = .leaf (.timestamp unit label) cells) :
  let coercion : Coercion := ⟨Converter.standard dates, counts⟩
  (∀ (value : Scalar) (n : Int), value.IsInstant n → ∀ relation,
    let comparison : Comparison := ⟨path, .relation relation, .scalar value⟩
    batch.failsConversion coercion comparison = (unit.tickOf? zone n).isNone ∧
    other.failsConversion coercion comparison = (unit.tickOf? label n).isNone ∧
    ∀ a b, unit.tickOf? zone n = some a → unit.tickOf? label n = some b →
      batch.failure? coercion comparison = none ∧ other.failure? coercion comparison = none ∧
      ∀ row,
        (field.column.datum row = .null →
          batch.verdict coercion row comparison = false ∧
          other.verdict coercion row comparison = false) ∧
        ∀ t, field.column.datum row = .cell (.int t) →
          batch.verdict coercion row comparison = relation.holds (compare t a) ∧
          other.verdict coercion row comparison = relation.holds (compare t b) ∧
          (batch.verdict coercion row comparison = other.verdict coercion row comparison
            ↔ ¬ relation.Separates a b t)) ∧
  ∀ (values : List Scalar) (ns : List Int), List.Forall₂ Scalar.IsInstant values ns → ∀ kind,
    let comparison : Comparison := ⟨path, .membership kind, .list values⟩
    let shown (zone : Option String) : Bool := ns.all fun n => (unit.tickOf? zone n).isSome
    batch.failsConversion coercion comparison = !shown zone ∧
    other.failsConversion coercion comparison = !shown label ∧
    (shown zone = true → shown label = true →
      batch.failure? coercion comparison = none ∧ other.failure? coercion comparison = none ∧
      ∀ row,
        (field.column.datum row = .null →
          batch.verdict coercion row comparison = other.verdict coercion row comparison) ∧
        ∀ t, field.column.datum row = .cell (.int t) →
          batch.verdict coercion row comparison
            = kind.holds (ns.any fun n => unit.tickOf? zone n == some t) ∧
          other.verdict coercion row comparison
            = kind.holds (ns.any fun n => unit.tickOf? label n == some t))
  := by
  intro coercion
  have hdatum (row : Nat) : found.column.datum row = field.column.datum row := by
    rw [hcolumn, hfound, Column.datum_leaf, Column.datum_leaf]
  constructor
  · intro value n h relation comparison
    obtain ⟨hfails, hverdict⟩ := relation_instant dates counts hleads hcolumn h relation
    obtain ⟨hfails', hverdict'⟩ := relation_instant dates counts hother hfound h relation
    refine ⟨hfails, hfails', ?_⟩
    intro a b ha hb
    obtain ⟨hok, hrows⟩ := hverdict a ha
    obtain ⟨hok', hrows'⟩ := hverdict' b hb
    refine ⟨hok, hok', ?_⟩
    intro row
    have hsame := hdatum row
    refine ⟨?null, ?tick⟩
    case null =>
      intro hnull
      exact ⟨(hrows row).1 hnull, (hrows' row).1 (hsame.trans hnull)⟩
    case tick =>
      intro t ht
      have hleft := (hrows row).2 t ht
      have hright := (hrows' row).2 t (hsame.trans ht)
      refine ⟨hleft, hright, ?_⟩
      rw [hleft, hright]
      apply relation.holds_compare_eq_iff
  · intro values ns h kind comparison shown
    obtain ⟨hfails, hverdict⟩ := membership_instant dates counts hleads hcolumn h kind
    obtain ⟨hfails', hverdict'⟩ := membership_instant dates counts hother hfound h kind
    refine ⟨hfails, hfails', ?_⟩
    intro hshown hshown'
    obtain ⟨hok, hrows⟩ := hverdict hshown
    obtain ⟨hok', hrows'⟩ := hverdict' hshown'
    refine ⟨hok, hok', ?_⟩
    intro row
    constructor
    · intro hnull
      rw [Bool.eq_iff_iff, (hrows row).1 hnull, (hrows' row).1 ((hdatum row).trans hnull)]
    · intro t ht
      exact ⟨(hrows row).2 t ht, (hrows' row).2 t ((hdatum row).trans ht)⟩

/-- Two hours after the epoch, compared with seconds two hours ahead of universal time and with
seconds without a zone. -/
theorem verdict_zone_ahead :
  let field (zone : Option String) : ColumnField := ⟨"t", .leaf (.timestamp .second zone)
    [some (.int 0), some (.int 7200), some (.int 9000), none]⟩
  let batch (zone : Option String) : Batch := ⟨4, [("t", (field zone).column)]⟩
  let coercion : Coercion := ⟨Converter.standard DateFormats.default, true⟩
  let instant : Scalar := .text "1970-01-01T02:00:00Z"
  let verdict (zone : Option String) (relation : Relation) (row : Nat) : Bool :=
    (batch zone).verdict coercion row ⟨"t", .relation relation, .scalar instant⟩
  (∀ zone, (batch zone).Leads (Path.segments "t") (field zone)) ∧
  instant.IsInstant 7200000000000 ∧
  verdict (some "+02:00") .eq 0 = true ∧ verdict none .eq 0 = false ∧
  verdict (some "+02:00") .gt 2 = verdict none .gt 2 ∧
  verdict (some "+02:00") .ne 3 = false ∧
  (batch (some "+02:00")).verdict coercion 1 ⟨"t", .membership .anyOf, .list [instant]⟩ = false ∧
  (batch (some "UTC")).failsConversion coercion ⟨"t", .relation .eq, .scalar instant⟩ = true
  := by
  intro field batch coercion instant verdict
  have hleads (zone : Option String) : (batch zone).Leads (Path.segments "t") (field zone) :=
    ⟨field zone, rfl, rfl⟩
  have hinstant : instant.IsInstant 7200000000000 := ⟨_, rfl, by decide +kernel⟩
  have hahead : TimeUnit.tickOf? .second (some "+02:00") 7200000000000 = some 0 := by
    decide +kernel
  have hplain : TimeUnit.tickOf? .second none 7200000000000 = some 7200 := by decide +kernel
  obtain ⟨hrelation, hmembership⟩ := verdict_zone DateFormats.default true
    (hleads (some "+02:00")) (hleads none) rfl rfl
  have hrows (relation : Relation) :=
    ((hrelation _ _ hinstant relation).2.2 0 7200 hahead hplain).2.2
  refine ⟨hleads, hinstant, ?_, ?_, ?_, ?_, ?_, ?_⟩
  · apply ((hrows .eq 0).2 0 rfl).1
  · apply ((hrows .eq 0).2 0 rfl).2.1
  · apply ((hrows .gt 2).2 9000 rfl).2.2.mpr
    rintro ⟨-, hbelow⟩
    exact absurd hbelow (by decide)
  · apply ((hrows .ne 3).1 rfl).1
  · have hshown (zone : Option String) (a : Int)
        (h : TimeUnit.tickOf? .second zone 7200000000000 = some a) :
        ([7200000000000].all fun n => (TimeUnit.tickOf? .second zone n).isSome) = true := by
      rw [List.all_cons, h]
      rfl
    obtain ⟨-, -, hfound⟩ := hmembership _ _ (.cons hinstant .nil) .anyOf
    have hrow := ((hfound (hshown _ _ hahead) (hshown _ _ hplain)).2.2 1).2 7200 rfl
    rw [hrow.1, List.any_cons, hahead]
    rfl
  · have hnamed : TimeUnit.tickOf? .second (some "UTC") 7200000000000 = none := by decide +kernel
    obtain ⟨hutc, -⟩ :=
      verdict_zone DateFormats.default true (hleads (some "UTC")) (hleads none) rfl rfl
    rw [(hutc _ _ hinstant .eq).1, hnamed]
    rfl

/-- The epoch is not found among timestamps of a zone ahead of universal time, though without the
zone it is; and it is not compared with timestamps of a zone that is given by a name. -/
theorem verdict_zone_label :
  let batch (zone : Option String) : Batch :=
    ⟨1, [("t", .leaf (.timestamp .second zone) [some (.int 0)])]⟩
  let coercion : Coercion := ⟨Converter.standard DateFormats.default, true⟩
  let comparison : Comparison := ⟨"t", .relation .eq, .scalar (.text "1970-01-01T00:00:00Z")⟩
  (batch none).verdict coercion 0 comparison = true ∧
  (batch (some "+00:00")).verdict coercion 0 comparison = true ∧
  (batch (some "+02:00")).verdict coercion 0 comparison = false ∧
  (batch (some "UTC")).failsConversion coercion comparison = true
  := by
  decide +kernel

end Batch

end RowFilter
