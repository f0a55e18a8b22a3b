import BridgeState.Json.Value
import BridgeState.Outcome
import BridgeState.Sorting

/-!
# Metrics

Counters of what was applied and told, and the last thousand latencies. A tally counts names in the
order in which they were first seen. A percentile is one of the kept samples: the one at the rank
that the fraction of their number gives, rounded down.
-/

namespace BridgeState

set_option autoImplicit false

/-- A latency in milliseconds, given as a whole number or as a double. -/
inductive Latency where
  | whole (milliseconds : Int)
  | double (milliseconds : Binary64)
deriving Repr, DecidableEq

namespace Latency

def zero : Latency :=
  .whole 0

def rounded : Latency → Binary64
  | .whole milliseconds => .ofInt milliseconds
  | .double milliseconds => milliseconds

def times (count : Int) : Latency → Latency
  | .whole milliseconds => .whole (count * milliseconds)
  | .double milliseconds => .double ((Binary64.ofInt count).mul milliseconds)

/-- The sum of two latencies: a whole number only if both are. -/
def add : Latency → Latency → Latency
  | .whole first, .whole second => .whole (first + second)
  | first, second => .double (first.rounded.add second.rounded)

def advance (start step : Latency) (count : Nat) : Latency :=
  start.add (step.times count)

/-- The milliseconds between two readings of a clock that counts seconds. -/
def elapsed (started stopped : Binary64) : Latency :=
  let beforeStart := (Latency.double started).times (-1)
  (beforeStart.advance (.double stopped) 1).times 1000

/-- How many units of the least double a whole millisecond has, as a power of two. -/
def unitPlaces : Nat := 1074

/-- Where a latency stands among the others: its exact amount in units of the least double, behind
what it counts for if it is infinite. What is no number stands nowhere. -/
def place? : Latency → Option (Int × Int)
  | .whole milliseconds => some (0, milliseconds * Int.pow 2 unitPlaces)
  | .double (.finite negative mantissa exponent) =>
    some (0, Binary64.signedUnits negative mantissa (exponent + unitPlaces).toNat)
  | .double (.infinite negative) => some (if negative then -1 else 1, 0)
  | .double .undefined => none

def isNumber (latency : Latency) : Bool :=
  latency.place?.isSome

/-- Whether a latency is less than another; no comparison with what is no number holds. -/
def isShorter (first second : Latency) : Bool :=
  match first.place?, second.place? with
  | some place, some other => place.1 < other.1 || (place.1 == other.1 && place.2 < other.2)
  | _, _ => false

/-- Whether a latency is no longer than another; no comparison with what is no number holds. -/
def atMost (first second : Latency) : Bool :=
  match first.place?, second.place? with
  | some place, some other => place.1 < other.1 || (place.1 == other.1 && place.2 ≤ other.2)
  | _, _ => false

theorem atMost_iff {first second : Latency} :
    first.atMost second = true ↔ ∃ place other, first.place? = some place ∧
      second.place? = some other ∧ (place.1 < other.1 ∨ place.1 = other.1 ∧ place.2 ≤ other.2) := by
  unfold atMost
  cases first.place? <;> cases second.place? <;> simp

theorem atMost_trans {a b c : Latency} (first : a.atMost b = true) (second : b.atMost c = true) :
    a.atMost c = true := by
  obtain ⟨place, middle, isPlace, isMiddle, below⟩ := atMost_iff.mp first
  obtain ⟨middle', other, isMiddle', isOther, below'⟩ := atMost_iff.mp second
  have same : middle = middle' := Option.some.inj (isMiddle.symm.trans isMiddle')
  subst same
  exact atMost_iff.mpr ⟨place, other, isPlace, isOther, by omega⟩

theorem atMost_total {first second : Latency} (isNumber : first.isNumber = true)
    (isNumber' : second.isNumber = true) (notAtMost : first.atMost second = false) :
    second.atMost first = true := by
  obtain ⟨place, isPlace⟩ := Option.isSome_iff_exists.mp isNumber
  obtain ⟨other, isOther⟩ := Option.isSome_iff_exists.mp isNumber'
  refine atMost_iff.mpr ⟨other, place, isOther, isPlace, ?_⟩
  simp only [atMost, isPlace, isOther, Bool.or_eq_false_iff, Bool.and_eq_false_iff,
    decide_eq_false_iff_not, beq_eq_false_iff_ne] at notAtMost
  omega

/-- A number is shorter than another unless the other is at most as long. -/
theorem isShorter_eq_not_atMost {first second : Latency} (isNumber : first.isNumber = true)
    (isNumber' : second.isNumber = true) : second.isShorter first = !first.atMost second := by
  obtain ⟨place, isPlace⟩ := Option.isSome_iff_exists.mp isNumber
  obtain ⟨other, isOther⟩ := Option.isSome_iff_exists.mp isNumber'
  rw [Bool.eq_iff_iff]
  simp only [isShorter, atMost, isPlace, isOther, Bool.or_eq_true, Bool.and_eq_true,
    Bool.not_eq_true', Bool.or_eq_false_iff, Bool.and_eq_false_iff, decide_eq_true_eq,
    decide_eq_false_iff_not, beq_iff_eq, beq_eq_false_iff_ne]
  omega

def toJson : Latency → Json
  | .whole milliseconds => .int milliseconds
  | .double milliseconds => .float milliseconds

end Latency

/-- How often each name was seen. -/
abbrev Tally : Type :=
  List (String × Nat)

namespace Tally

def add (name : String) : Tally → Tally
  | [] => [(name, 1)]
  | (key, count) :: rest =>
    if key == name then (key, count + 1) :: rest else (key, count) :: add name rest

def get (name : String) (tally : Tally) : Nat :=
  match tally with
  | [] => 0
  | (key, count) :: rest => if key == name then count else get name rest

def ofList (names : List String) : Tally :=
  names.foldl (fun tally name => add name tally) []

def total (tally : Tally) : Nat :=
  (tally.map Prod.snd).foldr (· + ·) 0

def toJson (tally : Tally) : Json :=
  .obj (tally.map fun entry => (entry.1, .nat entry.2))

theorem get_add (name other : String) (tally : Tally) :
    get other (add name tally) = get other tally + if other = name then 1 else 0 := by
  induction tally with
  | nil => grind [add, get]
  | cons first rest ih => grind [add, get]

theorem total_add (name : String) (tally : Tally) : total (add name tally) = total tally + 1 := by
  induction tally with
  | nil => rfl
  | cons first rest ih =>
    unfold add
    split
    · simp only [total, List.map_cons, List.foldr_cons]; omega
    · simp only [total, List.map_cons, List.foldr_cons] at ih ⊢; omega

end Tally

def sampleLimit : Nat := 1000

structure Metrics where
  eventsApplied : Nat
  reconciliationFailures : Nat
  unknownTargets : Nat
  rejectedTransitions : Nat
  outcomes : Tally
  eventsByKind : Tally
  lastBlockNumber : Option Int
  samples : List Latency
deriving Repr, DecidableEq

namespace Metrics

def zero : Metrics :=
  ⟨0, 0, 0, 0, [], [], none, []⟩

/-- The last samples of a list, as many as are kept. -/
def lastSamples (samples : List Latency) : List Latency :=
  samples.drop (samples.length - sampleLimit)

def recordApply (kind outcome : String) (block : Int) (latency : Latency) (metrics : Metrics) :
    Metrics :=
  { metrics with
    eventsApplied := metrics.eventsApplied + 1
    eventsByKind := Tally.add kind metrics.eventsByKind
    outcomes := Tally.add outcome metrics.outcomes
    lastBlockNumber := some block
    samples := lastSamples (metrics.samples ++ [latency]) }

def recordDiagnostic (kind : DiagnosticKind) (metrics : Metrics) : Metrics :=
  match kind with
  | .reconciliationFailed =>
    { metrics with reconciliationFailures := metrics.reconciliationFailures + 1 }
  | .unknownTarget => { metrics with unknownTargets := metrics.unknownTargets + 1 }
  | .transitionRejected => { metrics with rejectedTransitions := metrics.rejectedTransitions + 1 }

/-- Counts a diagnostic by its code. What is no code counts for nothing. -/
def recordCode (code : String) (metrics : Metrics) : Metrics :=
  match Named.ofName? code with
  | some kind => metrics.recordDiagnostic kind
  | none => metrics

theorem recordCode_name (kind : DiagnosticKind) (metrics : Metrics) :
    metrics.recordCode (Named.name kind) = metrics.recordDiagnostic kind := by
  cases kind <;> rfl

def half : Binary64 := .ofDecimal false 5 (-1)

def nineteenTwentieths : Binary64 := .ofDecimal false 95 (-2)

def ninetyNineHundredths : Binary64 := .ofDecimal false 99 (-2)

/-- The position of a percentile among so many samples: the product of doubles, rounded down. -/
def rank (fraction : Binary64) (count : Nat) : Nat :=
  min (((Binary64.ofInt count).mul fraction).truncate?.getD 0).toNat (count - 1)

def sortSamples (samples : List Latency) : List Latency :=
  Sorting.sort Latency.isShorter samples

def percentile (fraction : Binary64) (samples : List Latency) : Option Latency :=
  (sortSamples samples)[rank fraction samples.length]?

def latencies (metrics : Metrics) : List (String × Option Latency) :=
  [("apply_latency_p50_ms", percentile half metrics.samples),
   ("apply_latency_p95_ms", percentile nineteenTwentieths metrics.samples),
   ("apply_latency_p99_ms", percentile ninetyNineHundredths metrics.samples)]

def counters (metrics : Metrics) : Members :=
  [("events_applied", .nat metrics.eventsApplied),
   ("reconciliation_failures", .nat metrics.reconciliationFailures),
   ("unknown_targets", .nat metrics.unknownTargets),
   ("rejected_transitions", .nat metrics.rejectedTransitions),
   ("outcomes", Tally.toJson metrics.outcomes),
   ("events_by_kind", Tally.toJson metrics.eventsByKind),
   ("last_block_number", .ofOption .int metrics.lastBlockNumber)]

/-- Counters, gauges and percentiles; `write` says how a percentile is shown. -/
def summary (write : Option Latency → Json) (metrics : Metrics) : Json :=
  .obj (metrics.counters ++ metrics.latencies.map fun entry =>
    (Text.ofString entry.1, write entry.2))

end Metrics

end BridgeState
