import Toolset.Event

/-!
# Metrics of runs

Runs, failed steps, installed tools and workspaces left behind are counted by
source, and the durations of runs are sorted into buckets.  A series is there
once it was touched.  Counting an event looks at nothing but the counts so far,
so the counts after a sequence of events do not depend on its order.
-/

namespace Toolset

/-- Exact counts by key. A key is there once it was counted. -/
structure Tally (κ : Type) where
  counts : List (κ × Nat) := []
  deriving DecidableEq, Repr

namespace Tally

variable {κ : Type} [DecidableEq κ]

def has (tally : Tally κ) (key : κ) : Bool := tally.counts.any (·.1 == key)

def count (tally : Tally κ) (key : κ) : Nat := (tally.counts.lookup key).getD 0

/-- Count a key once more. -/
def bump (tally : Tally κ) (key : κ) : Tally κ :=
  if tally.has key then
    ⟨tally.counts.map fun entry => if entry.1 = key then (key, entry.2 + 1) else entry⟩
  else ⟨tally.counts ++ [(key, 1)]⟩

end Tally

/-- The upper bounds of the buckets for durations, in seconds. -/
def durationBounds : List Float :=
  [1, 5, 15, 30, 60, 120, 300, 600, 1800, 3600, Decimal.infinity false]

/-- Durations sorted into buckets, and their sum. -/
structure Histogram where
  /-- For each bound, the number of durations that it is the first to hold. -/
  buckets : List Nat := durationBounds.map fun _ => 0
  sum : Float := 0
  deriving DecidableEq, Repr

namespace Histogram

/-- Count one more at an index. -/
def bumpAt : (index : Nat) → List Nat → List Nat
  | _, [] => []
  | 0, n :: rest => (n + 1) :: rest
  | index + 1, n :: rest => n :: bumpAt index rest

/-- The first bucket that holds a duration. What is not a number is in none. -/
def bucketOf? (x : Float) : Option Nat := durationBounds.findIdx? fun bound => decide (x ≤ bound)

/-- Add a duration. -/
def observe (histogram : Histogram) (x : Float) : Histogram where
  buckets := match bucketOf? x with
    | some index => bumpAt index histogram.buckets
    | none => histogram.buckets
  sum := histogram.sum + x

/-- The sum of counts. -/
def total (counts : List Nat) : Nat := counts.foldr (· + ·) 0

/-- The number of durations up to each bound. -/
def cumulative (histogram : Histogram) : List Nat :=
  (List.range histogram.buckets.length).map fun n => total (histogram.buckets.take (n + 1))

/-- The number of all durations in a bucket. -/
def count (histogram : Histogram) : Nat := total histogram.buckets

end Histogram

/-- How a run ended, as runs are counted. -/
inductive RunResult where
  | success
  | failure
  deriving DecidableEq, Repr

def RunResult.name : RunResult → String
  | .success => "success"
  | .failure => "failure"

/-- All counts. -/
structure Metrics where
  runs : Tally (String × RunResult) := {}
  stepFailures : Tally (String × String) := {}
  toolsInstalled : Tally String := {}
  cleanupWarnings : Tally String := {}
  durations : List (String × Histogram) := []
  deriving DecidableEq, Repr

/-- One number of one series. -/
structure Sample where
  name : String
  /-- The labels by name, in the order of the names. -/
  labels : List (String × String)
  value : Float
  deriving DecidableEq, Repr

namespace Metrics

/-- A run ended. -/
def recordRun (metrics : Metrics) (source : String) (result : RunResult) : Metrics :=
  { metrics with runs := metrics.runs.bump (source, result) }

/-- A step failed. -/
def recordStepFailure (metrics : Metrics) (source step : String) : Metrics :=
  { metrics with stepFailures := metrics.stepFailures.bump (source, step) }

/-- A tool was installed. -/
def recordToolInstalled (metrics : Metrics) (source : String) : Metrics :=
  { metrics with toolsInstalled := metrics.toolsInstalled.bump source }

/-- A workspace was left behind. -/
def recordCleanupWarning (metrics : Metrics) (source : String) : Metrics :=
  { metrics with cleanupWarnings := metrics.cleanupWarnings.bump source }

/-- The durations of a source. -/
def durationsOf (metrics : Metrics) (source : String) : Histogram :=
  (metrics.durations.lookup source).getD {}

/-- A run took so long. -/
def recordDuration (metrics : Metrics) (source : String) (x : Float) : Metrics :=
  let histogram := (metrics.durationsOf source).observe x
  let others := metrics.durations.filter (·.1 != source)
  { metrics with durations := others ++ [(source, histogram)] }

/-- Why a value cannot be added to a sum: a text, a list and the like. -/
def noAddend (kind : String) : Log.Trouble where
  kind := "TypeError"
  text := "unsupported operand type(s) for +=: 'float' and '" ++ kind ++ "'"

def addend : Value → Except Log.Trouble Float
  | .real x => .ok x
  | .flag b => .ok (if b then 1 else 0)
  | .whole n =>
      match Decimal.ofWhole? n with
      | some x => .ok x
      | none => .error ⟨"OverflowError", "int too large to convert to float"⟩
  | value => .error (noAddend value.kindName)

/-- The series of durations of a source is there from now on. -/
def touchDurations (metrics : Metrics) (source : String) : Metrics :=
  if metrics.durations.any (·.1 == source) then metrics
  else { metrics with durations := metrics.durations ++ [(source, {})] }

/-- A run took as long as a value says. A value that is no number is refused, but
the series is there. -/
def recordValue (metrics : Metrics) (source : String) (value : Value) :
    Metrics × Option Log.Trouble :=
  match addend value with
  | .ok x => (metrics.recordDuration source x, none)
  | .error trouble => (metrics.touchDurations source, some trouble)

/-- Why a value is no number. -/
inductive NoNumber where
  | text (s : String)
  | tooLarge
  | list
  | record
  | null
  deriving DecidableEq, Repr

/-- What is said of a value that is no number. -/
def NoNumber.message : NoNumber → String
  | .text s => "could not convert string to float: " ++ Text.quoted s
  | .tooLarge => "int too large to convert to float"
  | .list => "float() argument must be a string or a real number, not 'list'"
  | .record => "float() argument must be a string or a real number, not 'dict'"
  | .null => "float() argument must be a string or a real number, not 'NoneType'"

def number : Value → Except NoNumber Float
  | .real x => .ok x
  | .flag b => .ok (if b then 1 else 0)
  | .whole n =>
      match Decimal.ofWhole? n with
      | some x => .ok x
      | none => .error .tooLarge
  | .text s =>
      match Decimal.givenNumber? s with
      | some x => .ok x
      | none => .error (.text s)
  | .list _ => .error .list
  | .record _ => .error .record
  | .null => .error .null

def failedStep (event : Event) : String :=
  match event.detail? "step" with
  | some step => step.display
  | none => "unknown"

/-- The duration that an event of completion names. -/
def duration? (event : Event) : Option Value :=
  match event.detail? "duration_seconds" with
  | none => none
  | some .null => none
  | some value => some value

/-- The event tells that a tool was installed. -/
def tellsOfTool (event : Event) : Bool :=
  match event.detail? "step" with
  | some (.text step) => step == "install"
  | _ => false

/-- Count an event. A duration that is no number is left out and named. -/
def count (metrics : Metrics) (event : Event) : Metrics × Option NoNumber :=
  match event.kind with
  | .stepStarted => (metrics, none)
  | .stepCompleted =>
      (if tellsOfTool event then metrics.recordToolInstalled event.source else metrics, none)
  | .error =>
      ((metrics.recordStepFailure event.source (failedStep event)).recordRun event.source .failure,
        none)
  | .completion =>
      let metrics := metrics.recordRun event.source .success
      match duration? event with
      | none => (metrics, none)
      | some value =>
          match number value with
          | .ok x => (metrics.recordDuration event.source x, none)
          | .error problem => (metrics, some problem)
  | .cleanupWarning => (metrics.recordCleanupWarning event.source, none)

/-- A count as a number. -/
def sampleValue (n : Nat) : Float := Decimal.nearest false n 0

def boundLabel (bound : Float) : String :=
  if bound.isInf then "+Inf" else Decimal.literal bound

def histogramSamples (source : String) (histogram : Histogram) : List Sample :=
  (durationBounds.zip histogram.cumulative).map (fun (bound, n) =>
    { name := "provision_run_duration_seconds_bucket",
      labels := [("le", boundLabel bound), ("source", source)], value := sampleValue n }) ++
  [{ name := "provision_run_duration_seconds_count", labels := [("source", source)],
     value := sampleValue histogram.count },
   { name := "provision_run_duration_seconds_sum", labels := [("source", source)],
     value := histogram.sum }]

/-- The samples of all series, in no particular order. -/
def allSamples (metrics : Metrics) : List Sample :=
  metrics.runs.counts.map (fun ((source, result), n) =>
    { name := "provision_runs_total", labels := [("result", result.name), ("source", source)],
      value := sampleValue n }) ++
  metrics.stepFailures.counts.map (fun ((source, step), n) =>
    { name := "provision_step_failures_total", labels := [("source", source), ("step", step)],
      value := sampleValue n }) ++
  metrics.toolsInstalled.counts.map (fun (source, n) =>
    { name := "provision_tools_installed_total", labels := [("source", source)],
      value := sampleValue n }) ++
  metrics.cleanupWarnings.counts.map (fun (source, n) =>
    { name := "provision_cleanup_warnings_total", labels := [("source", source)],
      value := sampleValue n }) ++
  metrics.durations.flatMap fun (source, histogram) => histogramSamples source histogram

/-- What samples are sorted by: the name, then the labels. -/
def sampleKey (sample : Sample) : List String :=
  sample.name :: sample.labels.flatMap fun label => [label.1, label.2]

/-- Keys in order: the first text that differs decides. -/
def keyLe : List String → List String → Bool
  | [], _ => true
  | _ :: _, [] => false
  | a :: first, b :: second => if a == b then keyLe first second else decide (a ≤ b)

def samples (metrics : Metrics) : List Sample :=
  metrics.allSamples.mergeSort fun a b => keyLe (sampleKey a) (sampleKey b)

def families : List (String × String × String) :=
  [("provision_cleanup_warnings", "Total number of workspaces that could not be removed",
    "counter"),
   ("provision_run_duration_seconds", "Time spent in provisioning runs in seconds", "histogram"),
   ("provision_runs", "Total number of provisioning runs", "counter"),
   ("provision_step_failures", "Total number of failed provisioning steps", "counter"),
   ("provision_tools_installed", "Total number of sub-tools installed", "counter")]

/-- The name under which metrics are pushed. -/
def job : String := "tool-provisioner"

end Metrics

end Toolset
