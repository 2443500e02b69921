import Toolset.Proofs.Isolation
import Toolset.Proofs.Recounting
import Toolset.Proofs.Samples

/-!
# What is counted of a run

Counting looks at what an event says, and at nothing else of it.  Each count therefore grows
by what the sayings of a run add to it: one run that ended, the step that failed, a tool for
each attempt that succeeded, a workspace that was left behind, and a duration.
-/

namespace Toolset

namespace Saying

/-- The event of a saying. -/
def event (saying : Saying) : Event where
  kind := saying.kind
  source := saying.source
  moment := default
  details := saying.details

/-- The end of a run that is counted of a saying. -/
def run? (saying : Saying) : Option (String × RunResult) :=
  match saying.kind with
  | .completion => some (saying.source, .success)
  | .error => some (saying.source, .failure)
  | _ => none

/-- The failed step that is counted of a saying. -/
def stepFailure? (saying : Saying) : Option (String × String) :=
  match saying.kind with
  | .error => some (saying.source, Metrics.failedStep saying.event)
  | _ => none

/-- The source for which a tool is counted of a saying. -/
def tool? (saying : Saying) : Option String :=
  match saying.kind with
  | .stepCompleted => if Metrics.tellsOfTool saying.event then some saying.source else none
  | _ => none

/-- The source for which a workspace that was left behind is counted of a saying. -/
def cleanupWarning? (saying : Saying) : Option String :=
  match saying.kind with
  | .cleanupWarning => some saying.source
  | _ => none

/-- The duration that is counted of a saying. -/
def duration? (saying : Saying) : Option Float :=
  match saying.kind with
  | .completion =>
      (Metrics.duration? saying.event).bind fun value => (Metrics.number value).toOption
  | _ => none

/-- The duration that is counted of a saying, with the source for which it is counted. -/
def timed? (saying : Saying) : Option (String × Float) :=
  saying.duration?.map (saying.source, ·)

/-- A duration that was counted, if it was for a source. -/
def forSource? (source : String) (timed : String × Float) : Option Float :=
  if timed.1 = source then some timed.2 else none

/-- The duration that is counted of a saying for a source. -/
def durationOf? (source : String) (saying : Saying) : Option Float :=
  saying.timed?.bind (forSource? source)

end Saying

namespace Metrics

variable {metrics : Metrics}

/-- What the durations come to after one that may be counted. -/
def withDuration (metrics : Metrics) (source : String) : Option Float → List (String × Histogram)
  | none => metrics.durations
  | some x => (metrics.recordDuration source x).durations

theorem count_event (metrics : Metrics) (saying : Saying) :
    (metrics.count saying.event).1 = {
      runs := metrics.runs.bumpAll saying.run?.toList
      stepFailures := metrics.stepFailures.bumpAll saying.stepFailure?.toList
      toolsInstalled := metrics.toolsInstalled.bumpAll saying.tool?.toList
      cleanupWarnings := metrics.cleanupWarnings.bumpAll saying.cleanupWarning?.toList
      durations := metrics.withDuration saying.source saying.duration? } := by
  rcases saying with ⟨kind, source, details⟩
  cases kind with
  | stepStarted => rfl
  | error => rfl
  | cleanupWarning => rfl
  | stepCompleted =>
      change (if tellsOfTool _ = true then metrics.recordToolInstalled source else metrics) =
        { metrics with
          toolsInstalled := metrics.toolsInstalled.bumpAll
            (if tellsOfTool (Saying.event ⟨.stepCompleted, source, details⟩) then some source
              else none).toList }
      cases tellsOfTool (Saying.event ⟨.stepCompleted, source, details⟩) <;> rfl
  | completion =>
      simp only [count, Saying.duration?, Saying.event]
      cases duration? { kind := .completion, source, moment := default, details } with
      | none => rfl
      | some value =>
          dsimp only [Option.bind_some]
          cases number value <;> rfl

/-- Count sayings one after another. -/
def counting (metrics : Metrics) (sayings : List Saying) : Metrics :=
  sayings.foldl (fun metrics saying => (metrics.count saying.event).1) metrics

theorem counting_append (metrics : Metrics) (first second : List Saying) :
    metrics.counting (first ++ second) = (metrics.counting first).counting second :=
  List.foldl_append

/-- A tally that grows with each saying by what there is to be counted of it grows with
several sayings by all of that. -/
theorem tally_counting {κ : Type} [DecidableEq κ] (tally : Metrics → Tally κ)
    (key? : Saying → Option κ)
    (step : ∀ metrics saying,
      tally (metrics.count saying.event).1 = (tally metrics).bumpAll (key? saying).toList)
    (metrics : Metrics) (sayings : List Saying) :
    tally (metrics.counting sayings) = (tally metrics).bumpAll (sayings.filterMap key?) := by
  induction sayings generalizing metrics with
  | nil => rfl
  | cons saying rest ih =>
      change tally (counting (metrics.count saying.event).1 rest) = _
      rw [ih, step, ← Tally.bumpAll_append, List.filterMap_cons]
      cases key? saying <;> rfl

theorem runs_counting (metrics : Metrics) (sayings : List Saying) :
    (metrics.counting sayings).runs = metrics.runs.bumpAll (sayings.filterMap Saying.run?) :=
  tally_counting Metrics.runs Saying.run? (fun _ _ => by rw [count_event]) metrics sayings

theorem stepFailures_counting (metrics : Metrics) (sayings : List Saying) :
    (metrics.counting sayings).stepFailures =
      metrics.stepFailures.bumpAll (sayings.filterMap Saying.stepFailure?) :=
  tally_counting Metrics.stepFailures Saying.stepFailure? (fun _ _ => by rw [count_event])
    metrics sayings

theorem toolsInstalled_counting (metrics : Metrics) (sayings : List Saying) :
    (metrics.counting sayings).toolsInstalled =
      metrics.toolsInstalled.bumpAll (sayings.filterMap Saying.tool?) :=
  tally_counting Metrics.toolsInstalled Saying.tool? (fun _ _ => by rw [count_event])
    metrics sayings

theorem cleanupWarnings_counting (metrics : Metrics) (sayings : List Saying) :
    (metrics.counting sayings).cleanupWarnings =
      metrics.cleanupWarnings.bumpAll (sayings.filterMap Saying.cleanupWarning?) :=
  tally_counting Metrics.cleanupWarnings Saying.cleanupWarning? (fun _ _ => by rw [count_event])
    metrics sayings

/-- Whatever is counted from nothing on, each series shows its count. -/
theorem shown_counting (sayings : List Saying) (source : String) :
    (counting {} sayings).Shown source where
  runs := by
    apply sampled_runs
    rw [runs_counting]
    exact Tally.proper_empty.bumpAll _
  stepFailures := by
    apply sampled_stepFailures
    rw [stepFailures_counting]
    exact Tally.proper_empty.bumpAll _
  toolsInstalled := by
    apply sampled_toolsInstalled
    rw [toolsInstalled_counting]
    exact Tally.proper_empty.bumpAll _
  cleanupWarnings := by
    apply sampled_cleanupWarnings
    rw [cleanupWarnings_counting]
    exact Tally.proper_empty.bumpAll _

/-! ## Durations -/

theorem durationsOf_recordDuration (metrics : Metrics) (source other : String) (x : Float) :
    (metrics.recordDuration source x).durationsOf other =
      if source = other then (metrics.durationsOf other).observe x
      else metrics.durationsOf other := by
  rw [durationsOf, recordDuration]
  dsimp only
  rw [List.lookup_append, lookup_filter fun key => key != source, List.lookup_cons]
  by_cases same : source = other
  · subst same
    simp
  · have different : (other == source) = false := beq_false_of_ne (Ne.symm same)
    simp [same, Ne.symm same, different, durationsOf]

theorem durationsOf_counting (metrics : Metrics) (sayings : List Saying) (source : String) :
    (metrics.counting sayings).durationsOf source =
      (metrics.durationsOf source).observeAll (sayings.filterMap (Saying.durationOf? source)) := by
  have step (metrics : Metrics) (saying : Saying) :
      (metrics.count saying.event).1.durationsOf source =
        (metrics.durationsOf source).observeAll (saying.durationOf? source).toList := by
    rw [count_event, Saying.durationOf?, Saying.timed?]
    cases saying.duration? with
    | none => rfl
    | some x =>
        have recorded := metrics.durationsOf_recordDuration saying.source source x
        rw [Option.map_some, Option.bind_some, Saying.forSource?]
        split
        · rename_i same
          rw [if_pos same] at recorded
          exact recorded
        · rename_i different
          rw [if_neg different] at recorded
          exact recorded
  induction sayings generalizing metrics with
  | nil => rfl
  | cons saying rest ih =>
      change (counting (metrics.count saying.event).1 rest).durationsOf source = _
      rw [ih, step, List.filterMap_cons]
      cases saying.durationOf? source <;> rfl

theorem hasDurations_counting (metrics : Metrics) (sayings : List Saying) (source : String) :
    ((metrics.counting sayings).durations.lookup source).isSome =
      ((metrics.durations.lookup source).isSome ||
        !(sayings.filterMap (Saying.durationOf? source)).isEmpty) := by
  have step (metrics : Metrics) (saying : Saying) :
      ((metrics.count saying.event).1.durations.lookup source).isSome =
        ((metrics.durations.lookup source).isSome || (saying.durationOf? source).isSome) := by
    rw [count_event, Saying.durationOf?, Saying.timed?]
    cases saying.duration? with
    | none => simp [withDuration]
    | some x =>
        rw [withDuration, recordDuration, Option.map_some, Option.bind_some, Saying.forSource?]
        dsimp only
        rw [List.lookup_append, lookup_filter fun key => key != saying.source, List.lookup_cons]
        by_cases same : saying.source = source
        · simp [same]
        · simp [same, Ne.symm same, beq_false_of_ne (Ne.symm same)]
  induction sayings generalizing metrics with
  | nil => simp [counting]
  | cons saying rest ih =>
      change ((counting (metrics.count saying.event).1 rest).durations.lookup source).isSome = _
      rw [ih, step, List.filterMap_cons, Bool.or_assoc]
      cases saying.durationOf? source <;> simp

theorem HasDistinctSources.counting (distinct : metrics.HasDistinctSources)
    (sayings : List Saying) : (metrics.counting sayings).HasDistinctSources := by
  induction sayings generalizing metrics with
  | nil => exact distinct
  | cons saying rest ih =>
      apply ih
      change (metrics.count saying.event).1.HasDistinctSources
      rw [count_event]
      cases saying.duration? with
      | none => exact distinct
      | some x => exact distinct.recordDuration saying.source x

/-- The durations of a source are there once one was counted for it, and are all that were. -/
theorem lookup_durations_counting (sayings : List Saying) (source : String) :
    (counting {} sayings).durations.lookup source =
      if sayings.filterMap (Saying.durationOf? source) = [] then none
      else some (Histogram.observeAll {} (sayings.filterMap (Saying.durationOf? source))) := by
  have there := hasDurations_counting {} sayings source
  have same := durationsOf_counting {} sayings source
  rw [durationsOf] at same
  change _ = Histogram.observeAll {} _ at same
  cases found : (counting {} sayings).durations.lookup source with
  | none =>
      rw [found] at there
      rw [if_pos (by simpa using there)]
  | some histogram =>
      rw [found] at there same
      rw [if_neg (by simpa using there), ← same]
      rfl

theorem sampled_durationCount_counting {sayings : List Saying} {source : String}
    (numbers : ∀ x ∈ sayings.filterMap (Saying.durationOf? source), x.isNaN = false) :
    (counting {} sayings).sampled "provision_run_duration_seconds_count" [("source", source)] =
      series (sayings.filterMap (Saying.durationOf? source)).length := by
  rw [sampled_durationCount (hasDistinctSources_empty.counting sayings),
    lookup_durations_counting, series]
  by_cases none : sayings.filterMap (Saying.durationOf? source) = []
  · rw [if_pos none, if_pos (List.length_eq_zero_iff.2 none)]
    rfl
  · rw [if_neg none, if_neg (mt List.length_eq_zero_iff.1 none), Option.map_some,
      Histogram.count_observeAll_of_numbers numbers]

end Metrics

/-! ## Sinks that count -/

namespace Sink

mutual

/-- How often a sink counts each event that it is told. -/
def counters : Sink → Nat
  | .counter => 1
  | .several children => countersAll children
  | _ => 0

/-- How often several sinks count each event, taken together. -/
def countersAll : List Sink → Nat
  | [] => 0
  | sink :: rest => counters sink + countersAll rest

end

/-- A sink that counts each event once and calls nothing off. -/
structure CountsOnce (sink : Sink) : Prop where
  quiet : sink.IsQuiet
  once : sink.counters = 1

theorem countsOnce_counter : counter.CountsOnce := ⟨isQuiet_counter, rfl⟩

/-- The counts after an event was counted some number of times. -/
def countedTimes (event : Event) (metrics : Metrics) : Nat → Metrics
  | 0 => metrics
  | n + 1 => countedTimes event (metrics.count event).1 n

theorem countedTimes_add (event : Event) (metrics : Metrics) (first second : Nat) :
    countedTimes event metrics (first + second) =
      countedTimes event (countedTimes event metrics first) second := by
  induction first generalizing metrics with
  | zero => rw [Nat.zero_add, countedTimes]
  | succ first ih => rw [Nat.succ_add, countedTimes, countedTimes, ih]

theorem metrics_of_logEvent {logger : String} {event : Event} {host : Host} {before after : World}
    {outcome : Except Ending Unit}
    (ran : (logEvent logger event).Leads host before outcome after) :
    after.metrics = before.metrics := by
  rw [logEvent, Act.leads_read_bind] at ran
  split at ran
  · split at ran
    · rcases Act.leads_throw.1 ran with ⟨_, rfl⟩
      rfl
    · rcases Act.leads_log.1 ran with ⟨_, rfl⟩
      simp
  · rcases Act.leads_pure.1 ran with ⟨_, rfl⟩
    rfl

theorem metrics_of_countEvent {event : Event} {host : Host} {before after : World}
    {outcome : Except Ending Unit} (ran : (countEvent event).Leads host before outcome after) :
    after.metrics = (before.metrics.count event).1 := by
  rw [countEvent, Act.leads_get_bind] at ran
  generalize before.metrics.count event = counted at ran ⊢
  rcases counted with ⟨metrics, problem⟩
  rw [Act.leads_modify_bind] at ran
  cases problem with
  | none =>
      rcases Act.leads_pure.1 ran with ⟨_, rfl⟩
      rfl
  | some problem =>
      rcases Act.leads_log.1 ran with ⟨_, rfl⟩
      simp

mutual

/-- A sink that does not call the work off counts an event as often as it has counters. -/
theorem metrics_of_tell {event : Event} {host : Host} {before after : World}
    {outcome : Except Ending Unit} :
    (sink : Sink) → sink.cancels event = false →
    (tell event sink).Leads host before outcome after →
    after.metrics = countedTimes event before.metrics sink.counters
  | .silent, _, ran => by
      rcases Act.leads_pure.1 ran with ⟨_, rfl⟩
      rfl
  | .logger name, _, ran => metrics_of_logEvent ran
  | .counter, _, ran => metrics_of_countEvent ran
  | .custom label records reaction, _, ran => by
      rw [tell] at ran
      cases reacts : reaction event with
      | takes =>
          simp only [reacts] at ran
          split at ran
          · rcases Act.leads_modify.1 ran with ⟨_, rfl⟩
            rfl
          · rcases Act.leads_pure.1 ran with ⟨_, rfl⟩
            rfl
      | fails trouble =>
          simp only [reacts] at ran
          rcases Act.leads_throw.1 ran with ⟨_, rfl⟩
          rfl
      | cancels =>
          simp only [reacts] at ran
          rcases Act.leads_throw.1 ran with ⟨_, rfl⟩
          rfl
  | .several children, goesOn, ran => metrics_of_tellAll children goesOn ran

theorem metrics_of_tellAll {event : Event} {host : Host} {before after : World}
    {outcome : Except Ending Unit} :
    (sinks : List Sink) → anyCancels event sinks = false →
    (tellAll event sinks).Leads host before outcome after →
    after.metrics = countedTimes event before.metrics (countersAll sinks)
  | [], _, ran => by
      rcases Act.leads_pure.1 ran with ⟨_, rfl⟩
      rfl
  | sink :: rest, goesOn, ran => by
      rw [anyCancels, Bool.or_eq_false_iff] at goesOn
      rw [tellAll] at ran
      rcases Act.leads_outcome_bind.1 ran with ⟨ended, middle, first, ran⟩
      have settles := (tell_leads sink first).2.2
      rw [goesOn.1] at settles
      have counted := metrics_of_tell sink goesOn.1 first
      rw [countersAll, countedTimes_add, ← counted]
      cases ended with
      | ok _ =>
          rw [settle, pure_bind] at ran
          exact metrics_of_tellAll rest goesOn.2 ran
      | error ending =>
          rw [settle, settles ending rfl, if_neg (by simp), Act.leads_log_bind] at ran
          rw [metrics_of_tellAll rest goesOn.2 ran, World.metrics_logged]

end

end Sink

/-- The comparison of runs that count what they are told since a given world. -/
def Comparison.counting (host : Host) (start : World) : Comparison :=
  (unheard host).fitting fun account _ => ∃ events : List Event,
    account.told = start.told ++ events ∧
    account.metrics = start.metrics.counting (events.map Event.saying)

namespace Provisioner

variable {provisioner : Provisioner} {spec : Spec} {host : Host} {before after : World}

/-- What a sink that counts once is told, it counts. -/
theorem metrics_of_told {sink : Sink} (counts : sink.CountsOnce) {source : String}
    {kind : EventKind} {details : List Field} {outcome : Except Ending Unit}
    (ran : (tell sink source kind details).Leads host before outcome after) :
    ∃ event, after.told = before.told ++ [event] ∧
      after.metrics = (before.metrics.count event).1 := by
  refine ⟨_, (tell_leads ran).2.1, ?_⟩
  rw [tell, Act.leads_bind_of_ok (nextEvent_leads host before source kind details)] at ran
  generalize event host before source kind details = event at ran ⊢
  rcases Act.leads_outcome_bind.1 ran with ⟨ended, middle, told, ran⟩
  have settles := (Sink.tell_leads sink told).2.2
  rw [counts.quiet] at settles
  have counted := Sink.metrics_of_tell sink (counts.quiet event) told
  rw [counts.once] at counted
  cases ended with
  | ok _ =>
      rcases Act.leads_pure.1 ran with ⟨_, rfl⟩
      exact counted
  | error ending =>
      simp only [settles ending rfl, Bool.false_eq_true, ↓reduceIte] at ran
      rcases Act.leads_log.1 ran with ⟨_, rfl⟩
      rw [World.metrics_logged]
      exact counted

open Comparison

theorem metrics_of_provision {outcome : Except Ending Report}
    (counts : provisioner.sink.CountsOnce)
    (ran : (provisioner.provision spec).Leads host before outcome after) :
    ∃ events, after.told = before.told ++ events ∧
      after.metrics = before.metrics.counting (events.map Event.saying) := by
  have told : TellAlike (Comparison.counting host before) provisioner.sink provisioner.sink := by
    apply tellAlike_of_quiet counts.quiet counts.quiet
    intro source kind details left right leftAfter rightAfter alike ran _
    rcases alike.account with ⟨events, toldBefore, countedBefore⟩
    rcases metrics_of_told counts ran with ⟨event, toldNow, countedNow⟩
    refine ⟨events ++ [event], ?_, ?_⟩
    · exact toldNow.trans (by rw [← List.append_assoc]; exact congrArg (· ++ [event]) toldBefore)
    · rw [List.map_append, Metrics.counting_append, ← countedBefore]
      exact countedNow
  have start : (Comparison.counting host before).Alike before before :=
    ⟨rfl, rfl, rfl, rfl, rfl, [], (List.append_nil _).symm, rfl⟩
  rcases (agree_provision provisioner spec told rfl).leads start ran with ⟨_, _, alike⟩
  exact alike.account

end Provisioner

end Toolset
