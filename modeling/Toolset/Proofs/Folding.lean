import Toolset.Proofs.Buckets
import Toolset.Proofs.Delivery
import Toolset.Proofs.Metering

/-!
# Events as counts

What a counter comes to after events depends on what they say and how often, and not on their
order.  Each series of a source shows how many of the events of that source count for it, and
is not there before the first of them.
-/

namespace Toolset

namespace Event

/-- The step that an event names. -/
def step? (event : Event) : Option String :=
  match event.detail? "step" with
  | some (.text step) => some step
  | _ => none

/-- The duration that an event names, as a number. -/
def seconds? (event : Event) : Option Float :=
  match event.detail? "duration_seconds" with
  | none | some .null => none
  | some value => (Metrics.number value).toOption

/-- An event whose step is a text and whose duration is a number, if it names them. -/
structure Countable (event : Event) : Prop where
  step : event.detail? "step" = none ∨ ∃ text, event.detail? "step" = some (.text text)
  duration : event.detail? "duration_seconds" = none ∨
    event.detail? "duration_seconds" = some .null ∨
    ∃ value x, event.detail? "duration_seconds" = some value ∧ Metrics.number value = .ok x ∧
      x.isNaN = false

end Event

namespace Metrics

/-- The durations of the runs of a source that were completed. -/
def timesOf (source : String) (events : List Event) : List Float :=
  (events.filter fun event => event.kind = .completion ∧ event.source = source).filterMap
    Event.seconds?

/-- The series of a source show how many of the events count for them. -/
structure Folded (metrics : Metrics) (events : List Event) (source : String) : Prop where
  toolsInstalled : metrics.sampled "provision_tools_installed_total" [("source", source)] =
    series (events.countP fun event =>
      event.kind = .stepCompleted ∧ event.source = source ∧ event.step? = some "install")
  stepFailures : ∀ step,
    metrics.sampled "provision_step_failures_total" [("source", source), ("step", step)] =
      series (events.countP fun event =>
        event.kind = .error ∧ event.source = source ∧ event.step?.getD "unknown" = step)
  failures :
    metrics.sampled "provision_runs_total" [("result", "failure"), ("source", source)] =
      series (events.countP fun event => event.kind = .error ∧ event.source = source)
  successes :
    metrics.sampled "provision_runs_total" [("result", "success"), ("source", source)] =
      series (events.countP fun event => event.kind = .completion ∧ event.source = source)
  cleanupWarnings : metrics.sampled "provision_cleanup_warnings_total" [("source", source)] =
    series (events.countP fun event => event.kind = .cleanupWarning ∧ event.source = source)
  durationCount :
    metrics.sampled "provision_run_duration_seconds_count" [("source", source)] =
      series (timesOf source events).length
  /-- All buckets are there once there is a duration, also those that hold none. -/
  buckets : ∀ bound ∈ durationBounds,
    metrics.sampled "provision_run_duration_seconds_bucket"
        [("le", boundLabel bound), ("source", source)] =
      if timesOf source events = [] then none
      else some (sampleValue ((timesOf source events).countP fun x => x ≤ bound))

/-- The counters and buckets of a source. -/
inductive IsSeries (source : String) : String → List (String × String) → Prop where
  | toolsInstalled : IsSeries source "provision_tools_installed_total" [("source", source)]
  | stepFailures (step : String) :
      IsSeries source "provision_step_failures_total" [("source", source), ("step", step)]
  | runs (result : RunResult) :
      IsSeries source "provision_runs_total" [("result", result.name), ("source", source)]
  | cleanupWarnings : IsSeries source "provision_cleanup_warnings_total" [("source", source)]
  | durationCount : IsSeries source "provision_run_duration_seconds_count" [("source", source)]
  | bucket {bound : Float} (isBound : bound ∈ durationBounds) :
      IsSeries source "provision_run_duration_seconds_bucket"
        [("le", boundLabel bound), ("source", source)]

/-! ## What is counted of an event -/

variable {source : String} {events : List Event}

/-- What a tally counts of events under a key is how many events have that key. -/
theorem count_sayings {κ : Type} [DecidableEq κ] (key? : Saying → Option κ) (key : κ)
    {counts : Event → Bool}
    (same : ∀ event ∈ events, key? event.saying = some key ↔ counts event = true) :
    (({} : Tally κ).bumpAll ((events.map Event.saying).filterMap key?)).count key =
      events.countP counts := by
  rw [Tally.count_bumpAll_filterMap, List.countP_map]
  refine (Nat.zero_add _).trans (List.countP_congr fun event member => ?_)
  rw [Function.comp_apply, decide_eq_true_iff]
  exact same event member

theorem tellsOfTool_eq (event : Event) :
    tellsOfTool event = decide (event.step? = some "install") := by
  rw [tellsOfTool, Event.step?]
  generalize event.detail? "step" = named
  cases named with
  | none => rfl
  | some value => cases value <;> simp [beq_eq_decide]

theorem failedStep_of_countable {event : Event} (countable : event.Countable) :
    failedStep event = event.step?.getD "unknown" := by
  rw [failedStep, Event.step?]
  rcases countable.step with absent | ⟨text, there⟩
  · rw [absent]
    rfl
  · rw [there]
    rfl

theorem toOption_duration? (event : Event) :
    ((duration? event).bind fun value => (number value).toOption) = event.seconds? := by
  rw [duration?, Event.seconds?]
  generalize event.detail? "duration_seconds" = named
  cases named with
  | none => rfl
  | some value => cases value <;> rfl

theorem durationOf?_saying (event : Event) (source : String) :
    event.saying.durationOf? source =
      if event.kind = .completion ∧ event.source = source then event.seconds? else none := by
  have named : event.saying.duration? =
      if event.kind = .completion then event.seconds? else none := by
    rw [← toOption_duration? event, Saying.duration?]
    rcases event with ⟨kind, _⟩
    cases kind <;> rfl
  rw [Saying.durationOf?, Saying.timed?, named]
  by_cases completed : event.kind = .completion
  · cases event.seconds? <;> simp [completed, Saying.forSource?, Event.saying]
  · simp [completed]

theorem filterMap_durationOf?_sayings (events : List Event) (source : String) :
    (events.map Event.saying).filterMap (Saying.durationOf? source) = timesOf source events := by
  rw [timesOf, List.filterMap_map, List.filterMap_filter]
  apply List.filterMap_congr
  intro event _
  rw [Function.comp_apply, durationOf?_saying]
  simp only [decide_eq_true_eq]

/-! ## Durations that are counted -/

theorem numbers_of_countable (countable : ∀ event ∈ events, event.Countable) (source : String) :
    ∀ x ∈ timesOf source events, x.isNaN = false := by
  intro x member
  rcases List.mem_filterMap.1 member with ⟨event, among, timed⟩
  rw [Event.seconds?] at timed
  rcases (countable event (List.mem_filter.1 among).1).duration with absent | nothing | isNumber
  · rw [absent] at timed
    cases timed
  · rw [nothing] at timed
    cases timed
  · rcases isNumber with ⟨value, y, there, isNumber, notNaN⟩
    rw [there] at timed
    cases value with
    | null => cases timed
    | _ =>
        simp only [isNumber, Except.toOption, Option.some.injEq] at timed
        rw [← timed]
        exact notNaN

/-! ## What events come to -/

/-- Whatever events can be counted, the series of each source show how many count for them. -/
theorem folded_counting (countable : ∀ event ∈ events, event.Countable) (source : String) :
    Folded (counting {} (events.map Event.saying)) events source := by
  have shown := shown_counting (events.map Event.saying) source
  have distinct := hasDistinctSources_empty.counting (events.map Event.saying)
  have found := lookup_durations_counting (events.map Event.saying)
  simp only [filterMap_durationOf?_sayings] at found
  constructor
  case toolsInstalled =>
    rw [shown.toolsInstalled, toolsInstalled_counting, count_sayings]
    intro event _
    have told : tellsOfTool event.saying.event = decide (event.step? = some "install") :=
      tellsOfTool_eq event
    rw [Saying.tool?, told]
    rcases event with ⟨kind, _⟩
    cases kind <;> simp [Event.saying, and_comm]
  case stepFailures =>
    intro step
    rw [shown.stepFailures, stepFailures_counting, count_sayings]
    intro event member
    have failed := failedStep_of_countable (countable event member)
    change failedStep event.saying.event = _ at failed
    rw [Saying.stepFailure?, failed]
    rcases event with ⟨kind, _⟩
    cases kind <;> simp [Event.saying]
  case failures =>
    have failed := shown.runs .failure
    rw [RunResult.name] at failed
    rw [failed, runs_counting, count_sayings]
    intro event _
    rcases event with ⟨kind, _⟩
    cases kind <;> simp [Saying.run?, Event.saying]
  case successes =>
    have reported := shown.runs .success
    rw [RunResult.name] at reported
    rw [reported, runs_counting, count_sayings]
    intro event _
    rcases event with ⟨kind, _⟩
    cases kind <;> simp [Saying.run?, Event.saying]
  case cleanupWarnings =>
    rw [shown.cleanupWarnings, cleanupWarnings_counting, count_sayings]
    intro event _
    rcases event with ⟨kind, _⟩
    cases kind <;> simp [Saying.cleanupWarning?, Event.saying]
  case durationCount =>
    have numbers := numbers_of_countable countable source
    rw [← filterMap_durationOf?_sayings] at numbers ⊢
    exact sampled_durationCount_counting numbers
  case buckets =>
    intro bound isBound
    let upTo (source : String) (bound : Float) : Nat :=
      (timesOf source events).countP fun x => x ≤ bound
    have counted : ∀ entry ∈ (counting {} (events.map Event.saying)).durations,
        entry.2.cumulative = durationBounds.map (upTo entry.1) := by
      intro entry member
      have looked := (mem_entries_iff distinct).1 member
      rw [found] at looked
      split at looked
      · cases looked
      · rw [← Option.some.inj looked, Histogram.cumulative_observeAll]
    rw [sampled_bucket distinct isBound counted source, found]
    split <;> rfl

/-- Events of a source count alike in any order and among any events of other sources. -/
theorem Folded.eq_of_perm {first second : Metrics} {others : List Event}
    (folded : Folded first events source) (foldedToo : Folded second others source)
    (same : (events.filter fun event => event.source = source).Perm
      (others.filter fun event => event.source = source))
    {name : String} {labels : List (String × String)} (isSeries : IsSeries source name labels) :
    first.sampled name labels = second.sampled name labels := by
  have count (counts : Event → Bool) (own : ∀ event, counts event = true → event.source = source) :
      events.countP counts = others.countP counts := by
    have whole (events : List Event) :
        events.countP counts =
          (events.filter fun event => event.source = source).countP counts := by
      rw [List.countP_filter]
      refine List.countP_congr fun event _ => ?_
      rw [Bool.and_eq_true, decide_eq_true_iff]
      exact ⟨fun counted => ⟨counted, own event counted⟩, And.left⟩
    rw [whole, whole others, same.countP_eq]
  have times : (timesOf source events).Perm (timesOf source others) := by
    have whole (events : List Event) : timesOf source events =
        ((events.filter fun event => event.source = source).filter fun event =>
          event.kind = .completion).filterMap Event.seconds? := by
      rw [List.filter_filter, timesOf]
      simp only [Bool.decide_and]
    rw [whole, whole others]
    exact (same.filter _).filterMap _
  cases isSeries with
  | toolsInstalled =>
      rw [folded.toolsInstalled, foldedToo.toolsInstalled, count _ (by simp +contextual)]
  | stepFailures step =>
      rw [folded.stepFailures, foldedToo.stepFailures, count _ (by simp +contextual)]
  | runs result =>
      cases result with
      | success =>
          have first := folded.successes
          rw [count _ (by simp +contextual), ← foldedToo.successes] at first
          exact first
      | failure =>
          have first := folded.failures
          rw [count _ (by simp +contextual), ← foldedToo.failures] at first
          exact first
  | cleanupWarnings =>
      rw [folded.cleanupWarnings, foldedToo.cleanupWarnings, count _ (by simp +contextual)]
  | durationCount => rw [folded.durationCount, foldedToo.durationCount, times.length_eq]
  | bucket isBound =>
      have none : timesOf source events = [] ↔ timesOf source others = [] := by
        rw [← List.length_eq_zero_iff, times.length_eq, List.length_eq_zero_iff]
      rw [folded.buckets _ isBound, foldedToo.buckets _ isBound, times.countP_eq]
      simp only [none]

/-- There are no series but the counters, the buckets and the sums of durations. -/
theorem isSeries_of_mem {metrics : Metrics} {sample : Sample} (member : sample ∈ metrics.samples) :
    ∃ source, IsSeries source sample.name sample.labels ∨
      sample.name = "provision_run_duration_seconds_sum" ∧
        sample.labels = [("source", source)] := by
  have listed : sample ∈ metrics.allSamples := (List.mergeSort_perm _ _).mem_iff.1 member
  rw [allSamples_eq] at listed
  simp only [List.mem_append, tallySamples, List.mem_map, List.mem_flatMap] at listed
  rcases listed with (((⟨entry, _, rfl⟩ | ⟨entry, _, rfl⟩) | ⟨entry, _, rfl⟩) | ⟨entry, _, rfl⟩) |
    ⟨⟨source, histogram⟩, _, there⟩
  · exact ⟨entry.1.1, .inl (.runs entry.1.2)⟩
  · exact ⟨entry.1.1, .inl (.stepFailures entry.1.2)⟩
  · exact ⟨entry.1, .inl .toolsInstalled⟩
  · exact ⟨entry.1, .inl .cleanupWarnings⟩
  · refine ⟨source, ?_⟩
    rw [histogramSamples, List.mem_append] at there
    rcases there with bucket | rest
    · rcases List.mem_map.1 bucket with ⟨⟨bound, n⟩, paired, rfl⟩
      exact .inl (.bucket (List.of_mem_zip paired).1)
    · simp only [List.mem_cons, List.not_mem_nil, or_false] at rest
      rcases rest with rfl | rfl
      · exact .inl .durationCount
      · exact .inr ⟨rfl, rfl⟩

end Metrics

namespace Sink

variable {host : Host} {before : World} {events : List Event}

theorem count_of_countable {event : Event} (countable : event.Countable) (metrics : Metrics) :
    (metrics.count event).2 = none := by
  have isNumber : ∀ value, Metrics.duration? event = some value →
      ∃ x, Metrics.number value = .ok x := by
    intro value named
    rw [Metrics.duration?] at named
    rcases countable.duration with absent | nothing | ⟨given, x, there, isNumber, _⟩
    · rw [absent] at named
      cases named
    · rw [nothing] at named
      cases named
    · rw [there] at named
      cases given <;> cases named <;> exact ⟨x, isNumber⟩
  rw [Metrics.count]
  split
  case h_4 =>
    cases named : Metrics.duration? event with
    | none => rfl
    | some value =>
        rcases isNumber value named with ⟨x, isNumber⟩
        simp only [isNumber]
  all_goals rfl

theorem countEvent_of_countable {event : Event} (countable : event.Countable) :
    (countEvent event).Leads host before (.ok ())
      { before with metrics := (before.metrics.count event).1 } := by
  have noProblem := count_of_countable countable before.metrics
  rw [countEvent, Act.leads_get_bind]
  generalize before.metrics.count event = counted at noProblem ⊢
  rcases counted with ⟨metrics, problem⟩
  rw [Act.leads_modify_bind]
  cases noProblem
  exact Act.leads_pure.2 ⟨rfl, rfl⟩

theorem tellEach_counter (countable : ∀ event ∈ events, event.Countable) (host : Host)
    (before : World) :
    (tellEach counter events).Leads host before (.ok (events.map fun _ => .ok ()))
      { before with metrics := before.metrics.counting (events.map Event.saying) } := by
  induction events generalizing before with
  | nil => exact Act.leads_pure.2 ⟨rfl, rfl⟩
  | cons event rest ih =>
      rw [List.forall_mem_cons] at countable
      have told : (tell event counter).Leads host before _ _ := countEvent_of_countable countable.1
      rw [tellEach, Act.leads_bind_of_ok (Act.leads_outcome told),
        Act.leads_bind_of_ok (ih countable.2 _)]
      exact Act.leads_pure.2 ⟨rfl, rfl⟩

/-- A counter that is told of events that can be counted, from nothing on, takes each of them,
does nothing but count, and shows in the series of each source how many count for them.  The
events of a source in another order, among whatever events of other sources, make the same
counters and buckets. -/
theorem tellEach_folds (countable : ∀ event ∈ events, event.Countable) (host : Host)
    (fresh : before.metrics = {}) :
    ∃ after, (tellEach counter events).Leads host before (.ok (events.map fun _ => .ok ())) after ∧
      { after with metrics := before.metrics } = before ∧
      (∀ source, Metrics.Folded after.metrics events source) ∧
      (∀ sample ∈ after.metrics.samples, ∃ source,
        Metrics.IsSeries source sample.name sample.labels ∨
          sample.name = "provision_run_duration_seconds_sum" ∧
            sample.labels = [("source", source)]) ∧
      ∀ others, (∀ event ∈ others, event.Countable) →
        ∀ host' before' outcome' after', before'.metrics = {} →
          (tellEach counter others).Leads host' before' outcome' after' →
          ∀ source, (events.filter fun event => event.source = source).Perm
              (others.filter fun event => event.source = source) →
            ∀ name labels, Metrics.IsSeries source name labels →
              after.metrics.sampled name labels = after'.metrics.sampled name labels := by
  refine ⟨_, tellEach_counter countable host before, rfl, ?_, fun sample => Metrics.isSeries_of_mem,
    ?_⟩
  · dsimp only
    rw [fresh]
    exact Metrics.folded_counting countable
  · intro others countableToo host' before' outcome' after' freshToo ran source same name labels
    rcases (tellEach_counter countableToo host' before').unique ran with ⟨_, rfl⟩
    dsimp only
    rw [fresh, freshToo]
    exact (Metrics.folded_counting countable source).eq_of_perm
      (Metrics.folded_counting countableToo source) same

/-- A tool that was installed and a run that took two seconds, around a failure of no step. -/
def sampleEvents : List Event :=
  [{ kind := .stepCompleted, source := "a", moment := default,
     details := [("step", .text "install")] },
   { kind := .error, source := "b", moment := default },
   { kind := .completion, source := "a", moment := default,
     details := [("duration_seconds", .real 2)] }]

theorem countable_sampleEvents : ∀ event ∈ sampleEvents, event.Countable := by
  simp only [sampleEvents, List.forall_mem_cons]
  exact ⟨⟨.inr ⟨_, rfl⟩, .inl rfl⟩, ⟨.inl rfl, .inl rfl⟩,
    ⟨.inl rfl, .inr (.inr ⟨_, 2, rfl, rfl, by decide +kernel⟩)⟩, List.forall_mem_nil _⟩

theorem tellEach_folds_sampleEvents :
    (∀ event ∈ sampleEvents, event.Countable) ∧ ({} : World).metrics = {} ∧
    ∃ after, (tellEach counter sampleEvents).Leads .quiet {} (.ok [.ok (), .ok (), .ok ()]) after ∧
      after.metrics.sampled "provision_step_failures_total" [("source", "b"), ("step", "unknown")] =
        Metrics.series 1 ∧
      after.metrics.sampled "provision_run_duration_seconds_bucket"
        [("le", Metrics.boundLabel 5), ("source", "a")] = some (Metrics.sampleValue 1) := by
  have fresh : ({} : World).metrics = {} := rfl
  refine ⟨countable_sampleEvents, fresh, ?_⟩
  rcases tellEach_folds countable_sampleEvents .quiet fresh with ⟨after, ran, _, folded, _⟩
  have held : (Metrics.timesOf "a" sampleEvents).countP (fun x => x ≤ 5) = 1 := by decide +kernel
  have bucket := (folded "a").buckets 5 (by simp [durationBounds])
  rw [if_neg (by decide), held] at bucket
  exact ⟨after, ran, (folded "b").stepFailures "unknown", bucket⟩

end Sink

end Toolset
