import Toolset.Proofs.Acceptance
import Toolset.Proofs.Metering

/-!
# What is counted of many runs

Runs that share their counts, one after another, add up.  For each source there is one
count for each run that returned a report and one for each that failed, by the step that
failed; one for each tool that was installed, also in runs that were called off or broke
off; and one for each report and each failure that tells of a workspace left behind.
-/

namespace Toolset

open Provisioner (leftover? sourceSayings attemptSayings closingSayings cleanupSayings)

/-- A run that is to be made. -/
structure Task where
  provisioner : Provisioner
  spec : Spec
  host : Host

/-- A run that was made: what it attempted, how it ended, and what it told. -/
structure Past where
  spec : Spec
  attempts : List Attempt
  outcome : Except Ending Report
  told : List Event

/-- Runs one after another, and what became of each. -/
inductive History : World → List Task → List Past → World → Prop where
  | nil (world : World) : History world [] [] world
  | cons {before middle after : World} {task : Task} {attempts : List Attempt}
      {outcome : Except Ending Report} {told : List Event} {tasks : List Task}
      {pasts : List Past} :
      (task.provisioner.provision task.spec).Leads task.host before outcome middle →
      task.provisioner.Recounted task.spec task.host before middle outcome attempts told →
      History middle tasks pasts after →
      History before (task :: tasks) (⟨task.spec, attempts, outcome, told⟩ :: pasts) after

/-- However many runs are to be made, they are made, unless a sink calls one off. -/
theorem exists_history {tasks : List Task}
    (quiet : ∀ task ∈ tasks, task.provisioner.sink.IsQuiet) (before : World) :
    ∃ pasts after, History before tasks pasts after := by
  induction tasks generalizing before with
  | nil => exact ⟨[], before, .nil before⟩
  | cons task rest ih =>
      rw [List.forall_mem_cons] at quiet
      rcases (task.provisioner.provision task.spec).exists_leads task.host before with
        ⟨outcome, middle, ran⟩
      rcases Provisioner.recounted_of_quiet quiet.1 ran with ⟨attempts, told, recounted⟩
      rcases ih quiet.2 middle with ⟨pasts, after, history⟩
      exact ⟨_, after, .cons ran recounted history⟩

namespace Past

variable {past : Past}

/-- What the run said. -/
def sayings (past : Past) : List Saying := past.told.map Event.saying

/-- How the run failed, if it did. -/
def failure? (past : Past) : Option Failure :=
  match past.outcome with
  | .error (.failed failure _) => some failure
  | _ => none

/-- How the run is counted. One that was called off or that broke off is not. -/
def run? (past : Past) : Option (String × RunResult) :=
  match past.outcome with
  | .ok _ => some (past.spec.source, .success)
  | .error (.failed _ _) => some (past.spec.source, .failure)
  | .error _ => none

/-- The step that is counted of a run that failed. -/
def stepFailure? (past : Past) : Option (String × String) :=
  past.failure?.map fun failure => (past.spec.source, failure.step)

/-- The source that is counted of a run whose end tells of a workspace left behind. -/
def cleanupWarning? (past : Past) : Option String :=
  (leftover? past.outcome).map fun _ => past.spec.source

/-- The duration that the run reported. -/
def timed? (past : Past) : Option (String × Float) :=
  match past.outcome with
  | .ok report => some (past.spec.source, report.duration)
  | .error _ => none

/-- The duration that the run reported for a source. -/
def durationOf? (source : String) (past : Past) : Option Float :=
  past.timed?.bind (Saying.forSource? source)

/-- How many tools the run installed. -/
def installs (past : Past) : Nat := past.attempts.countP Attempt.succeeded

/-- The run was one for a source, and it returned a report. -/
def reports (source : String) (past : Past) : Bool :=
  past.spec.source == source && past.outcome.isOk

/-- The run was one for a source, and it failed. -/
def fails (source : String) (past : Past) : Bool :=
  past.spec.source == source && past.failure?.isSome

/-- The run was one for a source, and it failed in a step. -/
def failsIn (source step : String) (past : Past) : Bool :=
  past.spec.source == source && past.failure?.any fun failure => failure.step == step

/-- The run was one for a source, and its report or its failure tells of a workspace that was
left behind. -/
def warns (source : String) (past : Past) : Bool :=
  past.spec.source == source && (leftover? past.outcome).isSome

/-- The duration that the run reported, if it did, is a number. -/
def IsTimed (past : Past) : Prop :=
  ∀ report, past.outcome = .ok report → report.duration.isNaN = false

/-- The run said what is said of its source, of its attempts and of its end. -/
def Spoken (past : Past) : Prop :=
  ∃ opening, (opening = [] ∨ ∃ fetch, opening = sourceSayings past.spec fetch) ∧
    past.sayings = opening ++ past.attempts.flatMap (attemptSayings past.spec) ++
      closingSayings past.spec past.outcome

end Past

/-! ## What is counted of one run -/

/-- Sayings that tell of steps for a source, some number of which installed a tool. -/
structure TellOfSteps (source : String) (sayings : List Saying) (installs : Nat) : Prop where
  kinds : ∀ saying ∈ sayings, saying.kind = .stepStarted ∨ saying.kind = .stepCompleted
  tools : sayings.filterMap Saying.tool? = List.replicate installs source

theorem tellOfSteps_nil (source : String) : TellOfSteps source [] 0 := ⟨by simp, rfl⟩

theorem TellOfSteps.append {source : String} {first second : List Saying} {n m : Nat}
    (some : TellOfSteps source first n) (more : TellOfSteps source second m) :
    TellOfSteps source (first ++ second) (n + m) where
  kinds := List.forall_mem_append.2 ⟨some.kinds, more.kinds⟩
  tools := by rw [List.filterMap_append, some.tools, more.tools, List.replicate_append_replicate]

theorem tellOfSteps_sourceSayings (spec : Spec) (fetch : Option (Except Ending Unit)) :
    TellOfSteps spec.source (sourceSayings spec fetch) 0 := by
  rcases fetch with _ | _ | _ <;> exact ⟨by simp [sourceSayings], rfl⟩

theorem tellOfSteps_attemptSayings (spec : Spec) (attempts : List Attempt) :
    TellOfSteps spec.source (attempts.flatMap (attemptSayings spec))
      (attempts.countP Attempt.succeeded) := by
  induction attempts with
  | nil => exact tellOfSteps_nil spec.source
  | cons attempt rest ih =>
      have one : TellOfSteps spec.source (attemptSayings spec attempt)
          (if attempt.succeeded then 1 else 0) := by
        rw [attemptSayings]
        cases attempt.succeeded <;> exact ⟨by simp, rfl⟩
      rw [List.flatMap_cons, List.countP_cons, Nat.add_comm]
      exact one.append ih

/-- What counts nothing of a step counts nothing of sayings that tell of steps. -/
theorem TellOfSteps.filterMap_eq_nil {κ : Type} {source : String} {sayings : List Saying} {n : Nat}
    (steps : TellOfSteps source sayings n) {key? : Saying → Option κ}
    (uncounted : ∀ saying, saying.kind = .stepStarted ∨ saying.kind = .stepCompleted →
      key? saying = none) :
    sayings.filterMap key? = [] :=
  List.filterMap_eq_nil_iff.2 fun saying member => uncounted saying (steps.kinds saying member)

namespace Past

variable {past : Past} {source : String}

/-- What is counted of the sayings of a run is what the run did. -/
structure Counted (past : Past) : Prop where
  run? : past.sayings.filterMap Saying.run? = past.run?.toList
  stepFailure? : past.sayings.filterMap Saying.stepFailure? = past.stepFailure?.toList
  tool? : past.sayings.filterMap Saying.tool? = List.replicate past.installs past.spec.source
  cleanupWarning? : past.sayings.filterMap Saying.cleanupWarning? = past.cleanupWarning?.toList
  timed? : past.sayings.filterMap Saying.timed? = past.timed?.toList

theorem Spoken.counted (spoken : past.Spoken) : past.Counted := by
  rcases past with ⟨spec, attempts, outcome, told⟩
  rcases spoken with ⟨opening, parts, said⟩
  have opens : TellOfSteps spec.source opening 0 := by
    rcases parts with rfl | ⟨fetch, rfl⟩
    · exact tellOfSteps_nil _
    · exact tellOfSteps_sourceSayings spec fetch
  have steps := opens.append (tellOfSteps_attemptSayings spec attempts)
  -- what counts nothing of a step counts only the end of the run
  have ends {κ : Type} {key? : Saying → Option κ}
      (uncounted : ∀ saying, saying.kind = .stepStarted ∨ saying.kind = .stepCompleted →
        key? saying = none) :
      (sayings ⟨spec, attempts, outcome, told⟩).filterMap key? =
        (closingSayings spec outcome).filterMap key? := by
    rw [said, List.filterMap_append, steps.filterMap_eq_nil uncounted, List.nil_append]
  have runs := @ends _ Saying.run? (by rintro ⟨kind, _, _⟩ (rfl | rfl) <;> rfl)
  have failures := @ends _ Saying.stepFailure? (by rintro ⟨kind, _, _⟩ (rfl | rfl) <;> rfl)
  have warnings := @ends _ Saying.cleanupWarning? (by rintro ⟨kind, _, _⟩ (rfl | rfl) <;> rfl)
  have durations := @ends _ Saying.timed? (by rintro ⟨kind, _, _⟩ (rfl | rfl) <;> rfl)
  have tools : (sayings ⟨spec, attempts, outcome, told⟩).filterMap Saying.tool? =
      List.replicate (attempts.countP Attempt.succeeded) spec.source ++
        (closingSayings spec outcome).filterMap Saying.tool? := by
    rw [said, List.filterMap_append, steps.tools, Nat.zero_add]
  cases outcome with
  | ok report =>
      rcases report with ⟨_, _, cleanup, _⟩
      cases cleanup <;>
        exact ⟨runs, failures, tools.trans (List.append_nil _), warnings, durations⟩
  | error ending =>
      cases ending with
      | failed failure cleanup =>
          cases cleanup <;>
            exact ⟨runs, failures, tools.trans (List.append_nil _), warnings, durations⟩
      | _ => exact ⟨runs, failures, tools.trans (List.append_nil _), warnings, durations⟩

theorem run?_eq_success_iff :
    past.run? = some (source, .success) ↔ past.reports source = true := by
  rcases past with ⟨spec, _, (_ | _) | _, _⟩ <;>
    simp [run?, reports, Except.isOk, Except.toBool]

theorem run?_eq_failure_iff :
    past.run? = some (source, .failure) ↔ past.fails source = true := by
  rcases past with ⟨spec, _, (_ | _) | _, _⟩ <;> simp [run?, fails, failure?]

theorem stepFailure?_eq_some_iff {step : String} :
    past.stepFailure? = some (source, step) ↔ past.failsIn source step = true := by
  rw [stepFailure?, failsIn]
  cases past.failure? <;> simp

theorem cleanupWarning?_eq_some_iff :
    past.cleanupWarning? = some source ↔ past.warns source = true := by
  rw [cleanupWarning?, warns]
  cases leftover? past.outcome <;> simp

theorem isSome_durationOf? : (past.durationOf? source).isSome = past.reports source := by
  rcases past with ⟨spec, _, _ | report, _⟩
  · simp [durationOf?, timed?, reports, Except.isOk, Except.toBool]
  · by_cases same : spec.source = source <;>
      simp [durationOf?, timed?, reports, Saying.forSource?, Except.isOk, Except.toBool, same]

theorem IsTimed.isNaN_eq {x : Float} (timed : past.IsTimed)
    (reported : past.durationOf? source = some x) : x.isNaN = false := by
  rcases past with ⟨spec, _, _ | report, _⟩
  · cases reported
  · simp only [durationOf?, timed?, Option.bind_some, Saying.forSource?,
      Option.ite_none_right_eq_some, Option.some.injEq] at reported
    rw [← reported.2]
    exact timed report rfl

end Past

/-! ## What is counted of all runs -/

variable {before after : World} {tasks : List Task} {pasts : List Past}

theorem History.counting (history : History before tasks pasts after)
    (counts : ∀ task ∈ tasks, task.provisioner.sink.CountsOnce) :
    after.metrics = before.metrics.counting (pasts.flatMap Past.sayings) := by
  induction history with
  | nil => rfl
  | cons ran recounted _ ih =>
      rw [List.forall_mem_cons] at counts
      rcases Provisioner.metrics_of_provision counts.1 ran with ⟨events, told, counted⟩
      rw [recounted.added] at told
      cases List.append_cancel_left told
      rw [ih counts.2, counted, List.flatMap_cons, Metrics.counting_append]
      rfl

theorem History.spoken (history : History before tasks pasts after) :
    ∀ past ∈ pasts, past.Spoken := by
  induction history with
  | nil => simp
  | cons _ recounted _ ih => exact List.forall_mem_cons.2 ⟨recounted.said, ih⟩

/-- What is counted of several runs is what is counted of each. -/
theorem filterMap_sayings {κ : Type} {key? : Saying → Option κ} {keys : Past → List κ}
    (each : ∀ past ∈ pasts, past.sayings.filterMap key? = keys past) :
    (pasts.flatMap Past.sayings).filterMap key? = pasts.flatMap keys := by
  rw [List.filterMap_flatMap]
  exact List.flatMap_congr each

theorem filterMap_sayings_of_option {κ : Type} {key? : Saying → Option κ} {key : Past → Option κ}
    (each : ∀ past ∈ pasts, past.sayings.filterMap key? = (key past).toList) :
    (pasts.flatMap Past.sayings).filterMap key? = pasts.filterMap key := by
  rw [filterMap_sayings each, List.filterMap_eq_flatMap_toList]

/-- What runs one after another add up to for a source. -/
structure Totals (metrics : Metrics) (pasts : List Past) (source : String) : Prop where
  reported : metrics.runs.count (source, .success) = pasts.countP (Past.reports source)
  failed : metrics.runs.count (source, .failure) = pasts.countP (Past.fails source)
  failedIn : ∀ step,
    metrics.stepFailures.count (source, step) = pasts.countP (Past.failsIn source step)
  /-- The failures of all steps are as many as the runs that failed. -/
  steps : metrics.stepFailures.total (fun key => key.1 == source) =
    pasts.countP (Past.fails source)
  /-- All tools that were installed count, also those of runs that did not report. -/
  tools : metrics.toolsInstalled.count source =
    ((pasts.filter fun past => past.spec.source == source).flatMap Past.attempts).countP
      Attempt.succeeded
  warnings : metrics.cleanupWarnings.count source = pasts.countP (Past.warns source)
  timed : (∀ past ∈ pasts, past.IsTimed) →
    (metrics.durationsOf source).count = pasts.countP (Past.reports source)
  /-- Each series shows its count. -/
  shown : metrics.Shown source
  shownTimed : (∀ past ∈ pasts, past.IsTimed) →
    metrics.sampled "provision_run_duration_seconds_count" [("source", source)] =
      Metrics.series (pasts.countP (Past.reports source))

theorem count_installs (pasts : List Past) (source : String) :
    (pasts.flatMap fun past => List.replicate past.installs past.spec.source).count source =
      ((pasts.filter fun past => past.spec.source == source).flatMap Past.attempts).countP
        Attempt.succeeded := by
  induction pasts with
  | nil => rfl
  | cons past rest ih =>
      rw [List.flatMap_cons, List.count_append, ih, List.count_replicate, List.filter_cons]
      cases past.spec.source == source with
      | true => simp [Past.installs]
      | false => simp

/-- The durations that are counted for a source are those that its runs reported. -/
theorem filterMap_durationOf? (counted : ∀ past ∈ pasts, past.Counted) (source : String) :
    (pasts.flatMap Past.sayings).filterMap (Saying.durationOf? source) =
      pasts.filterMap (Past.durationOf? source) := by
  have durations := filterMap_sayings_of_option fun past member => (counted past member).timed?
  calc (pasts.flatMap Past.sayings).filterMap (Saying.durationOf? source)
    _ = ((pasts.flatMap Past.sayings).filterMap Saying.timed?).filterMap
          (Saying.forSource? source) := List.filterMap_filterMap.symm
    _ = (pasts.filterMap Past.timed?).filterMap (Saying.forSource? source) := by rw [durations]
    _ = pasts.filterMap (Past.durationOf? source) := List.filterMap_filterMap

theorem length_filterMap_durationOf? (pasts : List Past) (source : String) :
    (pasts.filterMap (Past.durationOf? source)).length = pasts.countP (Past.reports source) := by
  rw [List.length_filterMap_eq_countP]
  exact List.countP_congr fun past _ => by rw [Past.isSome_durationOf?]

theorem isNaN_of_timed (timed : ∀ past ∈ pasts, past.IsTimed) (source : String) :
    ∀ x ∈ pasts.filterMap (Past.durationOf? source), x.isNaN = false := by
  intro x member
  obtain ⟨past, among, reported⟩ := List.mem_filterMap.1 member
  exact (timed past among).isNaN_eq reported

theorem count_durationsOf (counted : ∀ past ∈ pasts, past.Counted)
    (timed : ∀ past ∈ pasts, past.IsTimed) (source : String) :
    ((Metrics.counting {} (pasts.flatMap Past.sayings)).durationsOf source).count =
      pasts.countP (Past.reports source) := by
  rw [Metrics.durationsOf_counting, filterMap_durationOf? counted, ← length_filterMap_durationOf?]
  exact Histogram.count_observeAll_of_numbers (isNaN_of_timed timed source)

theorem sampled_durationCount_of_timed (counted : ∀ past ∈ pasts, past.Counted)
    (timed : ∀ past ∈ pasts, past.IsTimed) (source : String) :
    (Metrics.counting {} (pasts.flatMap Past.sayings)).sampled
        "provision_run_duration_seconds_count" [("source", source)] =
      Metrics.series (pasts.countP (Past.reports source)) := by
  have numbers := isNaN_of_timed timed source
  rw [← length_filterMap_durationOf?]
  rw [← filterMap_durationOf? counted] at numbers ⊢
  exact Metrics.sampled_durationCount_counting numbers

/-- Runs whose sinks count once add up, from nothing on. -/
theorem History.totals (history : History before tasks pasts after)
    (counts : ∀ task ∈ tasks, task.provisioner.sink.CountsOnce) (fresh : before.metrics = {})
    (source : String) : Totals after.metrics pasts source := by
  have counted (past : Past) (member : past ∈ pasts) := (history.spoken past member).counted
  have runs := filterMap_sayings_of_option fun past member => (counted past member).run?
  have failures := filterMap_sayings_of_option fun past member => (counted past member).stepFailure?
  have tools := filterMap_sayings fun past member => (counted past member).tool?
  have warnings :=
    filterMap_sayings_of_option fun past member => (counted past member).cleanupWarning?
  rw [history.counting counts, fresh]
  constructor
  case reported =>
    rw [Metrics.runs_counting, runs, Tally.count_bumpAll_filterMap]
    refine (Nat.zero_add _).trans (List.countP_congr fun past _ => ?_)
    rw [decide_eq_true_iff, Past.run?_eq_success_iff]
  case failed =>
    rw [Metrics.runs_counting, runs, Tally.count_bumpAll_filterMap]
    refine (Nat.zero_add _).trans (List.countP_congr fun past _ => ?_)
    rw [decide_eq_true_iff, Past.run?_eq_failure_iff]
  case failedIn =>
    intro step
    rw [Metrics.stepFailures_counting, failures, Tally.count_bumpAll_filterMap]
    refine (Nat.zero_add _).trans (List.countP_congr fun past _ => ?_)
    rw [decide_eq_true_iff, Past.stepFailure?_eq_some_iff]
  case steps =>
    rw [Metrics.stepFailures_counting, Tally.proper_empty.total_bumpAll, failures,
      List.countP_filterMap]
    refine (Nat.zero_add _).trans (List.countP_congr fun past _ => ?_)
    rw [Past.stepFailure?, Past.fails]
    cases past.failure? <;> simp
  case tools =>
    rw [Metrics.toolsInstalled_counting, Tally.count_bumpAll, tools, count_installs]
    exact Nat.zero_add _
  case warnings =>
    rw [Metrics.cleanupWarnings_counting, warnings, Tally.count_bumpAll_filterMap]
    refine (Nat.zero_add _).trans (List.countP_congr fun past _ => ?_)
    rw [decide_eq_true_iff, Past.cleanupWarning?_eq_some_iff]
  case timed => exact fun timed => count_durationsOf counted timed source
  case shown => exact Metrics.shown_counting _ source
  case shownTimed => exact fun timed => sampled_durationCount_of_timed counted timed source

/-- However many runs share their counts through sinks that count once, what is counted in the
end is what the runs come to: the runs by how they ended, the failures by their step, the
tools that were installed, the workspaces that were left behind, and the durations. -/
theorem exists_totals {tasks : List Task} {before : World}
    (counts : ∀ task ∈ tasks, task.provisioner.sink.CountsOnce) (fresh : before.metrics = {}) :
    ∃ pasts after, History before tasks pasts after ∧
      ∀ source, Totals after.metrics pasts source := by
  rcases exists_history (fun task member => (counts task member).quiet) before with
    ⟨pasts, after, history⟩
  exact ⟨pasts, after, history, history.totals counts fresh⟩

theorem exists_totals_twice :
    ∃ pasts after, History {} (.replicate 2 ⟨Provisioner.sample.toldTo .counter, .sample, .quiet⟩)
        pasts after ∧
      ∀ source, Totals after.metrics pasts source := by
  apply exists_totals _ rfl
  intro task member
  rw [List.eq_of_mem_replicate member]
  exact Sink.countsOnce_counter

end Toolset
