import Toolset.Proofs.ExitCodes
import Toolset.Proofs.Totals

/-!
# What a session pushes

A session with a gateway pushes its metrics once, after its run, however that ended.  The
samples that are pushed tell the same of the run as the exit code does.  Whether they can be
pushed makes no difference to anything but the log.
-/

namespace Toolset

/-- The deed is a push of metrics. -/
def Deed.isPush : Deed → Bool
  | .pushed _ _ => true
  | _ => false

theorem Deed.isPush_of_isProcess {deed : Deed} (process : deed.isProcess = true) :
    deed.isPush = false := by
  cases deed <;> first | rfl | cases process

/-- The number that a series shows among samples, if it is there. -/
def Sample.shownIn (samples : List Sample) (name : String) (labels : List (String × String)) :
    Option Float :=
  (samples.find? fun sample => sample.name == name && sample.labels == labels).map Sample.value

/-- A series shows one if something is so, and else is not there. -/
structure Sample.Marks (samples : List Sample) (name : String) (labels : List (String × String))
    (isSo : Prop) : Prop where
  there : isSo → Sample.shownIn samples name labels = some (Metrics.sampleValue 1)
  absent : ¬isSo → Sample.shownIn samples name labels = none

/-- A series of what was counted once or never. -/
theorem Metrics.marks_of_countP {past : Past} {counts : Past → Bool} {metrics : Metrics}
    {name : String} {labels : List (String × String)} {isSo : Prop}
    (shown : metrics.sampled name labels = series ([past].countP counts))
    (counted : counts past = true ↔ isSo) :
    Sample.Marks metrics.samples name labels isSo where
  there so := by
    refine shown.trans ?_
    rw [List.countP_singleton, if_pos (counted.2 so)]
    rfl
  absent unlike := by
    refine shown.trans ?_
    rw [List.countP_singleton, if_neg (mt counted.1 unlike)]
    rfl

namespace Provisioner

variable {provisioner : Provisioner} {spec : Spec} {host : Host} {before after : World}
  {outcome : Except Ending Report}

theorem unpushed_of_provision
    (ran : (provisioner.provision spec).Leads host before outcome after) :
    ∃ deeds, after.deeds = before.deeds ++ deeds ∧ ∀ deed ∈ deeds, deed.isPush = false := by
  cases provision_leads ran with
  | refused refused concluded =>
      exact ⟨[], (added_of_refused refused concluded).deeds, by simp⟩
  | worked taken work whole release concluded =>
      rcases added_of_worked taken whole release concluded with ⟨steps, trace, added⟩
      refine ⟨_, added.deeds, ?_⟩
      have processes : ∀ deed ∈ steps, deed.isPush = false :=
        fun deed member => Deed.isPush_of_isProcess (trace.isProcess deed member)
      simpa [Deed.isPush, or_imp, forall_and] using processes

theorem counting_of_told {sink : Sink} (counts : sink.CountsOnce) {source : String}
    {kind : EventKind} {details : List Field} {told : Except Ending Unit}
    (ran : (tell sink source kind details).Leads host before told after) :
    after.metrics = before.metrics.counting [⟨kind, source, details⟩] := by
  rcases metrics_of_told counts ran with ⟨event, added, counted⟩
  rw [(tell_leads ran).2.1] at added
  cases List.append_cancel_left added
  exact counted

end Provisioner

namespace Session

variable {circumstances : Circumstances} {words : List String} {settings : Settings} {spec : Spec}
  {host : Host} {before finished after : World} {ended : Except Ending Report}

theorem exited_iff {code : Int} :
    (endOf ended).map SessionEnd.exited = .ok (.exited code) ↔ endOf ended = .ok code := by
  cases endOf ended <;> simp [Except.map]

theorem returns_iff :
    (endOf ended).map SessionEnd.exited = .ok (.exited 0) ∨
      (endOf ended).map SessionEnd.exited = .ok (.exited CleanupWarning.exitCode) ↔
    ∃ report, ended = .ok report := by
  rw [exited_iff, exited_iff]
  constructor
  · rintro (ends | ends)
    · exact (coded_of_endOf ends).returned_iff.1 (.inl rfl)
    · exact (coded_of_endOf ends).returned_iff.1 (.inr rfl)
  · rintro ⟨report, rfl⟩
    rw [endOf]
    cases report.cleanup with
    | none => exact .inl rfl
    | some warning => exact .inr rfl

theorem fails_iff (specific : ∀ text cleanup, ended ≠ .error (.failed (.general text) cleanup)) :
    (endOf ended).map SessionEnd.exited = .ok (.exited 2) ∨
      (endOf ended).map SessionEnd.exited = .ok (.exited 3) ↔
    ∃ failure cleanup, ended = .error (.failed failure cleanup) := by
  rw [exited_iff, exited_iff]
  constructor
  · rintro (ends | ends)
    · rcases (coded_of_endOf ends).failure_of_step (.inl rfl) with ⟨failure, cleanup, equal, _⟩
      exact ⟨failure, cleanup, equal⟩
    · rcases (coded_of_endOf ends).failure_of_step (.inr rfl) with ⟨failure, cleanup, equal, _⟩
      exact ⟨failure, cleanup, equal⟩
  · rintro ⟨failure, cleanup, rfl⟩
    cases failure with
    | general text => exact absurd rfl (specific text cleanup)
    | workspace text => exact .inl rfl
    | fetch source cause => exact .inl rfl
    | install tool cause => exact .inr rfl

/-! ## The samples of a run -/

/-- What samples tell of a run for a source, by the end of the run, the way its session ends,
and its attempts to install tools. -/
structure Tell (samples : List Sample) (source : String) (ended : Except Ending Report)
    (outcome : Except Ending SessionEnd) (attempts : List Attempt) : Prop where
  success : Sample.Marks samples "provision_runs_total" [("result", "success"), ("source", source)]
    (outcome = .ok (.exited 0) ∨ outcome = .ok (.exited CleanupWarning.exitCode))
  failure : Sample.Marks samples "provision_runs_total" [("result", "failure"), ("source", source)]
    (outcome = .ok (.exited 2) ∨ outcome = .ok (.exited 3))
  step : ∀ step, Sample.Marks samples "provision_step_failures_total"
    [("source", source), ("step", step)]
    (∃ failure cleanup, ended = .error (.failed failure cleanup) ∧ failure.step = step)
  tools : Sample.shownIn samples "provision_tools_installed_total" [("source", source)] =
    Metrics.series (attempts.countP Attempt.succeeded)

theorem countsOnce_sink (settings : Settings) : (provisionerOf settings).sink.CountsOnce :=
  ⟨isQuiet_sink settings, rfl⟩

/-- The samples of a run that started without counts tell how its session ends. -/
theorem tell_of_provision (fresh : before.metrics = {})
    (ran : ((provisionerOf settings).provision spec).Leads host before ended finished) :
    ∃ fetching attempts,
      (provisionerOf settings).InOrder spec host before finished ended fetching attempts ∧
      Tell finished.metrics.samples spec.source ended ((endOf ended).map .exited) attempts := by
  have quiet := isQuiet_sink settings
  rcases Provisioner.provision_ended quiet ran with ⟨_, _, ends⟩
  rcases Provisioner.recounted_of_quiet quiet ran with ⟨attempts, told, recounted⟩
  rcases recounted.inOrder with ⟨fetching, inOrder⟩
  have history : History before [⟨provisionerOf settings, spec, host⟩]
      [⟨spec, attempts, ended, told⟩] finished := .cons ran recounted (.nil finished)
  have totals := history.totals (by simpa using countsOnce_sink settings) fresh spec.source
  have shown := totals.shown
  refine ⟨fetching, attempts, inOrder, ?_, ?_, fun step => ?_, ?_⟩
  · refine Metrics.marks_of_countP ((shown.runs .success).trans (by rw [totals.reported])) ?_
    rw [returns_iff]
    cases ended <;> simp [Past.reports, Except.isOk, Except.toBool]
  · refine Metrics.marks_of_countP ((shown.runs .failure).trans (by rw [totals.failed])) ?_
    rw [fails_iff ends.specific]
    rcases ended with ending | report
    · cases ending <;> simp [Past.fails, Past.failure?]
    · simp [Past.fails, Past.failure?]
  · refine Metrics.marks_of_countP
      ((shown.stepFailures step).trans (by rw [totals.failedIn])) ?_
    rcases ended with ending | report
    · cases ending <;> simp [Past.failsIn, Past.failure?]
    · simp [Past.failsIn, Past.failure?]
  · refine shown.toolsInstalled.trans ?_
    rw [totals.tools]
    simp

/-! ## Where the metrics cannot be pushed -/

/-- The host under which pushing metrics goes another way. -/
def pushing (host : Host) (pushError : Option String) : Host := { host with pushError }

theorem program_pushing (host : Host) (pushError : Option String) :
    (pushing host pushError).program = host.program := rfl

theorem tick_pushing (host : Host) (pushError : Option String) :
    (pushing host pushError).tick = host.tick := rfl

theorem killing_pushing (host : Host) (pushError : Option String) :
    (pushing host pushError).killing = host.killing := rfl

/-- The comparison of runs under hosts that differ in pushing, as far as the same is counted. -/
def comparing (host : Host) (pushError : Option String) : Comparison where
  left := host
  right := pushing host pushError
  program := (program_pushing host pushError).symm
  tick := (tick_pushing host pushError).symm
  killing := (killing_pushing host pushError).symm
  fits := fun left right => left.metrics = right.metrics

open Comparison

variable {pushError : Option String}

/-- What a sink counts depends on what it is told and on what was counted before. -/
theorem tellAlike_comparing {sink : Sink} (counts : sink.CountsOnce) :
    Provisioner.TellAlike (comparing host pushError) sink sink := by
  refine Provisioner.tellAlike_of_quiet counts.quiet counts.quiet ?_
  intro source kind details left right leftAfter rightAfter alike ran ranOther
  have same : left.metrics = right.metrics := alike.account
  change leftAfter.metrics = rightAfter.metrics
  rw [Provisioner.counting_of_told counts ran, Provisioner.counting_of_told counts ranOther, same]

/-- Pushing the same metrics is the same deed, whatever comes of it. -/
theorem agree_push (gateway : String) :
    (comparing host pushError).Agree (push gateway) (push gateway) := by
  apply agree_get
  intro left right alike
  have same : left.metrics = right.metrics := alike.account
  rw [same]
  refine AgreeAt.bind (agree_perform _ alike) fun _ left right alike => ?_
  simp only [AgreeAt, Act.leads_read_bind]
  cases (comparing host pushError).left.pushError <;>
    cases (comparing host pushError).right.pushError <;> exact agree_log _ _ alike

theorem agree_pushIfSet (gateway : Option String) :
    (comparing host pushError).Agree (pushIfSet gateway) (pushIfSet gateway) := by
  cases gateway with
  | none => exact agree_pure ()
  | some gateway => exact agree_ite (fun _ => agree_pure ()) fun _ => agree_push gateway

theorem agree_conclude (report : Report) :
    (comparing host pushError).Agree (conclude report) (conclude report) := by
  rw [conclude]
  cases report.cleanup with
  | none => exact (agree_log _ _).bind fun _ => agree_pure _
  | some warning => exact (agree_log _ _).bind fun _ => agree_pure _

theorem agree_uncounted : (comparing host pushError).Agree
    (modify fun world => { world with metrics := {} })
    (modify fun world => { world with metrics := {} }) :=
  fun _ _ alike => ⟨.ok ⟨⟩, _, _, Act.leads_modify.2 ⟨rfl, rfl⟩, Act.leads_modify.2 ⟨rfl, rfl⟩,
    alike.tree, alike.time, alike.readings, alike.calls, alike.deeds, rfl⟩

theorem agree_provision (settings : Settings) (spec : Spec) :
    (comparing host pushError).Agree (provision settings spec) (provision settings spec) := by
  rw [provision]
  refine agree_uncounted.bind fun _ => ?_
  refine (Provisioner.agree_provision (provisionerOf settings) spec
    (tellAlike_comparing (countsOnce_sink settings)) rfl).outcome.bind fun ended => ?_
  have push := @agree_pushIfSet host pushError settings.gateway
  cases ended with
  | ok report => exact push.bind fun _ => agree_conclude report
  | error ending =>
      cases ending with
      | failed failure cleanup =>
          exact (agree_log _ _).bind fun _ => push.bind fun _ => agree_pure _
      | cancelled how => exact (agree_log _ _).bind fun _ => push.bind fun _ => agree_pure _
      | _ => exact push.bind fun _ => agree_throw _

/-- Under hosts that differ in pushing a session does the same and ends in the same way. -/
theorem run_agrees {outcome : Except Ending SessionEnd}
    (ran : (run circumstances words).Leads host before outcome after) (pushError : Option String) :
    ∃ other, (run circumstances words).Leads (pushing host pushError) before outcome other ∧
      other.deeds = after.deeds ∧ other.calls = after.calls ∧ other.tree = after.tree := by
  rw [run] at ran ⊢
  split at ran
  · rcases Act.leads_pure.1 ran with ⟨rfl, rfl⟩
    exact ⟨after, Act.leads_pure.2 ⟨rfl, rfl⟩, rfl, rfl, rfl⟩
  · split at ran
    · rcases Act.leads_pure.1 ran with ⟨rfl, rfl⟩
      exact ⟨after, Act.leads_pure.2 ⟨rfl, rfl⟩, rfl, rfl, rfl⟩
    · rename_i settings spec known
      rcases Act.leads_map.1 ran with ⟨code, executed, rfl⟩
      have agree := (@agree_log (comparing (levelled settings host) pushError)
        (configurationRecord settings spec) (configurationRecord settings spec)).bind
          fun _ => agree_provision settings spec
      rcases agree.leads ⟨rfl, rfl, rfl, rfl, rfl, rfl⟩ executed with ⟨other, ranOther, alike⟩
      exact ⟨other, Act.leads_map.2 ⟨code, ranOther, rfl⟩, alike.deeds.symm, alike.calls.symm,
        alike.tree.symm⟩

/-- What a session pushes that makes a run, by the end of its run and the world that the run
leaves: once there is a gateway, the samples of the run, and nothing else ever. -/
structure Pushes (settings : Settings) (spec : Spec) (host : Host) (before after : World)
    (outcome : Except Ending SessionEnd) (ended : Except Ending Report) (finished : World) :
    Prop where
  ran : ((provisionerOf settings).provision spec).Leads (levelled settings host)
    (configured settings spec host before) ended finished
  ends : outcome = (endOf ended).map .exited
  unpushed : ∃ deeds, finished.deeds = before.deeds ++ deeds ∧ ∀ deed ∈ deeds, deed.isPush = false
  never : settings.gateway = none ∨ settings.gateway = some "" → after.deeds = finished.deeds
  once : ∀ gateway, settings.gateway = some gateway → gateway ≠ "" →
    after.deeds = finished.deeds ++ [.pushed gateway finished.metrics.samples]
  /-- The samples tell how the session ends and which of its calls installed a tool. -/
  tell : ∃ fetching attempts,
    after.calls = before.calls ++ (fetching ++ attempts.map Attempt.call) ∧
    (provisionerOf settings).InOrder spec (levelled settings host)
      (configured settings spec host before) finished ended fetching attempts ∧
    Tell finished.metrics.samples spec.source ended outcome attempts

/-- A session that reaches its run pushes after it what the run counted, once if there is a
gateway, and what comes of that changes neither its end nor what it did. -/
theorem run_pushes {arguments : CommandLine.Arguments}
    (read : CommandLine.read words = .ok arguments)
    (known : configure circumstances arguments = .ok (settings, spec)) :
    ∃ outcome after, (run circumstances words).Leads host before outcome after ∧
      (∃ ended finished, Pushes settings spec host before after outcome ended finished) ∧
      ∀ pushError, ∃ other,
        (run circumstances words).Leads (pushing host pushError) before outcome other ∧
        other.deeds = after.deeds ∧ other.calls = after.calls ∧ other.tree = after.tree := by
  rcases (run circumstances words).exists_leads host before with ⟨outcome, after, ran⟩
  refine ⟨outcome, after, ran, ?_, run_agrees ran⟩
  have begun := sameDeeds_configured settings spec host before
  cases run_went ran with
  | stopped other => cases read.symm.trans other
  | misconfigured other unknown =>
      cases read.symm.trans other
      cases known.symm.trans unknown
  | @ran _ _ _ ended finished other same provisioned closes =>
      cases read.symm.trans other
      cases known.symm.trans same
      rcases tell_of_provision rfl provisioned with
        ⟨fetching, attempts, inOrder, tell⟩
      have unpushed := Provisioner.unpushed_of_provision provisioned
      rw [begun.deeds] at unpushed
      exact ⟨ended, finished, {
        ran := provisioned
        ends := rfl
        unpushed
        never := by
          rintro (none | empty) <;> rw [closes.deeds]
          · rw [none, pushesTo, List.append_nil]
          · rw [empty]
            exact List.append_nil _
        once := by
          intro gateway set notEmpty
          rw [closes.deeds, set, pushesTo, if_neg (by simpa using notEmpty)]
        tell := by
          refine ⟨fetching, attempts, ?_, inOrder, tell⟩
          rw [closes.calls, inOrder.calls, begun.calls] }⟩

/-- The command line of a session with a gateway. -/
def sampleWords : List String :=
  ["provision", "--source-url", "https://example.test/tools.git", "--metrics-gateway", "gateway"]

/-- The settings that are read from it. -/
def sampleSettings : Settings where
  source := "https://example.test/tools.git"
  revision := none
  cloneName := none
  tools := []
  root := ⟨.root, ["tmp"]⟩
  git := "git"
  installer := Settings.defaultInstaller
  limit := none
  gateway := some "gateway"
  level := .info
  jsonLogs := false

/-- The specification that they make. -/
def sampleSpec : Spec where
  source := "https://example.test/tools.git"
  cloneName := "tools"
  tools := []
  root := ⟨.root, ["tmp"]⟩
  revision := none

theorem run_pushes_sample :
    ∃ outcome after, (run {} sampleWords).Leads .quiet {} outcome after ∧
      ∃ finished : World,
        after.deeds = finished.deeds ++ [.pushed "gateway" finished.metrics.samples] := by
  have ok_of_toOption {ε α : Type} {result : Except ε α} {a : α}
      (some : result.toOption = some a) : result = .ok a := by
    cases result <;> cases some
    rfl
  have read : CommandLine.read sampleWords = .ok {
      sourceUrl := some "https://example.test/tools.git", metricsGateway := some "gateway" } :=
    ok_of_toOption (by decide +kernel)
  have known : configure {} {
      sourceUrl := some "https://example.test/tools.git", metricsGateway := some "gateway" } =
        .ok (sampleSettings, sampleSpec) := ok_of_toOption (by decide +kernel)
  have pushed : ∃ outcome after, (run {} sampleWords).Leads .quiet {} outcome after ∧
      (∃ ended finished,
        Pushes sampleSettings sampleSpec .quiet {} after outcome ended finished) ∧ _ :=
    run_pushes read known
  rcases pushed with ⟨outcome, after, ran, ⟨_, finished, pushes⟩, _⟩
  exact ⟨outcome, after, ran, finished, pushes.once "gateway" rfl (by decide)⟩

end Session

end Toolset
