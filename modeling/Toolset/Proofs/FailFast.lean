import Toolset.Proofs.Run

/-!
# The order of a run

The programs that a run starts are those of one fetch, and then the installer once for
each tool of a beginning of the list of tools, in that order.  The first step that does not
succeed is the last one, and how the run ends says which it was.
-/

namespace Toolset.Provisioner

open Workspace (acquire)

variable {provisioner : Provisioner} {spec : Spec} {host : Host} {before after : World}
  {outcome : Except Ending Report}

/-- The start of the installer for a tool of a specification. -/
def installStart (provisioner : Provisioner) (spec : Spec) (tool : String) : Start where
  command := provisioner.installer.command ++ [(spec.toolPath tool).toString]
  directory := some spec.clonePath
  ownSession := true

/-- The clone of a specification is there when a run acquires its workspace. -/
def Preexisting (spec : Spec) (host : Host) (before : World) : Prop :=
  ∃ workspace world, (acquire spec).Leads host (opened spec host before) (.ok workspace) world ∧
    workspace.preexisting = true

/-- The order of a run that made some calls of git and some attempts to install tools. -/
structure InOrder (provisioner : Provisioner) (spec : Spec) (host : Host)
    (before after : World) (outcome : Except Ending Report) (fetching : List Call)
    (attempts : List Attempt) : Prop where
  /-- The programs that were started are those of the fetch and of the attempts. -/
  calls : after.calls = before.calls ++ (fetching ++ attempts.map Attempt.call)
  starts : after.deeds.filterMap Deed.start? = before.deeds.filterMap Deed.start? ++
    (fetching.map Call.start ++
      (spec.tools.take attempts.length).map (provisioner.installStart spec))
  issued : ∀ call ∈ fetching, ∃ arguments, call.start = provisioner.git.start arguments
  /-- Git is not called if the workspace is not acquired or the clone is there, or if a sink
  calls the work off before. -/
  untouched_iff : fetching = [] ↔
    (∃ ending world, (acquire spec).Leads host (opened spec host before) (.error ending) world) ∨
    Preexisting spec host before ∨
    provisioner.sink.cancels (event host before spec.source .stepStarted fetchDetails) = true
  /-- The tools are attempted in order, each once. -/
  tools : attempts.map Attempt.tool = spec.tools.take attempts.length
  bounded : attempts.length ≤ spec.tools.length
  /-- No tool is attempted unless the source is there; the attempts are runs of the installer,
  one after another. -/
  ran : attempts ≠ [] → ∃ workspace acquired fetched sourced worked,
    (acquire spec).Leads host (opened spec host before) (.ok workspace) acquired ∧
    (provisioner.ensureSource spec workspace).Leads host acquired (.ok fetched) sourced ∧
    provisioner.Attempts spec host sourced attempts worked ∧
    sourced.calls = before.calls ++ fetching ∧ worked.calls = after.calls
  succeeded : ∀ attempt ∈ attempts.dropLast, attempt.succeeded = true
  reported : ∀ report, outcome = .ok report →
    attempts.length = spec.tools.length ∧ (∀ attempt ∈ attempts, attempt.succeeded = true) ∧
    report.installed = spec.tools ∧ (report.fetched = false ↔ Preexisting spec host before)
  notInstalled : ∀ tool cause cleanup,
    outcome = .error (.failed (.install tool cause) cleanup) →
    ∃ last result, attempts.getLast? = some last ∧ last.tool = tool ∧ last.ended = .ok result ∧
      result.success = false ∧ cause = result.failureReason
  notBegun : ∀ failure cleanup, outcome = .error (.failed failure cleanup) →
    (∀ tool cause, failure ≠ .install tool cause) → attempts = []

theorem starts_of_worked {fetching : List Call} {attempts : List Attempt} {steps : List Deed}
    (trace : Traced ((errands fetching attempts).map provisioner.passage) steps) :
    steps.filterMap Deed.start? =
      fetching.map Call.start ++ attempts.map fun attempt => attempt.call.start := by
  have starts : (errands fetching attempts).map (Prod.fst ∘ provisioner.passage) =
      ((errands fetching attempts).map Errand.call).map Call.start := by
    rw [List.map_map]
    rfl
  rw [trace.filterMap_start?, List.map_map, starts, call_errands, List.map_append, List.map_map]
  rfl

theorem inOrder_of_refused {ending : Ending} {closed : World} {told : List Event}
    (refused : (acquire spec).Leads host (opened spec host before) (.error ending) closed)
    (concluded : provisioner.Concluded none (.error ending) closed after told outcome) :
    provisioner.InOrder spec host before after outcome [] [] where
  calls := (added_of_refused refused concluded).calls
  starts := by simp [(added_of_refused refused concluded).deeds]
  issued := by simp
  untouched_iff := iff_of_true rfl (.inl ⟨ending, closed, refused⟩)
  tools := rfl
  bounded := Nat.zero_le _
  ran := fun none => absurd rfl none
  succeeded := by simp
  reported := by
    intro report equal
    subst equal
    rcases concluded.done_of_report with ⟨_, equal, _⟩
    cases equal
  notInstalled := by
    intro tool cause cleanup equal
    subst equal
    rcases concluded.failed_of_failed with ⟨early, equal⟩
    cases equal
    have surveyed := (acquired_of_opened refused).survey_eq
    rcases Workspace.workspace_of_survey surveyed with ⟨text, equal⟩
    cases equal
  notBegun := fun _ _ _ _ => rfl

theorem preexisting_iff {workspace : Workspace} {acquired : World}
    (taken : (acquire spec).Leads host (opened spec host before) (.ok workspace) acquired) :
    Preexisting spec host before ↔ workspace.preexisting = true := by
  constructor
  · rintro ⟨other, world, again, preexisting⟩
    cases (taken.unique again).1
    exact preexisting
  · intro preexisting
    exact ⟨workspace, acquired, taken, preexisting⟩

/-- The first event of the work is the first event of the run. -/
theorem event_of_acquired {workspace : Workspace} {acquired : World} {source : String}
    {kind : EventKind} {details : List Field}
    (taken : (acquire spec).Leads host (opened spec host before) (.ok workspace) acquired) :
    event host acquired source kind details = event host before source kind details := by
  have ready := (acquired_of_opened taken).added_of_ok
  have silent : acquired.told = before.told := by simpa using ready.told
  rw [event, event, silent]

theorem done_of_afterRelease {ended : Except Ending Done}
    {released : Except Ending (Option CleanupWarning)} {done : Done}
    (complete : (afterRelease ended released).2 = .ok done) : ended = .ok done := by
  cases released with
  | ok cleanup => exact complete
  | error ending => cases complete

/-- Only the work of a run makes it fail: a release may end it, but not as a failure. -/
theorem failed_of_afterRelease {path : Path} {worked closed : World} {ended : Except Ending Done}
    {released : Except Ending (Option CleanupWarning)} {failure : Failure}
    {cleanup : Option CleanupWarning}
    (release : (Workspace.release path).Leads host worked released closed)
    (failed : (afterRelease ended released).2 = .error (.failed failure cleanup)) :
    ended = .error (.failed failure cleanup) := by
  rcases Workspace.release_leads release with ⟨_, rfl, _⟩ | ⟨_, _, rfl, _, _⟩
  · exact failed
  · cases failed

theorem inOrder_of_worked {workspace : Workspace} {acquired worked closed : World}
    {fetching : List Call} {attempts : List Attempt} {told toldLast : List Event}
    {ended : Except Ending Done} {released : Except Ending (Option CleanupWarning)}
    (taken : (acquire spec).Leads host (opened spec host before) (.ok workspace) acquired)
    (whole : provisioner.Worked spec host workspace acquired worked fetching attempts told ended)
    (release : (Workspace.release workspace.path).Leads host worked released closed)
    (concluded : provisioner.Concluded (afterRelease ended released).1
      (afterRelease ended released).2 closed after toldLast outcome) :
    provisioner.InOrder spec host before after outcome fetching attempts := by
  rcases added_of_worked taken whole release concluded with ⟨steps, trace, added⟩
  rcases whole.runs with ⟨sourced, source, sourceRan, reached, sourceCalls, runs⟩
  have tools : attempts.map Attempt.tool = spec.tools.take attempts.length := by
    have inOrder := List.prefix_iff_eq_take.1 whole.inOrder
    rwa [List.length_map] at inOrder
  have ready := (acquired_of_opened taken).added_of_ok
  exact {
    calls := added.calls
    starts := by
      have installs : (attempts.map fun attempt => attempt.call.start) =
          (spec.tools.take attempts.length).map (provisioner.installStart spec) := by
        rw [runs.starts, tools]
        rfl
      rw [added.deeds, List.filterMap_append, List.filterMap_append, List.filterMap_cons,
        starts_of_worked trace, installs]
      simp only [Deed.start?, List.filterMap_cons, List.filterMap_nil, List.append_nil]
    issued := whole.issued
    untouched_iff := by
      rw [whole.untouched_iff, preexisting_iff taken, event_of_acquired taken]
      refine ⟨.inr, fun untouched => untouched.resolve_left ?_⟩
      rintro ⟨ending, world, again⟩
      cases (taken.unique again).1
    tools
    bounded := by
      have short := whole.inOrder.length_le
      rwa [List.length_map] at short
    ran := by
      intro some
      -- a tool is attempted only if seeing to the source had a value
      rcases reached some with ⟨fetched, rfl⟩
      refine ⟨workspace, acquired, fetched, sourced, worked, taken, sourceRan, runs, ?_, ?_⟩
      · simpa [sourceCalls] using ready.calls
      · simp [concluded.added.calls, (Workspace.added_of_release release).calls]
    succeeded := whole.succeeded
    reported := by
      intro report equal
      subst equal
      rcases concluded.done_of_report with ⟨done, last, fetched, installed⟩
      rcases whole.complete done (done_of_afterRelease last) with ⟨rfl, all, succeeded⟩
      refine ⟨by rw [← all, List.length_map], succeeded, installed, ?_⟩
      rw [fetched, preexisting_iff taken]
      simp
    notInstalled := by
      intro tool cause cleanup equal
      subst equal
      rcases concluded.failed_of_failed with ⟨early, last⟩
      rcases whole.failed _ _ (failed_of_afterRelease release last) with
        ⟨_, _, equal⟩ | ⟨attempt, result, isLast, resulted, failed, equal⟩
      · cases equal
      · cases equal
        exact ⟨attempt, result, isLast, rfl, resulted, failed, rfl⟩
    notBegun := by
      intro failure cleanup equal notInstall
      subst equal
      rcases concluded.failed_of_failed with ⟨early, last⟩
      rcases whole.failed _ _ (failed_of_afterRelease release last) with
        ⟨none, _⟩ | ⟨_, _, _, _, _, equal⟩
      · exact none
      · exact absurd equal (notInstall _ _) }

/-- Every run keeps to the order. -/
theorem provision_inOrder (provisioner : Provisioner) (spec : Spec) (host : Host)
    (before : World) :
    ∃ outcome after fetching attempts,
      (provisioner.provision spec).Leads host before outcome after ∧
      provisioner.InOrder spec host before after outcome fetching attempts := by
  rcases (provisioner.provision spec).exists_leads host before with ⟨outcome, after, ran⟩
  cases provision_leads ran with
  | refused refused concluded =>
      exact ⟨outcome, after, [], [], ran, inOrder_of_refused refused concluded⟩
  | @worked workspace acquired worked closed fetching attempts told toldLast ended released
      taken work whole release concluded =>
      exact ⟨outcome, after, fetching, attempts, ran,
        inOrder_of_worked taken whole release concluded⟩

end Toolset.Provisioner
