import Toolset.Proofs.Cancellation

/-!
# What the end of a run tells

A run that nobody calls off from outside of its calls ends with a report, with a failure,
with a cancellation, or with an error that is none of its own.  If it is one of the first
three, then it can be told from the calls of the run which one it is: a report if the source
was there and all tools were installed, and a cancellation if one of the calls was called
off.
-/

namespace Toolset.Provisioner

open Workspace (acquire release survey clear LeavesBehind)

variable {provisioner : Provisioner} {spec : Spec} {host : Host} {before after : World}
  {outcome : Except Ending Report}

/-- The end of a run is its own: a report, a failure or a cancellation. -/
def isOwn : Except Ending Report → Bool
  | .ok _ => true
  | .error (.failed _ _) => true
  | .error (.cancelled _) => true
  | .error _ => false

/-- All that a run was asked for is done: its workspace was acquired, the source was there,
and the installer was called for each tool and succeeded. -/
structure Complete (provisioner : Provisioner) (spec : Spec) (tree : FileTree)
    (fetching : List Call) (attempts : List Attempt) : Prop where
  source : ∃ preexisting, (survey tree spec).2 = .ok preexisting ∧
    provisioner.HasSource spec preexisting fetching
  tools : attempts.map Attempt.tool = spec.tools
  succeeded : ∀ attempt ∈ attempts, attempt.succeeded = true

/-- What the end of a run tells of its calls, and of what the release did to its clone. -/
structure Ended (provisioner : Provisioner) (spec : Spec) (host : Host) (before after : World)
    (outcome : Except Ending Report) (fetching : List Call) (attempts : List Attempt) : Prop where
  inOrder : provisioner.InOrder spec host before after outcome fetching attempts
  starts : attempts.map (fun attempt => attempt.call.start) =
    (spec.tools.take attempts.length).map (provisioner.installStart spec)
  /-- If there is a workspace, every tool is attempted unless a call of git does not do its part
  or an attempt fails. -/
  attempted : ∀ preexisting, (survey before.tree spec).2 = .ok preexisting →
    (∀ call ∈ fetching, provisioner.git.Serves spec.clonePath call) →
    (∀ attempt ∈ attempts, attempt.succeeded = true) → attempts.map Attempt.tool = spec.tools
  specific : ∀ text cleanup, outcome ≠ .error (.failed (.general text) cleanup)
  report_iff : isOwn outcome = true →
    ((∃ report, outcome = .ok report) ↔ provisioner.Complete spec before.tree fetching attempts)
  cancelled_iff : isOwn outcome = true →
    ((∃ how, outcome = .error (.cancelled how)) ↔
      ∃ errand ∈ errands fetching attempts, provisioner.calledOff errand = true)
  /-- Unless the run failed before, its workspace was released. -/
  released : isOwn outcome = true →
    (∀ failure cleanup, outcome ≠ .error (.failed failure cleanup)) → ∃ worked cleanup,
      provisioner.Releases spec host before worked ∧
      clear host worked.tree spec.clonePath = (after.tree, .ok cleanup) ∧
      ∀ report, outcome = .ok report → report.cleanup = cleanup

theorem Concluded.eq_of_quiet {cleanup : Option CleanupWarning} {ended : Except Ending Done}
    {told : List Event} (quiet : provisioner.sink.IsQuiet)
    (ran : provisioner.Concluded cleanup ended before after told outcome) :
    ∃ duration, outcome = concluded cleanup duration ended := by
  rcases ran.ended with ⟨_, _, found⟩ | ⟨⟨event, _, cancels⟩, _⟩
  · exact found
  · rw [quiet event] at cancels
    cases cancels

theorem report_iff_of_concluded {cleanup : Option CleanupWarning} {duration : Float}
    {ended : Except Ending Done} :
    (∃ report, concluded cleanup duration ended = .ok report) ↔ ∃ done, ended = .ok done := by
  rcases ended with ending | done
  · cases ending <;> simp [concluded]
  · simp [concluded]

theorem cancelled_iff_of_concluded {cleanup : Option CleanupWarning} {duration : Float}
    {ended : Except Ending Done} :
    (∃ how, concluded cleanup duration ended = .error (.cancelled how)) ↔
      ∃ how, ended = .error (.cancelled how) := by
  rcases ended with ending | done
  · cases ending <;> simp [concluded]
  · simp [concluded]

/-! ## The clone after its release -/

theorem gone_of_clear {fields : List Field} {tree left : FileTree}
    (accepted : Spec.ofFields fields = .ok spec)
    (cleared : clear host tree spec.clonePath = (left, .ok none)) :
    left.exists? spec.clonePath = .ok false := by
  rw [clear] at cleared
  cases looked : tree.exists? spec.clonePath with
  | error error =>
      rw [looked] at cleared
      cases cleared
  | ok isThere =>
      rw [looked] at cleared
      cases isThere with
      | false =>
          cases cleared
          exact looked
      | true =>
          dsimp only at cleared
          cases removes : Workspace.removal host tree spec.clonePath with
          | mk removed failed =>
              rw [removes] at cleared
              cases failed with
              | some error => cases cleared
              | none =>
                  cases cleared
                  exact Spec.exists?_clonePath_of_removeTree accepted
                    (Workspace.removeTree_of_removal removes)

/-- What is left of a clone that is left behind is what its removal left. -/
theorem tree_of_leavesBehind {tree left : FileTree} {path : Path} {warning : CleanupWarning}
    {released : Except Ending (Option CleanupWarning)}
    (behind : LeavesBehind host tree path warning)
    (cleared : clear host tree path = (left, released)) :
    left = (Workspace.removal host tree path).1 := by
  rcases behind with ⟨there, error, failed, _⟩
  rw [clear, there] at cleared
  dsimp only at cleared
  cases removes : Workspace.removal host tree path with
  | mk removed failure =>
      rw [removes] at cleared failed
      dsimp only at failed
      subst failed
      cases cleared
      rfl

theorem answered_of_leavesBehind {tree : FileTree} {path : Path} {warning : CleanupWarning}
    (behind : LeavesBehind host tree path warning) :
    ∃ isThere, (Workspace.removal host tree path).1.exists? path = .ok isThere := by
  rcases behind with ⟨there, error, failed, _⟩
  cases removes : Workspace.removal host tree path with
  | mk left failure =>
      rw [removes] at failed
      dsimp only at failed
      subst failed
      rcases Workspace.tree_of_removal removes with rfl | rfl
      · exact ⟨true, there⟩
      · rcases FileTree.exists?_breakOff tree path host.spared with same | gone
        · exact ⟨true, same.trans there⟩
        · exact ⟨false, gone⟩

/-! ## A run without a workspace -/

theorem isCancellation_of_prepare {tree : FileTree} {root : Path} {ending : Ending}
    (prepared : (Workspace.prepare tree root).2 = .error ending) :
    ending.isCancellation = false := by
  rw [Workspace.prepare] at prepared
  split at prepared
  · cases prepared
    rfl
  · cases prepared
  · split at prepared
    · cases prepared
      rfl
    · split at prepared
      · cases prepared
      · cases prepared
        rfl

theorem isCancellation_of_survey {tree : FileTree} {ending : Ending}
    (surveyed : (survey tree spec).2 = .error ending) : ending.isCancellation = false := by
  rw [survey] at surveyed
  cases prepared : Workspace.prepare tree spec.root with
  | mk after ended =>
      rw [prepared] at surveyed
      cases ended with
      | error other =>
          cases surveyed
          exact isCancellation_of_prepare (by rw [prepared])
      | ok _ =>
          dsimp only at surveyed
          cases answered : after.exists? spec.clonePath with
          | ok isThere =>
              rw [answered] at surveyed
              cases surveyed
          | error error =>
              rw [answered] at surveyed
              cases surveyed
              rfl

/-- A run that did not acquire its workspace ends with a failure, or with an end that is not
its own. -/
theorem ended_of_refused {ending : Ending} {closed : World} {told : List Event}
    (quiet : provisioner.sink.IsQuiet)
    (refused : (acquire spec).Leads host (opened spec host before) (.error ending) closed)
    (ran : provisioner.Concluded none (.error ending) closed after told outcome) :
    provisioner.Ended spec host before after outcome [] [] := by
  have surveyed := (acquired_of_opened refused).survey_eq
  have uncancelled := isCancellation_of_survey surveyed
  have inOrder := inOrder_of_refused refused ran
  rcases ran.eq_of_quiet quiet with ⟨duration, rfl⟩
  exact {
    inOrder
    starts := rfl
    attempted := by
      intro preexisting found
      cases surveyed.symm.trans found
    specific := by
      intro text cleanup equal
      cases ending with
      | failed failure early =>
          cases equal
          rcases Workspace.workspace_of_survey surveyed with ⟨_, equal⟩
          cases equal
      | _ => cases equal
    report_iff := by
      intro _
      rw [report_iff_of_concluded]
      refine iff_of_false (by simp) ?_
      intro complete
      rcases complete.source with ⟨_, found, _⟩
      cases surveyed.symm.trans found
    cancelled_iff := by
      intro _
      rw [cancelled_iff_of_concluded]
      refine iff_of_false ?_ (by simp [errands])
      rintro ⟨how, equal⟩
      cases equal
      cases uncancelled
    released := by
      intro own unfailed
      cases ending with
      | failed failure early => exact absurd rfl (unfailed failure none)
      | cancelled how => cases uncancelled
      | _ => cases own }

/-! ## A run with a workspace -/

theorem Worked.cancelled_iff {workspace : Workspace} {fetching : List Call}
    {attempts : List Attempt} {told : List Event} {ended : Except Ending Done}
    (quiet : provisioner.sink.IsQuiet)
    (whole : provisioner.Worked spec host workspace before after fetching attempts told ended) :
    (∃ how, ended = .error (.cancelled how)) ↔
      ∃ errand ∈ errands fetching attempts, provisioner.calledOff errand = true := by
  constructor
  · rintro ⟨how, rfl⟩
    -- what is not expected at the end escapes from an errand
    have irregular : ¬provisioner.Regular (errands fetching attempts) told := by
      rw [← whole.stage.documented_iff, documented_error]
      exact Bool.false_ne_true
    have escapes : ∃ errand ∈ errands fetching attempts, provisioner.escape? errand ≠ none := by
      by_contra none
      refine irregular ⟨fun errand member => ?_, fun event _ => quiet event⟩
      by_contra escapes
      exact none ⟨errand, member, escapes⟩
    rcases escapes with ⟨errand, member, escapes⟩
    rcases Option.ne_none_iff_exists'.1 escapes with ⟨ending, escapes⟩
    rcases whole.stage.last_of_escape member escapes with ⟨_, _, _, equal⟩
    cases equal
    exact ⟨errand, member, by rw [calledOff_eq, escapes]; rfl⟩
  · rintro ⟨errand, member, off⟩
    rcases escape?_of_calledOff off with ⟨how, escapes⟩
    rcases whole.stage.last_of_escape member escapes with ⟨_, _, _, rfl⟩
    exact ⟨how, rfl⟩

/-- After a release that cannot look for the clone the end of a run is not its own. -/
theorem released_of_isOwn {path : Path} {worked closed : World} {ended : Except Ending Done}
    {released : Except Ending (Option CleanupWarning)} {duration : Float}
    (release : (release path).Leads host worked released closed)
    (own : isOwn (concluded (afterRelease ended released).1 duration
      (afterRelease ended released).2) = true) :
    ∃ cleanup, released = .ok cleanup := by
  rcases Workspace.release_leads release with ⟨cleanup, rfl, _⟩ | ⟨error, _, rfl, _⟩
  · exact ⟨cleanup, rfl⟩
  · cases own

/-- A run that acquired its workspace ends as its work ended, unless its workspace cannot be
looked for. -/
theorem ended_of_worked {workspace : Workspace} {acquired worked closed : World}
    {fetching : List Call} {attempts : List Attempt} {told toldLast : List Event}
    {ended : Except Ending Done} {released : Except Ending (Option CleanupWarning)}
    (quiet : provisioner.sink.IsQuiet)
    (taken : (acquire spec).Leads host (opened spec host before) (.ok workspace) acquired)
    (work : (provisioner.work spec workspace).Leads host acquired ended worked)
    (whole : provisioner.Worked spec host workspace acquired worked fetching attempts told ended)
    (release : (release workspace.path).Leads host worked released closed)
    (ran : provisioner.Concluded (afterRelease ended released).1
      (afterRelease ended released).2 closed after toldLast outcome) :
    provisioner.Ended spec host before after outcome fetching attempts := by
  rcases (acquired_of_opened taken).workspace_eq with ⟨preexisting, found, rfl⟩
  have inOrder := inOrder_of_worked taken whole release ran
  have cleared := Workspace.release_clears release
  have failed_of_ran := fun failure late (equal : outcome = .error (.failed failure late)) =>
    (equal ▸ ran).failed_of_failed
  rcases ran.eq_of_quiet quiet with ⟨duration, rfl⟩
  exact {
    inOrder
    starts := by
      rcases whole.runs with ⟨_, _, _, _, _, runs⟩
      rw [runs.starts, inOrder.tools]
      rfl
    attempted := fun _ _ => whole.tools_of_serves quiet rfl
    specific := by
      intro text cleanup equal
      rcases failed_of_ran _ _ equal with ⟨early, last⟩
      rcases whole.failed _ _ (failed_of_afterRelease release last) with
        ⟨_, _, equal⟩ | ⟨_, _, _, _, _, equal⟩ <;> cases equal
    report_iff := by
      intro own
      rcases released_of_isOwn release own with ⟨cleanup, rfl⟩
      rw [report_iff_of_concluded, afterRelease, whole.complete_iff quiet]
      constructor
      · rintro ⟨there, tools, succeeded⟩
        exact ⟨⟨preexisting, found, there⟩, tools, succeeded⟩
      · rintro ⟨⟨other, again, there⟩, tools, succeeded⟩
        cases found.symm.trans again
        exact ⟨there, tools, succeeded⟩
    cancelled_iff := by
      intro own
      rcases released_of_isOwn release own with ⟨cleanup, rfl⟩
      rw [cancelled_iff_of_concluded, afterRelease, whole.cancelled_iff quiet]
    released := by
      intro own _
      rcases released_of_isOwn release own with ⟨cleanup, rfl⟩
      refine ⟨worked, cleanup, ⟨_, acquired, _, taken, work⟩, ?_, ?_⟩
      · rw [ran.tree]
        exact cleared.result
      · intro report equal
        rcases ended with ending | done
        · cases ending <;> cases equal
        · cases equal
          rfl }

/-- The end of every run that nobody calls off from outside tells this much. -/
theorem provision_ended (quiet : provisioner.sink.IsQuiet)
    (ran : (provisioner.provision spec).Leads host before outcome after) :
    ∃ fetching attempts, provisioner.Ended spec host before after outcome fetching attempts := by
  cases provision_leads ran with
  | refused refused concluded =>
      exact ⟨[], [], ended_of_refused quiet refused concluded⟩
  | worked taken work whole release concluded =>
      exact ⟨_, _, ended_of_worked quiet taken work whole release concluded⟩

end Toolset.Provisioner
