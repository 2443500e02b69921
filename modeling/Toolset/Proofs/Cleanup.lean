import Toolset.Proofs.Acceptance
import Toolset.Proofs.Run

/-!
# Cleaning up after a run

A run that acquired its workspace releases it exactly once, as the last thing that it
does, whatever it ended with.  The directory of the clone is gone then, or the
workspace and the log tell why it was left behind.  A run that did not acquire its
workspace does nothing at all.
-/

namespace Toolset.Provisioner

open Workspace (acquire within release warningRecord)

variable {provisioner : Provisioner} {spec : Spec} {host : Host} {before after : World}
  {outcome : Except Ending Report}

/-- The log tells of a warning, if it takes warnings at all: the record was added between
two worlds. -/
def Warned (host : Host) (before after : World) (warning : CleanupWarning) : Prop :=
  Log.Level.warning.passes host.threshold = true →
    ∃ earlier, before.log <+: earlier ∧ earlier ++ [warningRecord warning] <+: after.log

/-- A run cleaned up after itself: the last deed is the release of its workspace, all
others but the first are about processes, and if it can be seen in the end whether the
clone is there, then it is not, or the workspace and the log say why. -/
structure CleanedUp (provisioner : Provisioner) (spec : Spec) (host : Host)
    (before after : World) : Prop where
  deeds : ∃ steps, after.deeds = before.deeds ++
      (.acquired spec.clonePath :: steps ++ [.released spec.clonePath]) ∧
    ∀ deed ∈ steps, deed.isProcess = true
  handle : ∀ isThere, after.tree.exists? spec.clonePath = .ok isThere →
    ∃ workspace ended closed,
      (within spec (provisioner.work spec)).Leads host (opened spec host before)
        (.ok (workspace, ended)) closed ∧
      workspace.path = spec.clonePath ∧ workspace.released = true ∧
      (isThere = false ∨
        ∃ cause, workspace.cleanup = some ⟨spec.clonePath, cause⟩ ∧
          Warned host before after ⟨spec.clonePath, cause⟩)

theorem warned_of_released {path : Path} {worked closed : World} {warning : CleanupWarning}
    (earlier : before.log <+: worked.log) (later : closed.log <+: after.log)
    (released : Workspace.Released host path worked closed (some warning)) :
    Warned host before after warning := by
  intro passes
  have logged := (released.leftBehind warning rfl).2.2
  have level : (warningRecord warning).level = .warning := rfl
  rw [World.logged, level, if_pos passes] at logged
  rw [logged] at later
  exact ⟨worked.log, earlier, later⟩

/-- A clone whose removal was tried is not there, or the workspace says why. -/
theorem gone_of_released {fields : List Field} {worked closed : World}
    {cleanup : Option CleanupWarning} {isThere : Bool} (accepted : Spec.ofFields fields = .ok spec)
    (released : Workspace.Released host spec.clonePath worked closed cleanup)
    (answered : closed.tree.exists? spec.clonePath = .ok isThere) :
    isThere = false ∨ ∃ cause, cleanup = some ⟨spec.clonePath, cause⟩ := by
  cases cleanup with
  | none =>
      refine .inl ?_
      rcases released.removed rfl with ⟨absent, same⟩ | removed
      · rw [same, absent] at answered
        cases answered
        rfl
      · rw [Spec.exists?_clonePath_of_removeTree accepted removed] at answered
        cases answered
        rfl
  | some warning =>
      have path := (released.leftBehind warning rfl).1
      exact .inr ⟨warning.cause, by rw [← path]⟩

/-- However a run of an accepted specification ends, it cleaned up after itself if it
acquired its workspace, and did nothing if not. -/
theorem provision_cleansUp {fields : List Field} (accepted : Spec.ofFields fields = .ok spec)
    (provisioner : Provisioner) (host : Host) (before : World) :
    ∃ outcome after, (provisioner.provision spec).Leads host before outcome after ∧
      ∃ acquired world,
        (acquire spec).Leads host (opened spec host before) acquired world ∧
        match acquired with
        | .error _ => after.calls = before.calls ∧ after.deeds = before.deeds
        | .ok _ => provisioner.CleanedUp spec host before after := by
  rcases (provisioner.provision spec).exists_leads host before with ⟨outcome, after, ran⟩
  refine ⟨outcome, after, ran, ?_⟩
  cases provision_leads ran with
  | refused refused concluded =>
      have added := added_of_refused refused concluded
      exact ⟨_, _, refused, by simpa using added.calls, by simpa using added.deeds⟩
  | @worked workspace acquired worked closed fetching attempts told toldLast ended released
      taken work whole release concluded =>
      refine ⟨_, _, taken, ?_⟩
      rcases added_of_worked taken whole release concluded with ⟨steps, trace, added⟩
      refine ⟨⟨steps, added.deeds, trace.isProcess⟩, ?_⟩
      -- telling of the end changes no file, so the tree is as the release left it
      intro isThere answered
      rw [concluded.tree] at answered
      have ready := (added_opened spec host before).trans
        (Workspace.acquire_leads taken).added_of_ok
      rcases whole.stage.added with ⟨_, _, working⟩
      rcases (Workspace.acquire_leads taken).workspace_eq with ⟨preexisting, _, rfl⟩
      rcases Workspace.release_leads release with
        ⟨cleanup, rfl, freed⟩ | ⟨error, unanswered, rfl, sameTree, _⟩
      · refine ⟨_, ended, closed, Workspace.within_of_leads taken work release, rfl, rfl, ?_⟩
        rcases gone_of_released accepted freed answered with gone | ⟨cause, rfl⟩
        · exact .inl gone
        · have earlier := (ready.trans working).log
          exact .inr ⟨cause, rfl, warned_of_released earlier concluded.added.log freed⟩
      -- a clone that cannot be looked for has no answer
      · rw [sameTree, unanswered] at answered
        cases answered

theorem provision_cleansUp_sample :
    Spec.ofFields Spec.sample.fields = .ok Spec.sample ∧
    ∃ outcome after, (sample.provision Spec.sample).Leads .quiet {} outcome after ∧
      ∃ acquired world,
        (acquire Spec.sample).Leads .quiet (opened Spec.sample .quiet {}) acquired world ∧
        match acquired with
        | .error _ => after.calls = [] ∧ after.deeds = []
        | .ok _ => sample.CleanedUp Spec.sample .quiet {} after :=
  ⟨Spec.ofFields_sample, provision_cleansUp Spec.ofFields_sample _ _ _⟩

end Toolset.Provisioner
