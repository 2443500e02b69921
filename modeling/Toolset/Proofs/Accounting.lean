import Toolset.Proofs.Acceptance
import Toolset.Proofs.Run

/-!
# Runs that are accounted for

The callers of a run are told to expect a report, or one of three failures, and an event
that says which.  A run keeps to that exactly if nothing escapes from the calls that it
makes, its workspace can be looked for, and no sink calls it off.
-/

namespace Toolset

/-- A run is accounted for: there is a report, and one event told of the completion; or
the run failed in an expected way, and one event told of the failure. -/
def Accounted (outcome : Except Ending Report) (told : List Event) : Prop :=
  match outcome with
  | .ok _ =>
      (told.map Event.kind).count .completion = 1 ∧ (told.map Event.kind).count .error = 0
  | .error ending => ending.isDocumented = true ∧
      (told.map Event.kind).count .error = 1 ∧ (told.map Event.kind).count .completion = 0

namespace Provisioner

open Workspace (acquire release)

variable {provisioner : Provisioner} {spec : Spec} {host : Host} {before after : World}
  {outcome : Except Ending Report}

theorem count_of_steps {told : List Event} (kind : EventKind) (noStep : kind.isStep = false)
    (steps : ∀ event ∈ told, event.kind.isStep = true) : (told.map Event.kind).count kind = 0 := by
  rw [List.count_eq_zero]
  intro member
  rcases List.mem_map.1 member with ⟨event, among, rfl⟩
  rw [steps event among] at noStep
  cases noStep

theorem accounted_append_iff {steps told : List Event}
    (isStep : ∀ event ∈ steps, event.kind.isStep = true) :
    Accounted outcome (steps ++ told) ↔ Accounted outcome told := by
  have completion := count_of_steps .completion rfl isStep
  have error := count_of_steps .error rfl isStep
  cases outcome <;> simp [Accounted, completion, error]

/-- What is told at the end of a run fits an end that was expected, and no other. -/
theorem accounted_of_kinds {cleanup : Option CleanupWarning} {ended : Except Ending Done}
    {told : List Event} {duration : Float}
    (kinds : told.map Event.kind = closingKinds cleanup ended) :
    Accounted (concluded cleanup duration ended) told ↔ Documented ended := by
  cases ended with
  | ok done =>
      refine iff_of_true ?_ documented_ok
      rw [concluded, Accounted, kinds, closingKinds]
      cases cleanup <;> exact ⟨rfl, rfl⟩
  | error ending =>
      rw [documented_error]
      cases ending with
      | failed failure early =>
          have same : (Ending.failed failure cleanup).isDocumented =
              (Ending.failed failure early).isDocumented := by
            cases failure <;> rfl
          rw [concluded, Accounted, kinds, closingKinds, same]
          refine and_iff_left ?_
          cases cleanup <;> exact ⟨rfl, rfl⟩
      | _ =>
          refine iff_of_false (fun accounted => ?_) (fun documented => ?_)
          · cases accounted.1
          · cases documented

/-- Once its work is over, a run is accounted for if its work ended in an expected way and
no sink calls it off. -/
theorem Concluded.accounted_iff {cleanup : Option CleanupWarning} {ended : Except Ending Done}
    {told : List Event}
    (concluded : provisioner.Concluded cleanup ended before after told outcome) :
    Accounted outcome told ↔
      Documented ended ∧ ∀ event ∈ told, provisioner.sink.cancels event = false := by
  rcases concluded.ended with ⟨heard, kinds, duration, rfl⟩ | ⟨⟨event, member, cancels⟩, rfl⟩
  · rw [accounted_of_kinds kinds]
    exact (and_iff_left heard).symm
  · refine iff_of_false (fun accounted => ?_) (fun both => ?_)
    · cases accounted.1
    · rw [both.2 event member] at cancels
      cases cancels

theorem regular_errands_iff {fetching : List Call} {attempts : List Attempt} {told : List Event} :
    provisioner.Regular (errands fetching attempts) told ↔
      (∀ call ∈ fetching, provisioner.git.escape? call.behaviour = none) ∧
      (∀ call ∈ attempts.map Attempt.call, provisioner.installer.escape? call.behaviour = none) ∧
      ∀ event ∈ told, provisioner.sink.cancels event = false := by
  have regular_iff : provisioner.Regular (errands fetching attempts) told ↔
      (∀ errand ∈ errands fetching attempts, provisioner.escape? errand = none) ∧
      ∀ event ∈ told, provisioner.sink.cancels event = false :=
    ⟨fun regular => ⟨regular.errands, regular.told⟩, fun both => ⟨both.1, both.2⟩⟩
  rw [regular_iff, errands, List.forall_mem_append, List.forall_mem_map, List.forall_mem_map,
    List.forall_mem_map, and_assoc]
  rfl

/-- After a release it can be seen whether the clone is there exactly if it could be seen
before. -/
theorem answered_iff_of_release {fields : List Field} {worked closed : World}
    {released : Except Ending (Option CleanupWarning)} (accepted : Spec.ofFields fields = .ok spec)
    (release : (release spec.clonePath).Leads host worked released closed) :
    (∃ isThere, closed.tree.exists? spec.clonePath = .ok isThere) ↔
      ∃ cleanup, released = .ok cleanup := by
  rcases Workspace.release_leads release with
    ⟨cleanup, rfl, freed⟩ | ⟨error, unanswered, rfl, sameTree, _⟩
  · refine iff_of_true ?_ ⟨cleanup, rfl⟩
    cases cleanup with
    | none =>
        rcases freed.removed rfl with ⟨absent, same⟩ | removed
        · exact ⟨false, by rw [same, absent]⟩
        · exact ⟨false, Spec.exists?_clonePath_of_removeTree accepted removed⟩
    | some warning =>
        rcases (freed.leftBehind warning rfl).2.1 with same | broken
        · rw [same]
          exact freed.answered
        · rw [broken]
          rcases worked.tree.exists?_breakOff spec.clonePath host.spared with same | gone
          · rw [same]
            exact freed.answered
          · exact ⟨false, gone⟩
  · simp [sameTree, unanswered]

/-- The end of the work counts after a release, which has no documented end of its own. -/
theorem documented_afterRelease_iff {path : Path} {worked closed : World}
    {ended : Except Ending Done} {released : Except Ending (Option CleanupWarning)}
    (release : (release path).Leads host worked released closed) :
    Documented (afterRelease ended released).2 ↔
      Documented ended ∧ ∃ cleanup, released = .ok cleanup := by
  rcases Workspace.release_leads release with ⟨cleanup, rfl, freed⟩ | ⟨error, _, rfl, _, _⟩
  · exact (and_iff_left ⟨cleanup, rfl⟩).symm
  · simp [afterRelease, documented_error, Ending.isDocumented]

/-- A run of an accepted specification is accounted for exactly if its workspace is acquired
or cannot be prepared, nothing escapes from its calls, it can be seen in the end whether its
clone is there, and no event makes its sink call it off. -/
theorem provision_accounted_iff {fields : List Field} (accepted : Spec.ofFields fields = .ok spec)
    (provisioner : Provisioner) (host : Host) (before : World) :
    ∃ outcome after fetching installing told,
      (provisioner.provision spec).Leads host before outcome after ∧
      provisioner.Issued spec before after fetching installing ∧
      after.told = before.told ++ told ∧
      (Accounted outcome told ↔
        (∀ ending world, (acquire spec).Leads host (opened spec host before) (.error ending) world →
          ending.isDocumented = true) ∧
        (∀ workspace world,
          (acquire spec).Leads host (opened spec host before) (.ok workspace) world →
          ∃ isThere, after.tree.exists? spec.clonePath = .ok isThere) ∧
        (∀ call ∈ fetching, provisioner.git.escape? call.behaviour = none) ∧
        (∀ call ∈ installing, provisioner.installer.escape? call.behaviour = none) ∧
        ∀ event ∈ told, provisioner.sink.cancels event = false) := by
  rcases (provisioner.provision spec).exists_leads host before with ⟨outcome, after, ran⟩
  cases provision_leads ran with
  | @refused ending closed told refused concluded =>
      refine ⟨outcome, after, [], [], told, ran, issued_of_refused refused concluded,
        (added_of_refused refused concluded).told, ?_⟩
      rw [concluded.accounted_iff, documented_error]
      constructor
      -- acquiring leads to one place only, so the refusal is the one that is asked about
      · rintro ⟨documented, heard⟩
        refine ⟨?_, ?_, by simp, by simp, heard⟩
        · intro other world again
          cases (refused.unique again).1
          exact documented
        · intro workspace world again
          cases (refused.unique again).1
      · rintro ⟨documented, _, _, _, heard⟩
        exact ⟨documented ending closed refused, heard⟩
  | @worked workspace acquired worked closed fetching attempts told toldLast ended released
      taken work whole release concluded =>
      rcases added_of_worked taken whole release concluded with ⟨steps, trace, added⟩
      refine ⟨outcome, after, fetching, attempts.map Attempt.call, told ++ toldLast, ran,
        issued_of_worked whole added, added.told, ?_⟩
      rcases (Workspace.acquire_leads taken).workspace_eq with ⟨_, _, rfl⟩
      rw [accounted_append_iff whole.stage.steps, concluded.accounted_iff,
        documented_afterRelease_iff release, whole.stage.documented_iff, regular_errands_iff,
        ← answered_iff_of_release accepted release, ← concluded.tree, List.forall_mem_append]
      constructor
      · rintro ⟨⟨⟨fetched, installed, heard⟩, answered⟩, heardLast⟩
        refine ⟨?_, fun _ _ _ => answered, fetched, installed, heard, heardLast⟩
        intro ending world again
        cases (taken.unique again).1
      · rintro ⟨_, answered, fetched, installed, heard, heardLast⟩
        exact ⟨⟨⟨fetched, installed, heard⟩, answered _ _ taken⟩, heardLast⟩

theorem provision_accounted_iff_sample :
    Spec.ofFields Spec.sample.fields = .ok Spec.sample ∧
    ∃ outcome after fetching installing told,
      (sample.provision Spec.sample).Leads .quiet {} outcome after ∧
      sample.Issued Spec.sample {} after fetching installing ∧ after.told = [] ++ told ∧
      (Accounted outcome told ↔
        (∀ ending world,
          (acquire Spec.sample).Leads .quiet (opened Spec.sample .quiet {}) (.error ending) world →
          ending.isDocumented = true) ∧
        (∀ workspace world,
          (acquire Spec.sample).Leads .quiet (opened Spec.sample .quiet {}) (.ok workspace) world →
          ∃ isThere, after.tree.exists? Spec.sample.clonePath = .ok isThere) ∧
        (∀ call ∈ fetching, sample.git.escape? call.behaviour = none) ∧
        (∀ call ∈ installing, sample.installer.escape? call.behaviour = none) ∧
        ∀ event ∈ told, sample.sink.cancels event = false) :=
  ⟨Spec.ofFields_sample, provision_accounted_iff Spec.ofFields_sample _ _ _⟩

end Provisioner

end Toolset
