import Toolset.Proofs.Run
import Toolset.Proofs.Waits

/-!
# Processes that are left alone

A process that was started is awaited to its end, or its group is killed and then it is
awaited; but not on every path.  Where the wait for it ends in an error that nothing kills
for, the process is left alone.  These are all the cases, for each call and for the whole
of a run: a process is alive when the workspace is released exactly if the wait for one of
the calls ended so.
-/

namespace Toolset

namespace Provisioner

open Workspace (acquire release)

variable {provisioner : Provisioner}

theorem alive_errands_iff {fetching : List Call} {attempts : List Attempt} {deeds : List Deed}
    (trace : Traced ((errands fetching attempts).map provisioner.passage) deeds) :
    alive deeds = [] ↔
      (∀ call ∈ fetching, provisioner.git.leaves call.behaviour = false) ∧
      ∀ call ∈ attempts.map Attempt.call, provisioner.installer.leaves call.behaviour = false := by
  rw [trace.alive_eq_nil_iff, List.forall_mem_map, errands, List.forall_mem_append,
    List.forall_mem_map, List.forall_mem_map, List.forall_mem_map]
  simp only [passage, course, ne_eq, Git.course_eq_left_iff, Installer.course_eq_left_iff,
    Bool.not_eq_true]

/-- If nothing was alive before a run that acquired its workspace, nothing is alive after it,
unless one of its calls leaves its process. -/
theorem alive_eq_nil_iff_of_worked {spec : Spec} {host : Host}
    {before acquired worked closed after : World} {workspace : Workspace} {fetching : List Call}
    {attempts : List Attempt} {told toldLast : List Event} {ended last : Except Ending Done}
    {released : Except Ending (Option CleanupWarning)} {cleanup : Option CleanupWarning}
    {outcome : Except Ending Report}
    (taken : (acquire spec).Leads host (opened spec host before) (.ok workspace) acquired)
    (whole : provisioner.Worked spec host workspace acquired worked fetching attempts told ended)
    (release : (release workspace.path).Leads host worked released closed)
    (concluded : provisioner.Concluded cleanup last closed after toldLast outcome)
    (none : alive before.deeds = []) :
    alive after.deeds = [] ↔
      (∀ call ∈ fetching, provisioner.git.leaves call.behaviour = false) ∧
      ∀ call ∈ attempts.map Attempt.call, provisioner.installer.leaves call.behaviour = false := by
  rcases added_of_worked taken whole release concluded with ⟨steps, trace, added⟩
  rw [added.deeds, alive_append_of_none none, ← alive_errands_iff trace]
  simp [alive, Deed.alive]

/-- A call reaps its process, by awaiting its end or by killing its group first, unless the
wait for it ends in an error that nothing kills for.  After a run, no process is alive when
the workspace is released exactly if there was no such call. -/
theorem left_iff_leaves (provisioner : Provisioner) (spec : Spec) (host : Host)
    (before : World) :
    (∀ source arguments, ∃ outcome after behaviour course,
      (provisioner.git.execute source arguments).Leads host before outcome after ∧
      Called host (provisioner.git.start arguments) before after behaviour course ∧
      (course = .left ↔ provisioner.git.leaves behaviour = true)) ∧
    (∀ tool directory, ∃ outcome after behaviour course,
      (provisioner.installer.run tool directory).Leads host before outcome after ∧
      Called host (provisioner.installer.start tool directory) before after behaviour course ∧
      (course = .left ↔ provisioner.installer.leaves behaviour = true)) ∧
    ∃ outcome after, (provisioner.provision spec).Leads host before outcome after ∧
      (after.deeds = before.deeds ∨
        ∃ fetching installing steps, provisioner.Issued spec before after fetching installing ∧
          after.deeds = before.deeds ++
            (.acquired spec.clonePath :: steps ++ [.released spec.clonePath]) ∧
          (alive steps = [] ↔
            (∀ call ∈ fetching, provisioner.git.leaves call.behaviour = false) ∧
            ∀ call ∈ installing, provisioner.installer.leaves call.behaviour = false)) := by
  refine ⟨?_, ?_, ?_⟩
  · intro source arguments
    rcases (provisioner.git.execute source arguments).exists_leads host before with
      ⟨outcome, after, ran⟩
    rcases Git.execute_leads ran with ⟨behaviour, called, _⟩
    exact ⟨outcome, after, behaviour, _, ran, called, Git.course_eq_left_iff⟩
  · intro tool directory
    rcases (provisioner.installer.run tool directory).exists_leads host before with
      ⟨outcome, after, ran⟩
    rcases Installer.run_leads ran with ⟨behaviour, _, called, _⟩
    exact ⟨outcome, after, behaviour, _, ran, called, Installer.course_eq_left_iff⟩
  · rcases (provisioner.provision spec).exists_leads host before with ⟨outcome, after, ran⟩
    refine ⟨outcome, after, ran, ?_⟩
    cases provision_leads ran with
    | refused refused concluded =>
        exact .inl (by simpa using (added_of_refused refused concluded).deeds)
    | worked taken work whole release concluded =>
        rcases added_of_worked taken whole release concluded with ⟨steps, trace, added⟩
        have issued := issued_of_worked whole added
        exact .inr ⟨_, _, steps, issued, added.deeds, alive_errands_iff trace⟩

end Provisioner

end Toolset
