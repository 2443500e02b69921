import Toolset.Proofs.Conclusion
import Toolset.Proofs.Release
import Toolset.Proofs.Work

/-!
# Runs

A run goes one of two ways.  Either its workspace cannot be acquired, and it does
nothing more; or the work is done in the workspace, which is released afterwards.
All that is said of runs follows from what the parts of each way do.
-/

namespace Toolset

/-- A host whose programs all succeed and change nothing. -/
def Host.quiet : Host where
  program := fun _ _ _ => .runs {}

open Workspace (acquire release)

namespace Provisioner

/-- A provisioner whose runs nobody is told of. -/
def sample : Provisioner where
  git := {}
  installer := { command := ["install"] }

variable {provisioner : Provisioner} {spec : Spec} {host : Host} {before after : World}
  {outcome : Except Ending Report}

/-- The world in which a run acquires its workspace: the clock was read, and the start of
the run logged. -/
def opened (spec : Spec) (host : Host) (before : World) : World :=
  (Act.ticked host before).logged host (startRecord spec)

@[simp] theorem tree_opened : (opened spec host before).tree = before.tree :=
  (SameDeeds.logged _ _ _).tree

theorem added_opened (spec : Spec) (host : Host) (before : World) :
    Added before (opened spec host before) [] [] [] :=
  (Added.logged _ _ _).of_ticked

/-- A run acquires its workspace as in the world before it, for until then it only reads the
clock and logs its start. -/
theorem acquired_of_opened {acquired : World} {outcome : Except Ending Workspace}
    (ran : (acquire spec).Leads host (opened spec host before) outcome acquired) :
    Workspace.Acquired spec before acquired outcome := by
  have acquires := Workspace.acquire_leads ran
  have added := (added_opened spec host before).trans acquires.added
  rw [tree_opened] at added
  exact ⟨by rw [acquires.tree, tree_opened], by rw [acquires.outcome, tree_opened], added⟩

/-- What a run goes by after its workspace was released: why that is left behind, and
how the work ended. A workspace that cannot be looked for makes up an end of its
own. -/
def afterRelease (ended : Except Ending Done) :
    Except Ending (Option CleanupWarning) → Option CleanupWarning × Except Ending Done
  | .ok cleanup => (cleanup, ended)
  | .error ending => (none, .error ending)

theorem cleanup_afterRelease_iff {ended : Except Ending Done}
    {released : Except Ending (Option CleanupWarning)} {warning : CleanupWarning} :
    (afterRelease ended released).1 = some warning ↔ released = .ok (some warning) := by
  cases released <;> simp [afterRelease]

/-- A run reaches the release of its workspace in a given world. -/
def Releases (provisioner : Provisioner) (spec : Spec) (host : Host) (before worked : World) :
    Prop :=
  ∃ workspace acquired ended,
    (acquire spec).Leads host (opened spec host before) (.ok workspace) acquired ∧
    (provisioner.work spec workspace).Leads host acquired ended worked

/-- The ways of a run, part by part. -/
inductive Went (provisioner : Provisioner) (spec : Spec) (host : Host) (before after : World)
    (outcome : Except Ending Report) : Prop where
  /-- The workspace is not acquired. -/
  | refused {ending : Ending} {closed : World} :
      (acquire spec).Leads host (opened spec host before) (.error ending) closed →
      (provisioner.conclude spec before.time none (.error ending)).Leads host closed outcome
        after →
      Went provisioner spec host before after outcome
  /-- The work is done in the workspace, which is released. -/
  | worked {workspace : Workspace} {acquired worked closed : World} {ended : Except Ending Done}
      {released : Except Ending (Option CleanupWarning)} :
      (acquire spec).Leads host (opened spec host before) (.ok workspace) acquired →
      (provisioner.work spec workspace).Leads host acquired ended worked →
      (release workspace.path).Leads host worked released closed →
      (provisioner.conclude spec before.time (afterRelease ended released).1
        (afterRelease ended released).2).Leads host closed outcome after →
      Went provisioner spec host before after outcome

theorem provision_went
    (ran : (provisioner.provision spec).Leads host before outcome after) :
    provisioner.Went spec host before after outcome := by
  rw [provision, Act.leads_clock_bind, Act.leads_log_bind] at ran
  rcases Act.leads_outcome_bind.1 ran with ⟨ended, closed, within, ran⟩
  obtain ⟨ending, refused, rfl⟩ |
    ⟨workspace, acquired, done, worked, taken, work, release⟩ := Workspace.within_leads within
  · exact .refused refused ran
  · rcases release with ⟨cleanup, released, rfl⟩ | ⟨ending, unseen, rfl⟩
    · exact .worked taken work released ran
    · exact .worked taken work unseen ran

/-- The ways of a run, and what its parts do on each. -/
inductive Provisioned (provisioner : Provisioner) (spec : Spec) (host : Host)
    (before after : World) (outcome : Except Ending Report) : Prop where
  /-- The workspace is not acquired. -/
  | refused {ending : Ending} {closed : World} {told : List Event} :
      (acquire spec).Leads host (opened spec host before) (.error ending) closed →
      provisioner.Concluded none (.error ending) closed after told outcome →
      Provisioned provisioner spec host before after outcome
  /-- The work is done in the workspace, which is released. -/
  | worked {workspace : Workspace} {acquired worked closed : World} {fetching : List Call}
      {attempts : List Attempt} {told toldLast : List Event} {ended : Except Ending Done}
      {released : Except Ending (Option CleanupWarning)} :
      (acquire spec).Leads host (opened spec host before) (.ok workspace) acquired →
      (provisioner.work spec workspace).Leads host acquired ended worked →
      provisioner.Worked spec host workspace acquired worked fetching attempts told ended →
      (release workspace.path).Leads host worked released closed →
      provisioner.Concluded (afterRelease ended released).1 (afterRelease ended released).2
        closed after toldLast outcome →
      Provisioned provisioner spec host before after outcome

/-- On each way of a run its parts do what they do by themselves. -/
theorem provision_leads
    (ran : (provisioner.provision spec).Leads host before outcome after) :
    provisioner.Provisioned spec host before after outcome := by
  cases provision_went ran with
  | refused refused conclude =>
      rcases conclude_leads conclude with ⟨told, concluded⟩
      exact .refused refused concluded
  | worked taken work release conclude =>
      rcases (acquired_of_opened taken).workspace_eq with ⟨_, _, rfl⟩
      rcases work_leads rfl work with ⟨fetching, attempts, told, whole⟩
      rcases conclude_leads conclude with ⟨toldLast, concluded⟩
      exact .worked taken work whole release concluded

/-- The calls of a run: those of git, and after them those of the installer. -/
structure Issued (provisioner : Provisioner) (spec : Spec) (before after : World)
    (fetching installing : List Call) : Prop where
  calls : after.calls = before.calls ++ (fetching ++ installing)
  fetching : ∀ call ∈ fetching, ∃ arguments, call.start = provisioner.git.start arguments
  installing : ∀ call ∈ installing, ∃ tool,
    call.start = provisioner.installer.start (spec.toolPath tool) (some spec.clonePath)

theorem added_of_refused {ending : Ending} {closed : World} {told : List Event}
    (refused : (acquire spec).Leads host (opened spec host before) (.error ending) closed)
    (concluded : provisioner.Concluded none (.error ending) closed after told outcome) :
    Added before after [] [] told :=
  (acquired_of_opened refused).added_of_error.trans concluded.added

/-- A run that acquired its workspace adds the calls of its work, and between acquiring
and releasing the workspace the deeds of those calls. -/
theorem added_of_worked {workspace : Workspace} {acquired worked closed : World}
    {fetching : List Call} {attempts : List Attempt} {told toldLast : List Event}
    {ended : Except Ending Done} {released : Except Ending (Option CleanupWarning)}
    {cleanup : Option CleanupWarning} {last : Except Ending Done}
    (taken : (acquire spec).Leads host (opened spec host before) (.ok workspace) acquired)
    (whole : provisioner.Worked spec host workspace acquired worked fetching attempts told ended)
    (release : (release workspace.path).Leads host worked released closed)
    (concluded : provisioner.Concluded cleanup last closed after toldLast outcome) :
    ∃ steps, Traced ((errands fetching attempts).map provisioner.passage) steps ∧
      Added before after (fetching ++ attempts.map Attempt.call)
        (.acquired spec.clonePath :: steps ++ [.released spec.clonePath]) (told ++ toldLast) := by
  have acquires := acquired_of_opened taken
  rcases acquires.workspace_eq with ⟨_, _, rfl⟩
  rcases whole.stage.added with ⟨steps, trace, working⟩
  have all := ((acquires.added_of_ok.trans working).trans
    (Workspace.added_of_release release)).trans concluded.added
  rw [call_errands] at all
  exact ⟨steps, trace, by simpa using all⟩

theorem issued_of_refused {ending : Ending} {closed : World} {told : List Event}
    (refused : (acquire spec).Leads host (opened spec host before) (.error ending) closed)
    (concluded : provisioner.Concluded none (.error ending) closed after told outcome) :
    provisioner.Issued spec before after [] [] :=
  ⟨(added_of_refused refused concluded).calls, by simp, by simp⟩

theorem issued_of_worked {workspace : Workspace} {acquired worked : World} {fetching : List Call}
    {attempts : List Attempt} {deeds : List Deed} {told events : List Event}
    {ended : Except Ending Done}
    (whole : provisioner.Worked spec host workspace acquired worked fetching attempts told ended)
    (added : Added before after (fetching ++ attempts.map Attempt.call) deeds events) :
    provisioner.Issued spec before after fetching (attempts.map Attempt.call) := by
  rcases whole.runs with ⟨_, _, _, _, _, runs⟩
  refine ⟨added.calls, whole.issued, ?_⟩
  intro call member
  rcases List.mem_map.1 member with ⟨attempt, among, rfl⟩
  rcases List.append_of_mem among with ⟨earlier, later, rfl⟩
  rcases runs.attempted with ⟨_, _, _, attempted⟩
  exact ⟨attempt.tool, attempted.start⟩

end Provisioner

end Toolset
