import Toolset.Proofs.Likeness
import Toolset.Run

/-!
# What a sink cannot change

Nothing that a run does looks at what is said of it.  So the parts of a run agree with
themselves in any two worlds that are alike, and two runs whose provisioners differ in
their sinks agree step by step, as long as the telling of each event agrees.
-/

namespace Toolset

open Comparison

variable {comparison : Comparison}

/-! ## Git -/

namespace Git

theorem agree_fail {α : Type} (source cause : String) :
    comparison.Agree (fail source cause : Act α) (fail source cause) :=
  agree_throw _

theorem agree_await (git : Git) (source : String) (arguments : List String) (running : Running) :
    comparison.Agree (git.await source arguments running) (git.await source arguments running) := by
  rw [await]
  cases git.verdict running.process with
  | done => exact (agree_perform _).bind fun _ => agree_pure _
  | timedOut => exact (agree_kill _).bind fun _ => agree_fail _ _
  | cancelled how => exact (agree_kill _).bind fun _ => agree_throw _
  | failed error => exact agree_throw _
  | tooLarge => exact agree_throw _

theorem agree_execute (git : Git) (source : String) (arguments : List String) :
    comparison.Agree (git.execute source arguments) (git.execute source arguments) := by
  rw [execute]
  apply (agree_log _ _).bind
  intro _
  apply (agree_launch _).bind
  intro started
  cases started with
  | ok running => exact agree_await git source arguments running
  | error interruption =>
      cases interruption with
      | cancelled how => exact agree_throw _
      | timedOut => exact agree_fail _ _
      | failed error => exact agree_fail _ _

theorem agree_succeed (git : Git) (source : String) (arguments : List String) :
    comparison.Agree (git.succeed source arguments) (git.succeed source arguments) := by
  rw [succeed]
  apply (agree_execute git source arguments).bind
  intro answer
  exact agree_ite (fun _ => agree_pure _) (fun _ => agree_fail _ _)

theorem agree_resolve (git : Git) (source : String) (target : Path) (revision : String)
    (names : List String) :
    comparison.Agree (git.resolve source target revision names)
      (git.resolve source target revision names) := by
  induction names with
  | nil => exact agree_fail _ _
  | cons name others ih =>
      rw [resolve]
      apply (agree_execute git source _).bind
      intro answer
      exact agree_ite (fun _ => agree_pure _) (fun _ => ih)

theorem agree_fetch (git : Git) (source : String) (target : Path) (revision : Option String) :
    comparison.Agree (git.fetch source target revision) (git.fetch source target revision) := by
  cases revision with
  | none =>
      rw [fetch]
      apply (agree_log _ _).bind
      intro _
      exact (agree_succeed git source _).bind fun _ => agree_log _ _
  | some revision =>
      rw [fetch]
      apply (agree_succeed git source _).bind
      intro _
      apply (agree_resolve git source target revision _).bind
      intro commit
      exact (agree_succeed git source _).bind fun _ => agree_log _ _

end Git

/-! ## The installer -/

namespace Installer

theorem agree_logLines (stream : String) (lines : List String) :
    comparison.Agree (logLines stream lines) (logLines stream lines) := by
  induction lines with
  | nil => exact agree_pure _
  | cons line rest ih =>
      rw [logLines]
      exact (agree_log _ _).bind fun _ => ih

theorem agree_collect (limit : Option Seconds) (process : Process) :
    comparison.Agree (collect limit process) (collect limit process) := by
  rw [collect]
  apply agree_ite (fun _ => agree_pure _)
  intro _
  apply agree_ite (fun _ => agree_pure _)
  intro _
  apply (agree_logLines _ _).bind
  intro _
  apply agree_ite
  · intro _
    exact (agree_logLines _ _).bind fun _ => agree_pure _
  · intro _
    exact agree_pure _

theorem agree_giveUp (message : String) (started : Float) :
    comparison.Agree (giveUp message started) (giveUp message started) := by
  rw [giveUp]
  apply agree_clock.bind
  intro _
  exact (agree_log _ _).bind fun _ => agree_pure _

theorem agree_finish (tool : Path) (process : Process) (started : Float) :
    comparison.Agree (finish tool process started) (finish tool process started) := by
  rw [finish]
  apply agree_clock.bind
  intro _
  exact (agree_log _ _).bind fun _ => agree_pure _

theorem agree_await (installer : Installer) (tool : Path) (started : Float) (running : Running) :
    comparison.Agree (installer.await tool started running)
      (installer.await tool started running) := by
  rw [await]
  apply (agree_collect _ _).bind
  intro wait
  cases wait with
  | done => exact (agree_perform _).bind fun _ => agree_finish _ _ _
  | timedOut => exact (agree_kill _).bind fun _ => agree_giveUp _ _
  | cancelled how => exact (agree_kill _).bind fun _ => agree_throw _
  | failed error => exact agree_giveUp _ _
  | abandoned => exact agree_throw _
  | overlong ended => exact agree_throw _
  | tooLarge => exact agree_throw _

theorem agree_refuse (installer : Installer) (started : Float) (interruption : Interruption) :
    comparison.Agree (installer.refuse started interruption)
      (installer.refuse started interruption) := by
  cases interruption with
  | cancelled how => exact agree_throw _
  | timedOut => exact agree_giveUp _ _
  | failed error => exact agree_giveUp _ _

theorem agree_run (installer : Installer) (tool : Path) (directory : Option Path) :
    comparison.Agree (installer.run tool directory) (installer.run tool directory) := by
  rw [run]
  apply agree_clock.bind
  intro started
  apply (agree_log _ _).bind
  intro _
  apply (agree_launch _).bind
  intro launched
  cases launched with
  | ok running => exact agree_await installer tool started running
  | error interruption => exact agree_refuse installer started interruption

end Installer

/-! ## The workspace -/

namespace Workspace

theorem agree_acquire (spec : Spec) : comparison.Agree (acquire spec) (acquire spec) := by
  rw [acquire]
  apply agree_get
  intro left right alike
  rw [← alike.tree]
  rcases survey left.tree spec with ⟨surveyed, found⟩
  apply (agree_setTree surveyed alike).bind
  intro _
  apply (agree_resume found).bind
  intro preexisting
  apply (agree_log _ _).bind
  intro _
  exact (agree_perform _).bind fun _ => agree_pure _

theorem agree_release (removes : removal comparison.left = removal comparison.right)
    (path : Path) : comparison.Agree (release path) (release path) := by
  rw [release]
  apply (agree_perform _).bind
  intro _
  apply agree_get
  intro left right alike
  rw [← alike.tree]
  refine (agree_answer _ alike).bind fun isThere => agree_ite ?_ fun _ => agree_pure _
  intro _ left right alike
  simp only [AgreeAt, Act.leads_read_bind, Act.leads_get_bind, ← removes, ← alike.tree]
  rcases removal comparison.left left.tree path with ⟨removed, failed⟩
  apply (agree_setTree removed alike).bind
  intro _
  cases failed with
  | none => exact (agree_log _ _).bind fun _ => agree_pure _
  | some error => exact (agree_log _ _).bind fun _ => agree_pure _

/-- Work that agrees, in a workspace that is released alike. -/
theorem agree_within {α : Type} (removes : removal comparison.left = removal comparison.right)
    (spec : Spec) {first second : Workspace → Act α}
    (agree : ∀ workspace, comparison.Agree (first workspace) (second workspace)) :
    comparison.Agree (within spec first) (within spec second) := by
  rw [within, within]
  apply (agree_acquire spec).bind
  intro workspace
  apply (agree workspace).outcome.bind
  intro outcome
  exact (agree_release removes _).bind fun _ => agree_pure _

end Workspace

/-! ## Runs -/

namespace Provisioner

/-- The provisioner whose runs another sink is told of. -/
def toldTo (provisioner : Provisioner) (sink : Sink) : Provisioner := { provisioner with sink }

/-- Two sinks are told alike. -/
def TellAlike (comparison : Comparison) (first second : Sink) : Prop :=
  ∀ source kind details,
    comparison.Agree (tell first source kind details) (tell second source kind details)

variable {first second : Sink} (provisioner : Provisioner) (spec : Spec)

theorem agree_ensureSource (told : TellAlike comparison first second) (workspace : Workspace) :
    comparison.Agree ((provisioner.toldTo first).ensureSource spec workspace)
      ((provisioner.toldTo second).ensureSource spec workspace) := by
  rw [ensureSource, ensureSource]
  apply agree_ite
  · intro _
    apply (agree_log _ _).bind
    intro _
    exact (told _ _ _).bind fun _ => agree_pure _
  · intro _
    apply (told _ _ _).bind
    intro _
    apply (Git.agree_fetch _ _ _ _).bind
    intro _
    exact (told _ _ _).bind fun _ => agree_pure _

theorem agree_installOne (told : TellAlike comparison first second) (workspace : Workspace)
    (tool : String) :
    comparison.Agree ((provisioner.toldTo first).installOne spec workspace tool)
      ((provisioner.toldTo second).installOne spec workspace tool) := by
  rw [installOne, installOne]
  apply (told _ _ _).bind
  intro _
  apply (Installer.agree_run _ _ _).bind
  intro result
  exact agree_ite (fun _ => told _ _ _) (fun _ => agree_throw _)

theorem agree_installAll (told : TellAlike comparison first second) (workspace : Workspace)
    (installed tools : List String) :
    comparison.Agree ((provisioner.toldTo first).installAll spec workspace installed tools)
      ((provisioner.toldTo second).installAll spec workspace installed tools) := by
  induction tools generalizing installed with
  | nil => exact agree_pure _
  | cons tool rest ih =>
      rw [installAll, installAll]
      exact (agree_installOne provisioner spec told workspace tool).bind fun _ => ih _

theorem agree_work (told : TellAlike comparison first second) (workspace : Workspace) :
    comparison.Agree ((provisioner.toldTo first).work spec workspace)
      ((provisioner.toldTo second).work spec workspace) := by
  rw [work, work]
  apply (agree_ensureSource provisioner spec told workspace).bind
  intro fetched
  exact (agree_installAll provisioner spec told workspace _ _).bind fun _ => agree_pure _

theorem agree_tellCleanup (told : TellAlike comparison first second)
    (cleanup : Option CleanupWarning) :
    comparison.Agree ((provisioner.toldTo first).tellCleanup spec cleanup)
      ((provisioner.toldTo second).tellCleanup spec cleanup) := by
  cases cleanup with
  | none => exact agree_pure _
  | some warning => exact told _ _ _

theorem agree_conclude (told : TellAlike comparison first second) (started : Float)
    (cleanup : Option CleanupWarning) (ended : Except Ending Done) :
    comparison.Agree ((provisioner.toldTo first).conclude spec started cleanup ended)
      ((provisioner.toldTo second).conclude spec started cleanup ended) := by
  cases ended with
  | ok done =>
      rw [conclude, conclude, completeRun, completeRun]
      apply agree_clock.bind
      intro _
      apply (agree_tellCleanup provisioner spec told cleanup).bind
      intro _
      exact (told _ _ _).bind fun _ => agree_pure _
  | error ending =>
      cases ending with
      | failed failure early =>
          rw [conclude, conclude, failRun, failRun]
          apply (agree_tellCleanup provisioner spec told cleanup).bind
          intro _
          exact (told _ _ _).bind fun _ => agree_throw _
      | _ => exact agree_throw _

theorem agree_provision (told : TellAlike comparison first second)
    (removes : Workspace.removal comparison.left = Workspace.removal comparison.right) :
    comparison.Agree ((provisioner.toldTo first).provision spec)
      ((provisioner.toldTo second).provision spec) := by
  rw [provision, provision]
  apply agree_clock.bind
  intro started
  apply (agree_log _ _).bind
  intro _
  apply (Workspace.agree_within removes spec (agree_work provisioner spec told)).outcome.bind
  intro within
  cases within with
  | error ending => exact agree_conclude provisioner spec told _ _ _
  | ok done => exact agree_conclude provisioner spec told _ _ _

end Provisioner

end Toolset
