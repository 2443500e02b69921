import Toolset.Proofs.Calls
import Toolset.Proofs.Telling

/-!
# What a run keeps

A run is made of its calls of git and of the installer, and of the acquisition and the release of
its workspace; in between it logs remarks and tells what it does.  So whatever relates the worlds
before and after each of these relates the worlds before and after the run, if it can be followed
by itself.
-/

namespace Toolset

/-- Wherever an action leads, a relation holds between the worlds before and after it. -/
def Act.Keeps {α : Type} (act : Act α) (host : Host) (relates : World → World → Prop) : Prop :=
  ∀ before outcome after, act.Leads host before outcome after → relates before after

/-- A relation between worlds that holds wherever nothing happens, and that can be followed by
itself. -/
structure Chains (relates : World → World → Prop) : Prop where
  refl : ∀ world, relates world world
  trans : ∀ {before middle after}, relates before middle → relates middle after →
    relates before after

section

variable {α β : Type} {host : Host} {relates : World → World → Prop}

theorem Chains.pure (chains : Chains relates) (a : α) :
    (Pure.pure a : Act α).Keeps host relates := by
  intro before outcome after ran
  obtain ⟨_, rfl⟩ := Act.leads_pure.1 ran
  exact chains.refl after

theorem Chains.throw (chains : Chains relates) (ending : Ending) :
    (MonadExcept.throw ending : Act α).Keeps host relates := by
  intro before outcome after ran
  obtain ⟨_, rfl⟩ := Act.leads_throw.1 ran
  exact chains.refl after

theorem Chains.bind (chains : Chains relates) {act : Act α} {next : α → Act β}
    (first : act.Keeps host relates) (second : ∀ a, (next a).Keeps host relates) :
    (act >>= next).Keeps host relates := by
  intro before outcome after ran
  obtain ⟨a, middle, begun, rest⟩ | ⟨ending, ended, rfl⟩ := Act.leads_bind.1 ran
  · exact chains.trans (first _ _ _ begun) (second a _ _ _ rest)
  · exact first _ _ _ ended

theorem keeps_ite {condition : Prop} [Decidable condition] {first second : Act α}
    (yes : first.Keeps host relates) (no : second.Keeps host relates) :
    (if condition then first else second).Keeps host relates := by
  split
  · exact yes
  · exact no

theorem keeps_get_bind {next : World → Act α} (each : ∀ world, (next world).Keeps host relates) :
    (get >>= next : Act α).Keeps host relates := by
  intro before outcome after ran
  exact each before _ _ _ (Act.leads_get_bind.1 ran)

theorem keeps_read_bind {next : Host → Act α} (keeps : (next host).Keeps host relates) :
    (read >>= next : Act α).Keeps host relates := by
  intro before outcome after ran
  exact keeps _ _ _ (Act.leads_read_bind.1 ran)

theorem Act.Keeps.outcome {act : Act α} (keeps : act.Keeps host relates) :
    act.outcome.Keeps host relates := by
  intro before ended after ran
  obtain ⟨outcome, world, led⟩ := act.exists_leads host before
  obtain ⟨_, rfl⟩ := (Act.leads_outcome led).unique ran
  exact keeps _ _ _ led

end

/-! ## What a run says -/

namespace Log

/-- A message begins with a heading. -/
def begins (heading message : String) : Bool := heading.toList.isPrefixOf message.toList

theorem begins_append {heading first rest : String} :
    begins heading (first ++ rest) = heading.toList.isPrefixOf (first.toList ++ rest.toList) := by
  rw [begins, String.toList_append]

/-- The record is of an event. -/
def Record.isOfEvent (record : Record) : Bool := begins "Provision event: " record.message

/-- The record is of an event that could not be told. -/
def Record.isOfFailure (record : Record) : Bool := begins "Failed to emit event" record.message

/-- The record has nothing to do with events. -/
def Record.IsRemark (record : Record) : Prop :=
  record.isOfEvent = false ∧ record.isOfFailure = false

theorem Record.isRemark_mk {level : Level} {logger message : String} {fields : List Field}
    {trouble : Option Trouble} (event : begins "Provision event: " message = false)
    (failure : begins "Failed to emit event" message = false) :
    (Record.mk level logger message fields trouble).IsRemark :=
  ⟨event, failure⟩

/-- The first part of a message may be enough to tell that. -/
theorem Record.isRemark_append {level : Level} {logger first rest : String} {fields : List Field}
    {trouble : Option Trouble}
    (event : ∀ more, "Provision event: ".toList.isPrefixOf (first.toList ++ more) = false)
    (failure : ∀ more, "Failed to emit event".toList.isPrefixOf (first.toList ++ more) = false) :
    (Record.mk level logger (first ++ rest) fields trouble).IsRemark :=
  isRemark_mk (begins_append.trans (event _)) (begins_append.trans (failure _))

end Log

/-- What a run tells of, and in which details. -/
inductive Provisioner.Tells : EventKind → List Field → Prop where
  | fetching : Tells .stepStarted fetchDetails
  | fetched (skipped : Bool) : Tells .stepCompleted (fetchedDetails skipped)
  | installing (tool : String) : Tells .stepStarted (installDetails tool)
  | installed (tool : String) : Tells .stepCompleted (installDetails tool)
  | failed (failure : Failure) : Tells .error (failureDetails failure)
  | leftBehind (warning : CleanupWarning) : Tells .cleanupWarning (warningDetails warning)
  | completed (report : Report) : Tells .completion (completionDetails report)

/-- A relation that also holds wherever a run only speaks: where it logs a remark, and where it
tells of an event. -/
structure Accompanies (host : Host) (sink : Sink) (source : String)
    (relates : World → World → Prop) : Prop extends Chains relates where
  log : ∀ record, record.IsRemark → (Act.log record).Keeps host relates
  tell : ∀ kind details, Provisioner.Tells kind details →
    (Provisioner.tell sink source kind details).Keeps host relates

/-- A relation that does not look at what is said holds wherever a run only speaks. -/
theorem Accompanies.of_sameDeeds {host : Host} {sink : Sink} {source : String}
    {relates : World → World → Prop}
    (same : ∀ {before after}, SameDeeds before after → relates before after)
    (trans : ∀ {before middle after}, relates before middle → relates middle after →
      relates before after) : Accompanies host sink source relates where
  refl := fun world => same (.refl world)
  trans := trans
  log := by
    intro record _ before outcome after ran
    obtain ⟨_, rfl⟩ := Act.leads_log.1 ran
    exact same (.logged before host record)
  tell := fun _ _ _ _ _ _ ran => same (Provisioner.tell_leads ran).1

open Log.Record (isRemark_mk)

/-! ## Git -/

section

variable {host : Host} {sink : Sink} {source : String} {relates : World → World → Prop} {git : Git}
  (along : Accompanies host sink source relates)
  (execute : ∀ arguments, (git.execute source arguments).Keeps host relates)
include along execute

theorem Git.keeps_succeed (arguments : List String) :
    (git.succeed source arguments).Keeps host relates := by
  rw [Git.succeed]
  apply along.bind (execute arguments)
  intro answer
  exact keeps_ite (along.pure _) (along.throw _)

theorem Git.keeps_resolve (target : Path) (revision : String) (names : List String) :
    (git.resolve source target revision names).Keeps host relates := by
  induction names with
  | nil => exact along.throw _
  | cons name others ih =>
      rw [Git.resolve]
      apply along.bind (execute _)
      intro answer
      exact keeps_ite (along.pure _) ih

theorem Git.keeps_fetch (target : Path) (revision : Option String) :
    (git.fetch source target revision).Keeps host relates := by
  cases revision with
  | none =>
      rw [Git.fetch]
      apply along.bind (along.log (unpinnedRecord source) (isRemark_mk rfl rfl))
      intro _
      apply along.bind (Git.keeps_succeed along execute _)
      exact fun _ => along.log _ (isRemark_mk rfl rfl)
  | some revision =>
      rw [Git.fetch]
      apply along.bind (Git.keeps_succeed along execute _)
      intro _
      apply along.bind (Git.keeps_resolve along execute target revision _)
      intro commit
      apply along.bind (Git.keeps_succeed along execute _)
      exact fun _ => along.log _ (isRemark_mk rfl rfl)

end

namespace Provisioner

variable {host : Host} {provisioner : Provisioner} {spec : Spec} {workspace : Workspace}
  {relates : World → World → Prop}
  (along : Accompanies host provisioner.sink spec.source relates)
include along

/-! ## The work of a run -/

theorem keeps_ensureSource
    (execute : ∀ arguments,
      (provisioner.git.execute spec.source arguments).Keeps host relates) :
    (provisioner.ensureSource spec workspace).Keeps host relates := by
  rw [ensureSource]
  apply keeps_ite
  · apply along.bind (along.log (presentRecord workspace) (isRemark_mk rfl rfl))
    intro _
    exact along.bind (along.tell _ _ (.fetched true)) fun _ => along.pure _
  · apply along.bind (along.tell _ _ .fetching)
    intro _
    apply along.bind (Git.keeps_fetch along execute _ _)
    intro _
    exact along.bind (along.tell _ _ (.fetched false)) fun _ => along.pure _

theorem keeps_installOne
    (run : ∀ tool directory, (provisioner.installer.run tool directory).Keeps host relates)
    (tool : String) : (provisioner.installOne spec workspace tool).Keeps host relates := by
  rw [installOne]
  apply along.bind (along.tell _ _ (.installing tool))
  intro _
  apply along.bind (run _ _)
  intro result
  exact keeps_ite (along.tell _ _ (.installed tool)) (along.throw _)

theorem keeps_installAll
    (run : ∀ tool directory, (provisioner.installer.run tool directory).Keeps host relates)
    (installed tools : List String) :
    (provisioner.installAll spec workspace installed tools).Keeps host relates := by
  induction tools generalizing installed with
  | nil => exact along.pure _
  | cons tool rest ih =>
      rw [installAll]
      exact along.bind (keeps_installOne along run tool) fun _ => ih _

theorem keeps_work
    (execute : ∀ arguments,
      (provisioner.git.execute spec.source arguments).Keeps host relates)
    (run : ∀ tool directory, (provisioner.installer.run tool directory).Keeps host relates) :
    (provisioner.work spec workspace).Keeps host relates := by
  rw [work]
  apply along.bind (keeps_ensureSource along execute)
  intro fetched
  exact along.bind (keeps_installAll along run _ _) fun _ => along.pure _

/-! ## The whole run -/

theorem keeps_tellCleanup (cleanup : Option CleanupWarning) :
    (provisioner.tellCleanup spec cleanup).Keeps host relates := by
  cases cleanup with
  | none => exact along.pure _
  | some warning => exact along.tell _ _ (.leftBehind warning)

theorem keeps_conclude (clock : Act.clock.Keeps host relates) (started : Float)
    (cleanup : Option CleanupWarning) (ended : Except Ending Done) :
    (provisioner.conclude spec started cleanup ended).Keeps host relates := by
  cases ended with
  | error ending =>
      cases ending with
      | failed failure _ =>
          apply along.bind (keeps_tellCleanup along cleanup)
          intro _
          exact along.bind (along.tell _ _ (.failed failure)) fun _ => along.throw _
      | _ => exact along.throw _
  | ok done =>
      apply along.bind clock
      intro now
      apply along.bind (keeps_tellCleanup along cleanup)
      intro _
      exact along.bind (along.tell _ _ (.completed _)) fun _ => along.pure _

/-- What every call, the acquisition and the release keep is kept by a run. -/
theorem keeps_provision (clock : Act.clock.Keeps host relates)
    (acquire : (Workspace.acquire spec).Keeps host relates)
    (release : ∀ path, (Workspace.release path).Keeps host relates)
    (execute : ∀ arguments,
      (provisioner.git.execute spec.source arguments).Keeps host relates)
    (run : ∀ tool directory, (provisioner.installer.run tool directory).Keeps host relates) :
    (provisioner.provision spec).Keeps host relates := by
  have within : (Workspace.within spec (provisioner.work spec)).Keeps host relates := by
    rw [Workspace.within]
    apply along.bind acquire
    intro workspace
    apply along.bind (keeps_work along execute run).outcome
    intro outcome
    exact along.bind (release _) fun _ => along.pure _
  rw [provision]
  apply along.bind clock
  intro started
  apply along.bind (along.log (startRecord spec) (isRemark_mk rfl rfl))
  intro _
  apply along.bind within.outcome
  intro ended
  cases ended with
  | error ending => exact keeps_conclude along clock started none _
  | ok worked => exact keeps_conclude along clock started _ _

end Provisioner

end Toolset
