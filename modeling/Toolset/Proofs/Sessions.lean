import Toolset.Proofs.Containment
import Toolset.Proofs.Endings
import Toolset.Session

/-!
# The way of a session

A session that knows what to run makes one run, at the level of its settings.  All that it
does besides is to log and to push the metrics, which changes no file and starts nothing;
its code is that of the end of the run.  A session that does not know what to run does
nothing at all.
-/

namespace Toolset

theorem Act.leads_map {α β : Type} {f : α → β} {act : Act α} {host : Host} {before after : World}
    {outcome : Except Ending β} :
    (f <$> act).Leads host before outcome after ↔
      ∃ ended, act.Leads host before ended after ∧ outcome = ended.map f := by
  rw [← bind_pure_comp, Act.leads_bind]
  constructor
  · rintro (⟨a, middle, first, ran⟩ | ⟨ending, first, rfl⟩)
    · rcases Act.leads_pure.1 ran with ⟨rfl, rfl⟩
      exact ⟨.ok a, first, rfl⟩
    · exact ⟨.error ending, first, rfl⟩
  · rintro ⟨ended, ran, rfl⟩
    cases ended with
    | ok a => exact .inl ⟨a, after, ran, Act.leads_pure.2 ⟨rfl, rfl⟩⟩
    | error ending => exact .inr ⟨ending, ran, rfl⟩

theorem Settings.tools_of_toSpec {settings : Settings} {spec : Spec}
    (made : settings.toSpec = .ok spec) : spec.tools = settings.tools := by
  rcases (Spec.accepted_of_ofFields made).tools_lead.1 with listed | ⟨absent, _⟩
  · exact (Value.texts_injective (Option.some.inj listed)).symm
  · cases absent

namespace Session

variable {settings : Settings} {spec : Spec} {host : Host} {before after : World}

/-- The host of a session: its log takes the records of the level that is set. -/
def levelled (settings : Settings) (host : Host) : Host :=
  { host with threshold := settings.level.rank }

/-- What is removed does not depend on what is logged. -/
theorem removal_levelled (settings : Settings) (tree : FileTree) (path : Path) :
    Workspace.removal (levelled settings host) tree path = Workspace.removal host tree path := rfl

theorem leavesBehind_levelled (settings : Settings) {tree : FileTree} {path : Path}
    {warning : CleanupWarning} :
    Workspace.LeavesBehind (levelled settings host) tree path warning ↔
      Workspace.LeavesBehind host tree path warning := by
  rw [Workspace.LeavesBehind, Workspace.LeavesBehind, removal_levelled]

/-- The world in which the run of a session starts: the settings were logged, and nothing is
counted yet. -/
def configured (settings : Settings) (spec : Spec) (host : Host) (before : World) : World :=
  { before.logged (levelled settings host) (configurationRecord settings spec) with metrics := {} }

theorem sameDeeds_configured (settings : Settings) (spec : Spec) (host : Host) (before : World) :
    SameDeeds before (configured settings spec host before) := by
  have same := SameDeeds.logged before (levelled settings host)
    (configurationRecord settings spec)
  exact ⟨same.tree, same.time, same.readings, same.calls, same.deeds, same.log⟩

theorem isQuiet_sink (settings : Settings) : (provisionerOf settings).sink.IsQuiet := by
  rw [provisionerOf, Sink.isQuiet_several_iff]
  simp [Sink.isQuiet_logger, Sink.isQuiet_counter]

theorem configure_eq_ok_iff {circumstances : Circumstances} {arguments : CommandLine.Arguments} :
    configure circumstances arguments = .ok (settings, spec) ↔
      settingsOf circumstances arguments = .ok settings ∧ settings.toSpec = .ok spec := by
  rw [configure]
  cases settingsOf circumstances arguments with
  | error error => exact iff_of_false nofun nofun
  | ok found =>
      change (found.toSpec.mapError ConfigError.spec >>= fun spec =>
        pure (found, spec)) = Except.ok (settings, spec) ↔ _
      cases made : found.toSpec with
      | error faults =>
          apply iff_of_false nofun
          rintro ⟨same, other⟩
          cases same
          cases made.symm.trans other
      | ok accepted =>
          constructor
          · intro known
            cases known
            exact ⟨rfl, made⟩
          · rintro ⟨same, other⟩
            cases same
            cases made.symm.trans other
            rfl

theorem configure_error {circumstances : Circumstances} {arguments : CommandLine.Arguments}
    {error : ConfigError} (unknown : configure circumstances arguments = .error error) :
    settingsOf circumstances arguments = .error error ∨ ∃ faults, error = .spec faults := by
  rw [configure] at unknown
  cases read : settingsOf circumstances arguments with
  | error other =>
      rw [read] at unknown
      cases unknown
      exact .inl rfl
  | ok found =>
      rw [read] at unknown
      change (found.toSpec.mapError ConfigError.spec >>= fun spec =>
        pure (found, spec)) = Except.error error at unknown
      cases made : found.toSpec with
      | error faults =>
          rw [made] at unknown
          cases unknown
          exact .inr ⟨faults, rfl⟩
      | ok accepted =>
          rw [made] at unknown
          cases unknown

theorem toSpec_of_configure {circumstances : Circumstances} {arguments : CommandLine.Arguments}
    (known : configure circumstances arguments = .ok (settings, spec)) :
    settings.toSpec = .ok spec :=
  (configure_eq_ok_iff.1 known).2

/-- What a session ends with, by the end of its run. -/
def endOf : Except Ending Report → Except Ending Int
  | .ok report => .ok (match report.cleanup with
      | some _ => CleanupWarning.exitCode
      | none => 0)
  | .error (.failed failure _) => .ok failure.exitCode
  | .error (.cancelled _) => .ok interruptedCode
  | .error ending => .error ending

/-- The deed of pushing samples to a gateway, if there is one. -/
def pushesTo (gateway : Option String) (samples : List Sample) : List Deed :=
  match gateway with
  | none => []
  | some gateway => if gateway.isEmpty then [] else [.pushed gateway samples]

/-- The metrics were pushed, if there is a gateway, and besides only the log was written. -/
structure Closes (gateway : Option String) (before after : World) : Prop where
  calls : after.calls = before.calls
  tree : after.tree = before.tree
  deeds : after.deeds = before.deeds ++ pushesTo gateway before.metrics.samples

namespace Closes

variable {gateway : Option String}

theorem of_logged {record : Log.Record}
    (closes : Closes gateway (before.logged host record) after) : Closes gateway before after := by
  have same := SameDeeds.logged before host record
  have deeds := closes.deeds
  rw [World.metrics_logged, same.deeds] at deeds
  exact ⟨closes.calls.trans same.calls, closes.tree.trans same.tree, deeds⟩

theorem andLogged {pushed : World} (closes : Closes gateway before pushed)
    (same : SameDeeds pushed after) : Closes gateway before after :=
  ⟨same.calls.trans closes.calls, same.tree.trans closes.tree, same.deeds.trans closes.deeds⟩

end Closes

/-- Pushing metrics is a deed of its own, and it always succeeds. -/
theorem push_leads {gateway : String} {outcome : Except Ending Unit}
    (ran : (push gateway).Leads host before outcome after) :
    outcome = .ok () ∧ SameDeeds { before with
      deeds := before.deeds ++ [.pushed gateway before.metrics.samples] } after := by
  rw [push, Act.leads_get_bind, Act.leads_perform_bind, Act.leads_read_bind] at ran
  split at ran
  all_goals
    rcases Act.leads_log.1 ran with ⟨rfl, rfl⟩
    exact ⟨rfl, .logged _ _ _⟩

/-- Metrics are pushed if there is a gateway, and what follows goes on from there. -/
theorem pushes {α : Type} {gateway : Option String} {next : Unit → Act α}
    {outcome : Except Ending α}
    (ran : (pushIfSet gateway >>= next).Leads host before outcome after) :
    ∃ pushed, Closes gateway before pushed ∧ (next ()).Leads host pushed outcome after := by
  cases gateway with
  | none =>
      rw [pushIfSet, pure_bind] at ran
      exact ⟨before, ⟨rfl, rfl, (List.append_nil _).symm⟩, ran⟩
  | some gateway =>
      rw [pushIfSet] at ran
      split at ran
      · rename_i empty
        rw [pure_bind] at ran
        refine ⟨before, ⟨rfl, rfl, ?_⟩, ran⟩
        rw [pushesTo, if_pos empty, List.append_nil]
      · rename_i notEmpty
        rcases Act.leads_bind.1 ran with ⟨_, pushed, first, rest⟩ | ⟨ending, first, rfl⟩
        · have same := (push_leads first).2
          refine ⟨pushed, ⟨same.calls, same.tree, ?_⟩, rest⟩
          rw [same.deeds, pushesTo, if_neg notEmpty]
        · cases (push_leads first).1

theorem conclude_leads {report : Report} {outcome : Except Ending Int}
    (ran : (conclude report).Leads host before outcome after) :
    outcome = endOf (.ok report) ∧ SameDeeds before after := by
  rw [conclude] at ran
  rw [endOf]
  split at ran
  all_goals
    rw [Act.leads_log_bind] at ran
    rcases Act.leads_pure.1 ran with ⟨rfl, rfl⟩
    exact ⟨by simp_all, .logged _ _ _⟩

/-- A session makes one run, and ends by how that ended. -/
theorem provision_leads {outcome : Except Ending Int}
    (ran : (provision settings spec).Leads host before outcome after) :
    ∃ ended finished,
      ((provisionerOf settings).provision spec).Leads host { before with metrics := {} } ended
        finished ∧
      outcome = endOf ended ∧ Closes settings.gateway finished after := by
  rw [provision, Act.leads_modify_bind] at ran
  rcases Act.leads_outcome_bind.1 ran with ⟨ended, finished, provisioned, ran⟩
  refine ⟨ended, finished, provisioned, ?_⟩
  cases ended with
  | ok report =>
      rcases pushes ran with ⟨pushed, closes, ran⟩
      rcases conclude_leads ran with ⟨rfl, same⟩
      exact ⟨rfl, closes.andLogged same⟩
  | error ending =>
      cases ending with
      | failed failure cleanup =>
          rw [Act.leads_log_bind] at ran
          rcases pushes ran with ⟨pushed, closes, ran⟩
          rcases Act.leads_pure.1 ran with ⟨rfl, rfl⟩
          exact ⟨rfl, closes.of_logged⟩
      | cancelled how =>
          rw [Act.leads_log_bind] at ran
          rcases pushes ran with ⟨pushed, closes, ran⟩
          rcases Act.leads_pure.1 ran with ⟨rfl, rfl⟩
          exact ⟨rfl, closes.of_logged⟩
      | _ =>
          rcases pushes ran with ⟨pushed, closes, ran⟩
          rcases Act.leads_throw.1 ran with ⟨rfl, rfl⟩
          exact ⟨rfl, closes⟩

theorem execute_leads {outcome : Except Ending Int}
    (ran : (execute settings spec).Leads host before outcome after) :
    ∃ ended finished,
      ((provisionerOf settings).provision spec).Leads (levelled settings host)
        (configured settings spec host before) ended finished ∧
      outcome = endOf ended ∧ Closes settings.gateway finished after := by
  change (do
    Act.log (configurationRecord settings spec)
    provision settings spec : Act Int).Leads (levelled settings host) before outcome after at ran
  rw [Act.leads_log_bind] at ran
  exact provision_leads ran

/-- The ways of a session. -/
inductive Went (circumstances : Circumstances) (words : List String) (host : Host)
    (before after : World) : Except Ending SessionEnd → Prop where
  /-- The command line asks for help or is refused. -/
  | stopped {stop : CommandLine.Stop} :
      CommandLine.read words = .error stop → after = before →
      Went circumstances words host before after (.ok (.stopped stop))
  /-- There is nothing to run. -/
  | misconfigured {arguments : CommandLine.Arguments} {error : ConfigError} :
      CommandLine.read words = .ok arguments → configure circumstances arguments = .error error →
      after = before → Went circumstances words host before after (.ok (.misconfigured error))
  /-- There was a run. -/
  | ran {arguments : CommandLine.Arguments} {settings : Settings} {spec : Spec}
      {ended : Except Ending Report} {finished : World} :
      CommandLine.read words = .ok arguments →
      configure circumstances arguments = .ok (settings, spec) →
      ((provisionerOf settings).provision spec).Leads (levelled settings host)
        (configured settings spec host before) ended finished →
      Closes settings.gateway finished after →
      Went circumstances words host before after ((endOf ended).map .exited)

theorem run_went {circumstances : Circumstances} {words : List String}
    {outcome : Except Ending SessionEnd}
    (ran : (run circumstances words).Leads host before outcome after) :
    Went circumstances words host before after outcome := by
  rw [run] at ran
  cases read : CommandLine.read words with
  | error stop =>
      rw [read] at ran
      rcases Act.leads_pure.1 ran with ⟨rfl, rfl⟩
      exact .stopped read rfl
  | ok arguments =>
      rw [read] at ran
      dsimp only at ran
      cases known : configure circumstances arguments with
      | error error =>
          rw [known] at ran
          rcases Act.leads_pure.1 ran with ⟨rfl, rfl⟩
          exact .misconfigured read known rfl
      | ok made =>
          rcases made with ⟨settings, spec⟩
          rw [known] at ran
          rcases Act.leads_map.1 ran with ⟨code, executed, rfl⟩
          rcases execute_leads executed with ⟨ended, finished, provisioned, rfl, closes⟩
          exact .ran read known provisioned closes

end Session

end Toolset
