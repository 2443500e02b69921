import Toolset.Proofs.Acceptance
import Toolset.Proofs.Entries
import Toolset.Proofs.Keeping
import Toolset.Proofs.Preparation
import Toolset.Proofs.Run
import Toolset.Proofs.Streaming

/-!
# Events in the log

A run that tells the log of its events leaves one record of each there, in their order, and
whatever else it logs is no record of an event.  The fields of such a record are those of the
event and its details.  No two of them share a name, so no detail is lost and none takes the
place of a field of the event; and no name is that of an attribute, so no record is refused.
-/

namespace Toolset

/-! ## The fields of an event -/

theorem setField_of_notMem {fields : List Field} {name : String} (value : Value)
    (fresh : name ∉ fields.map Prod.fst) :
    setField fields name value = fields ++ [(name, value)] := by
  have absent : fields.any (·.1 == name) = false := by
    rw [List.any_eq_false]
    intro field member same
    exact fresh (List.mem_map.2 ⟨field, member, beq_iff_eq.1 same⟩)
  rw [setField, absent, if_neg Bool.false_ne_true]

/-- Fields with names of their own are all added. -/
theorem override_of_nodup {fields others : List Field}
    (distinct : ((fields ++ others).map Prod.fst).Nodup) :
    override fields others = fields ++ others := by
  induction others generalizing fields with
  | nil => rw [override, List.foldl_nil, List.append_nil]
  | cons other rest ih =>
      have fresh : other.1 ∉ fields.map Prod.fst := by
        rw [List.map_append, List.nodup_append'] at distinct
        exact fun member => distinct.2.2 member List.mem_cons_self
      have moved : fields ++ other :: rest = fields ++ [other] ++ rest := by simp
      rw [override, List.foldl_cons, setField_of_notMem other.2 fresh]
      rw [moved] at distinct ⊢
      exact ih distinct

/-- The fields of an event that are not details. -/
def Event.ownFields (event : Event) : List Field :=
  [("event_type", .text event.kind.name), ("source_url", .text event.source),
   ("timestamp", .text event.moment.text)]

/-- The names of the details with which a run tells of something. -/
def Provisioner.detailNames : List (List String) :=
  [["step"], ["step", "skipped"], ["step", "tool_path"], ["step", "error_type", "error_message"],
   ["workspace", "error_message"], ["installed", "fetched", "duration_seconds"]]

theorem Provisioner.Tells.names {kind : EventKind} {details : List Field}
    (tells : Tells kind details) : details.map Prod.fst ∈ detailNames := by
  cases tells <;> simp [detailNames, fetchDetails, fetchedDetails, installDetails,
    failureDetails, warningDetails, completionDetails]

/-- The fields of an event have names of their own: no two of them share one, and none is that
of an attribute of every record. -/
structure Event.IsClear (event : Event) : Prop where
  distinct : ((event.ownFields ++ event.details).map Prod.fst).Nodup
  free : ∀ field ∈ event.ownFields ++ event.details, field.1 ∉ Log.attributes

theorem Provisioner.Tells.isClear {event : Event} (tells : Tells event.kind event.details) :
    event.IsClear := by
  have clear : ∀ names ∈ detailNames,
      (["event_type", "source_url", "timestamp"] ++ names).Nodup ∧
        ∀ name ∈ ["event_type", "source_url", "timestamp"] ++ names, name ∉ Log.attributes := by
    decide
  have all : (event.ownFields ++ event.details).map Prod.fst =
      ["event_type", "source_url", "timestamp"] ++ event.details.map Prod.fst :=
    List.map_append
  obtain ⟨distinct, free⟩ := clear _ tells.names
  rw [← all] at distinct free
  exact ⟨distinct, fun field member => free _ (List.mem_map_of_mem member)⟩

namespace Event.IsClear

variable {event : Event}

theorem logFields_eq (clear : event.IsClear) :
    event.logFields = event.ownFields ++ event.details :=
  override_of_nodup clear.distinct

theorem clash?_eq_none (clear : event.IsClear) : Log.clash? event.logFields = none := by
  rw [clear.logFields_eq, Log.clash?, List.find?_eq_none]
  intro name member
  obtain ⟨field, among, rfl⟩ := List.mem_map.1 member
  simpa using clear.free field among

end Event.IsClear

/-! ## The record of an event -/

theorem EventKind.passes_of_info {threshold : Log.Threshold}
    (informed : Log.Level.info.passes threshold = true) (kind : EventKind) :
    kind.level.passes threshold = true := by
  apply Log.Level.passes_of_le informed
  cases kind <;> decide

namespace Sink

/-- The record that a logger makes of an event. -/
def eventRecord (logger : String) (event : Event) : Log.Record where
  level := event.kind.level
  logger
  message := "Provision event: " ++ event.kind.name ++ " for " ++ event.source
  fields := event.logFields

theorem isOfEvent_eventRecord (logger : String) (event : Event) :
    (eventRecord logger event).isOfEvent = true := by
  simp only [Log.Record.isOfEvent, eventRecord, String.append_assoc, Log.begins_append,
    List.isPrefixOf_iff_prefix, List.prefix_append]

theorem isOfFailure_eventRecord (logger : String) (event : Event) :
    (eventRecord logger event).isOfFailure = false := by
  simp only [Log.Record.isOfFailure, eventRecord, String.append_assoc, Log.begins_append]
  rfl

/-- An event with names of its own is logged, and nothing is raised. -/
theorem logEvent_of_isClear {host : Host} {event : Event} (logger : String)
    (informed : Log.Level.info.passes host.threshold = true) (clear : event.IsClear)
    (world : World) :
    (logEvent logger event).Leads host world (.ok ())
      { world with log := world.log ++ [eventRecord logger event] } := by
  have passes := event.kind.passes_of_info informed
  rw [logEvent, Act.leads_read_bind, if_pos passes, clear.clash?_eq_none]
  refine Act.leads_log.2 ⟨rfl, ?_⟩
  rw [World.logged, if_pos passes]
  rfl

end Sink

/-! ## Remarks -/

open Log.Record (isRemark_mk isRemark_append)

/-- Between two worlds nothing was told, and no record of an event was logged. -/
structure Remarked (before after : World) : Prop where
  told : after.told = before.told
  log : ∃ remarks, after.log = before.log ++ remarks ∧ ∀ record ∈ remarks, record.IsRemark

namespace Remarked

variable {host : Host} {before after : World}

theorem of_same (told : after.told = before.told) (log : after.log = before.log) :
    Remarked before after :=
  ⟨told, [], by simp [log], by simp⟩

theorem chains : Chains Remarked where
  refl := fun _ => .of_same rfl rfl
  trans := by
    intro before middle after first second
    obtain ⟨remarks, logged, each⟩ := first.log
    obtain ⟨others, loggedToo, eachToo⟩ := second.log
    refine ⟨second.told.trans first.told, remarks ++ others, ?_, ?_⟩
    · rw [loggedToo, logged, List.append_assoc]
    · rw [List.forall_mem_append]
      exact ⟨each, eachToo⟩

theorem keeps_log {record : Log.Record} (remark : record.IsRemark) :
    (Act.log record).Keeps host Remarked := by
  intro before outcome after ran
  obtain ⟨_, rfl⟩ := Act.leads_log.1 ran
  refine ⟨World.told_logged _ _ _, ?_⟩
  rw [World.logged]
  split
  · exact ⟨[record], rfl, by simpa using remark⟩
  · exact ⟨[], by simp, by simp⟩

theorem keeps_setTree (tree : FileTree) :
    (modify fun world => { world with tree } : Act PUnit).Keeps host Remarked := by
  intro before outcome after ran
  obtain ⟨_, rfl⟩ := Act.leads_modify.1 ran
  exact .of_same rfl rfl

theorem keeps_perform (deed : Deed) : (Act.perform deed).Keeps host Remarked := by
  intro before outcome after ran
  obtain ⟨_, rfl⟩ := Act.leads_perform.1 ran
  exact .of_same rfl rfl

theorem keeps_clock : Act.clock.Keeps host Remarked := by
  intro before outcome after ran
  obtain ⟨_, rfl⟩ := Act.leads_clock.1 ran
  exact .of_same rfl rfl

theorem keeps_resume {α : Type} (ended : Except Ending α) :
    (Act.resume ended).Keeps host Remarked := by
  cases ended with
  | ok a => exact chains.pure a
  | error ending => exact chains.throw ending

theorem keeps_answer {α : Type} (answered : Except SystemError α) :
    (Act.answer answered).Keeps host Remarked := by
  cases answered with
  | ok a => exact chains.pure a
  | error error => exact chains.throw (.system error)

/-! ### Calls -/

theorem keeps_launch (start : Start) : (launch start).Keeps host Remarked := by
  intro before outcome after ran
  obtain ⟨behaviour, _, came⟩ := launch_leads ran
  have logged := Installer.logged_of_launch ran
  refine .of_same ?_ (by simpa [Installer.Logged] using logged)
  cases behaviour with
  | refused interruption => simpa using came.2.told
  | nullCharacter => simpa using came.2.told
  | runs process =>
      obtain ⟨pid, _, added⟩ := came
      simpa using added.told

theorem isRemark_deniedRecord (pid : Nat) : (deniedRecord pid).IsRemark := by
  -- it begins as the record of an event that could not be told does, and then differs from it
  rw [deniedRecord, String.append_assoc, String.append_assoc]
  exact isRemark_append (fun _ => rfl) fun _ => rfl

theorem keeps_kill (pid : Nat) : (kill pid).Keeps host Remarked := by
  rw [kill]
  apply chains.bind (keeps_perform _)
  intro _
  apply keeps_read_bind
  apply keeps_ite
  · exact chains.bind (keeps_log (isRemark_deniedRecord pid)) fun _ => keeps_perform _
  · exact keeps_perform _

theorem keeps_await (git : Git) (source : String) (arguments : List String) (running : Running) :
    (git.await source arguments running).Keeps host Remarked := by
  rw [Git.await]
  cases git.verdict running.process with
  | done => exact chains.bind (keeps_perform _) fun _ => chains.pure _
  | timedOut => exact chains.bind (keeps_kill _) fun _ => chains.throw _
  | cancelled how => exact chains.bind (keeps_kill _) fun _ => chains.throw _
  | failed error => exact chains.throw _
  | tooLarge => exact chains.throw _

theorem isRemark_startRecord (start : Start) : (Git.startRecord start).IsRemark :=
  isRemark_append (fun _ => rfl) fun _ => rfl

theorem keeps_execute (git : Git) (source : String) (arguments : List String) :
    (git.execute source arguments).Keeps host Remarked := by
  rw [Git.execute]
  apply chains.bind (keeps_log (isRemark_startRecord _))
  intro _
  apply chains.bind (keeps_launch _)
  intro launched
  split
  · exact chains.throw _
  · exact chains.throw _
  · exact keeps_await _ _ _ _

/-! ### Installations -/

theorem isRemark_lineRecord (stream line : String) :
    (Installer.lineRecord stream line).IsRemark := by
  rw [Installer.lineRecord, String.append_assoc, String.append_assoc]
  exact isRemark_append (fun _ => rfl) fun _ => rfl

theorem keeps_logLines (stream : String) (lines : List String) :
    (Installer.logLines stream lines).Keeps host Remarked := by
  induction lines with
  | nil => exact chains.pure _
  | cons line rest ih =>
      rw [Installer.logLines]
      exact chains.bind (keeps_log (isRemark_lineRecord _ _)) fun _ => ih

theorem keeps_collect (limit : Option Seconds) (process : Process) :
    (Installer.collect limit process).Keeps host Remarked := by
  rw [Installer.collect]
  apply keeps_ite (chains.pure _)
  apply keeps_ite (chains.pure _)
  apply chains.bind (keeps_logLines _ _)
  intro _
  apply keeps_ite
  · exact chains.bind (keeps_logLines _ _) fun _ => chains.pure _
  · exact chains.pure _

theorem isRemark_timeoutMessage (limit : Option Seconds) :
    (Log.Record.mk .error Installer.logger (Installer.timeoutMessage limit) [] none).IsRemark := by
  unfold Installer.timeoutMessage
  rw [String.append_assoc]
  exact isRemark_append (fun _ => rfl) fun _ => rfl

theorem isRemark_errorMessage (error : SystemError) :
    (Log.Record.mk .error Installer.logger (Installer.errorMessage error) [] none).IsRemark :=
  isRemark_append (fun _ => rfl) fun _ => rfl

theorem keeps_giveUp {message : String} (started : Float)
    (remark : (Log.Record.mk .error Installer.logger message [] none).IsRemark) :
    (Installer.giveUp message started).Keeps host Remarked := by
  rw [Installer.giveUp]
  apply chains.bind keeps_clock
  intro _
  exact chains.bind (keeps_log remark) fun _ => chains.pure _

theorem isRemark_endRecord (tool : Path) (result : InstallResult) :
    (Installer.endRecord tool result).IsRemark := by
  rw [Installer.endRecord]
  simp only [String.append_assoc]
  split
  · exact isRemark_append (fun _ => rfl) fun _ => rfl
  · exact isRemark_append (fun _ => rfl) fun _ => rfl

theorem keeps_finish (tool : Path) (process : Process) (started : Float) :
    (Installer.finish tool process started).Keeps host Remarked := by
  rw [Installer.finish]
  apply chains.bind keeps_clock
  intro _
  exact chains.bind (keeps_log (isRemark_endRecord _ _)) fun _ => chains.pure _

theorem keeps_awaitInstaller (installer : Installer) (tool : Path) (started : Float)
    (running : Running) : (installer.await tool started running).Keeps host Remarked := by
  rw [Installer.await]
  apply chains.bind (keeps_collect _ _)
  intro wait
  cases wait with
  | done => exact chains.bind (keeps_perform _) fun _ => keeps_finish _ _ _
  | timedOut =>
      exact chains.bind (keeps_kill _) fun _ => keeps_giveUp _ (isRemark_timeoutMessage _)
  | cancelled how => exact chains.bind (keeps_kill _) fun _ => chains.throw _
  | failed error => exact keeps_giveUp _ (isRemark_errorMessage _)
  | abandoned => exact chains.throw _
  | overlong ended => exact chains.throw _
  | tooLarge => exact chains.throw _

theorem keeps_refuse (installer : Installer) (started : Float) (interruption : Interruption) :
    (installer.refuse started interruption).Keeps host Remarked := by
  cases interruption with
  | cancelled how => exact chains.throw _
  | timedOut => exact keeps_giveUp _ (isRemark_timeoutMessage _)
  | failed error =>
      apply keeps_giveUp
      split
      · exact isRemark_timeoutMessage _
      · exact isRemark_errorMessage _

/-- An installation makes remarks at most, its lines included. -/
theorem keeps_run (installer : Installer) (tool : Path) (directory : Option Path) :
    (installer.run tool directory).Keeps host Remarked := by
  rw [Installer.run]
  apply chains.bind keeps_clock
  intro started
  have starts : (installer.startRecord tool).IsRemark := isRemark_mk rfl rfl
  apply chains.bind (keeps_log starts)
  intro _
  apply chains.bind (keeps_launch _)
  intro launched
  split
  · exact keeps_refuse _ _ _
  · exact keeps_awaitInstaller _ _ _ _

/-! ### The workspace -/

theorem keeps_acquire (spec : Spec) : (Workspace.acquire spec).Keeps host Remarked := by
  rw [Workspace.acquire]
  apply keeps_get_bind
  intro world
  obtain ⟨tree, found⟩ := Workspace.survey world.tree spec
  dsimp only
  apply chains.bind (keeps_setTree _)
  intro _
  apply chains.bind (keeps_resume _)
  intro preexisting
  apply chains.bind (keeps_log (isRemark_mk rfl rfl))
  intro _
  exact chains.bind (keeps_perform _) fun _ => chains.pure _

theorem keeps_release (path : Path) : (Workspace.release path).Keeps host Remarked := by
  rw [Workspace.release]
  apply chains.bind (keeps_perform _)
  intro _
  apply keeps_get_bind
  intro world
  apply chains.bind (keeps_answer _)
  intro isThere
  apply keeps_ite
  · apply keeps_read_bind
    apply keeps_get_bind
    intro world
    obtain ⟨tree, failed⟩ := Workspace.removal host world.tree path
    dsimp only
    apply chains.bind (keeps_setTree _)
    intro _
    cases failed with
    | none => exact chains.bind (keeps_log (isRemark_mk rfl rfl)) fun _ => chains.pure _
    | some error => exact chains.bind (keeps_log (isRemark_mk rfl rfl)) fun _ => chains.pure _
  · exact chains.pure _

end Remarked

/-! ## What is reported of a run -/

/-- A record holds all of an event, at the level of its kind. Each field of the event and each
detail is found under its name, which no other of them has, and which is not that of an
attribute. -/
structure Event.IsHeldBy (event : Event) (record : Log.Record) : Prop where
  level : record.level =
    match event.kind with
    | .error => .error
    | .cleanupWarning => .warning
    | _ => .info
  fields : record.fields =
    [("event_type", .text event.kind.name), ("source_url", .text event.source),
     ("timestamp", .text event.moment.text)] ++ event.details
  distinct : (record.fields.map Prod.fst).Nodup
  found : ∀ field ∈ record.fields, field? record.fields field.1 = some field.2
  free : ∀ field ∈ record.fields, field.1 ∉ Log.attributes

theorem Event.IsClear.isHeldBy {event : Event} (clear : event.IsClear) (logger : String) :
    event.IsHeldBy (Sink.eventRecord logger event) where
  level := by
    rw [Sink.eventRecord]
    cases event.kind <;> rfl
  fields := clear.logFields_eq
  distinct := by
    rw [Sink.eventRecord, clear.logFields_eq]
    exact clear.distinct
  found := by
    rw [Sink.eventRecord, clear.logFields_eq]
    exact fun _ member => (mem_entries_iff clear.distinct).1 member
  free := by
    rw [Sink.eventRecord, clear.logFields_eq]
    exact clear.free

/-- Between two worlds, events of a source were told and records logged. The records of events
among these are those of the events that were told, in their order, and no event failed to be
told. -/
structure Reported (logger source : String) (before after : World) (events : List Event)
    (records : List Log.Record) : Prop where
  told : after.told = before.told ++ events
  logged : after.log = before.log ++ records
  recorded : records.filter Log.Record.isOfEvent = events.map (Sink.eventRecord logger)
  unfailed : ∀ record ∈ records, record.isOfFailure = false
  known : ∀ event ∈ events,
    event.source = source ∧ Provisioner.Tells event.kind event.details

namespace Reported

variable {logger source : String} {host : Host} {before middle after : World}

theorem trans {events others : List Event} {records later : List Log.Record}
    (first : Reported logger source before middle events records)
    (second : Reported logger source middle after others later) :
    Reported logger source before after (events ++ others) (records ++ later) where
  told := by rw [second.told, first.told, List.append_assoc]
  logged := by rw [second.logged, first.logged, List.append_assoc]
  recorded := by rw [List.filter_append, first.recorded, second.recorded, List.map_append]
  unfailed := List.forall_mem_append.2 ⟨first.unfailed, second.unfailed⟩
  known := List.forall_mem_append.2 ⟨first.known, second.known⟩

theorem of_remarked (remarked : Remarked before after) :
    ∃ remarks, Reported logger source before after [] remarks := by
  obtain ⟨remarks, logged, each⟩ := remarked.log
  refine ⟨remarks, by simpa using remarked.told, logged, ?_, fun record member =>
    (each record member).2, by simp⟩
  rw [List.map_nil, List.filter_eq_nil_iff]
  intro record member
  simpa using (each record member).1

theorem of_tell {name : Option String} {kind : EventKind} {details : List Field}
    {outcome : Except Ending Unit} (informed : Log.Level.info.passes host.threshold = true)
    (tells : Provisioner.Tells kind details)
    (ran : (Provisioner.tell (.logger name) source kind details).Leads host before outcome
      after) :
    ∃ event, Reported (name.getD Sink.eventsLogger) source before after [event]
      [Sink.eventRecord (name.getD Sink.eventsLogger) event] := by
  rw [Provisioner.tell,
    Act.leads_bind_of_ok (Provisioner.nextEvent_leads host before source kind details)] at ran
  have about : Provisioner.Tells (Provisioner.event host before source kind details).kind
    (Provisioner.event host before source kind details).details := tells
  have named : (Provisioner.event host before source kind details).source = source := rfl
  generalize Provisioner.event host before source kind details = event at ran about named
  have logs := Sink.logEvent_of_isClear (name.getD Sink.eventsLogger) informed about.isClear
    (Provisioner.withTold before event)
  obtain ⟨ended, last, told, ran⟩ := Act.leads_outcome_bind.1 ran
  obtain ⟨rfl, rfl⟩ := logs.unique told
  obtain ⟨_, rfl⟩ := Act.leads_pure.1 ran
  refine ⟨event, rfl, rfl, ?_, ?_, ?_⟩
  · rw [List.filter_cons_of_pos (Sink.isOfEvent_eventRecord _ event)]
    rfl
  · simpa using Sink.isOfFailure_eventRecord _ event
  · simpa using ⟨named, about⟩

theorem accompanies (name : Option String) (source : String)
    (informed : Log.Level.info.passes host.threshold = true) :
    Accompanies host (.logger name) source fun before after => ∃ events records,
      Reported (name.getD Sink.eventsLogger) source before after events records where
  refl := fun world => ⟨[], of_remarked (Remarked.chains.refl world)⟩
  trans := by
    intro before middle after ⟨events, records, first⟩ ⟨others, later, second⟩
    exact ⟨_, _, first.trans second⟩
  log := by
    intro record remark before outcome after ran
    exact ⟨[], of_remarked (Remarked.keeps_log remark _ _ _ ran)⟩
  tell := by
    intro kind details tells before outcome after ran
    obtain ⟨event, reported⟩ := of_tell informed tells ran
    exact ⟨_, _, reported⟩

end Reported

/-- Whatever only makes remarks is reported. -/
theorem Act.Keeps.reported {α : Type} {act : Act α} {host : Host}
    (remarks : act.Keeps host Remarked) (logger source : String) :
    act.Keeps host fun before after => ∃ events records,
      Reported logger source before after events records := by
  intro before outcome after ran
  exact ⟨[], Reported.of_remarked (remarks _ _ _ ran)⟩

namespace Provisioner

variable {host : Host}

/-- What a run tells of is reported, and all else in it is a remark. -/
theorem reports_provision (informed : Log.Level.info.passes host.threshold = true)
    {name : Option String} {provisioner : Provisioner} (logs : provisioner.sink = .logger name)
    (spec : Spec) :
    (provisioner.provision spec).Keeps host fun before after => ∃ events records,
      Reported (name.getD Sink.eventsLogger) spec.source before after events records := by
  apply keeps_provision
  case along =>
    rw [logs]
    exact Reported.accompanies name spec.source informed
  case clock => exact Remarked.keeps_clock.reported _ _
  case acquire => exact (Remarked.keeps_acquire spec).reported _ _
  case release => exact fun path => (Remarked.keeps_release path).reported _ _
  case execute => exact fun arguments => (Remarked.keeps_execute _ _ arguments).reported _ _
  case run => exact fun tool directory => (Remarked.keeps_run _ tool directory).reported _ _

/-- Every run whose events are told to a log of infos is reported there completely: one record
for each event, in their order, that holds all of it. Telling the log of such an event raises
nothing, wherever it is done. -/
theorem provision_reported (host : Host)
    (informed : Log.Level.info.passes host.threshold = true) {name : Option String}
    (provisioner : Provisioner) (logs : provisioner.sink = .logger name) (spec : Spec)
    (before : World) :
    ∃ outcome after events records,
      (provisioner.provision spec).Leads host before outcome after ∧
      Reported (name.getD Sink.eventsLogger) spec.source before after events records ∧
      ∀ event ∈ events,
        event.IsHeldBy (Sink.eventRecord (name.getD Sink.eventsLogger) event) ∧
        ∀ world, (Sink.tell event provisioner.sink).Leads host world (.ok ())
          { world with
            log := world.log ++ [Sink.eventRecord (name.getD Sink.eventsLogger) event] } := by
  obtain ⟨outcome, after, ran⟩ := (provisioner.provision spec).exists_leads host before
  obtain ⟨events, records, reported⟩ := reports_provision informed logs spec _ _ _ ran
  refine ⟨outcome, after, events, records, ran, reported, ?_⟩
  intro event member
  have clear := (reported.known event member).2.isClear
  rw [logs]
  exact ⟨clear.isHeldBy _, Sink.logEvent_of_isClear _ informed clear⟩

/-- A provisioner whose events have a logger of their own. -/
def audited : Provisioner := { sample with sink := .logger (some "audit") }

/-- A host that keeps out of the log what matters less than infos. -/
def informedHost : Host := { Host.quiet with threshold := Log.Level.info.rank }

theorem provision_reported_audited :
    Log.Level.info.passes informedHost.threshold = true ∧
      audited.sink = .logger (some "audit") ∧
      ∃ outcome after events records,
        (audited.provision .sample).Leads informedHost {} outcome after ∧
        Reported "audit" Spec.sample.source {} after events records := by
  refine ⟨rfl, rfl, ?_⟩
  obtain ⟨outcome, after, events, records, ran, reported, _⟩ :=
    provision_reported informedHost rfl audited rfl .sample {}
  exact ⟨outcome, after, events, records, ran, reported⟩

end Provisioner

end Toolset
