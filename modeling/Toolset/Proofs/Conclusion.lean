import Toolset.Proofs.Telling

/-!
# The end of a run

A run that is complete and a run that failed end alike: a workspace that was left
behind is told of first, and the end of the run after it.  Any other end is not told
of at all.  What was said cannot change how the run ended, unless a sink calls the
work off.
-/

namespace Toolset.Provisioner

variable {α : Type} {provisioner : Provisioner} {spec : Spec} {host : Host}
  {before after : World}

/-- What is told of a workspace that was left behind. -/
def cleanupKinds : Option CleanupWarning → List EventKind
  | none => []
  | some _ => [.cleanupWarning]

/-- What is told at the end of a run, by how its work ended. -/
def closingKinds (cleanup : Option CleanupWarning) : Except Ending Done → List EventKind
  | .ok _ => cleanupKinds cleanup ++ [.completion]
  | .error (.failed _ _) => cleanupKinds cleanup ++ [.error]
  | .error _ => []

/-- How a run ends if its work ended in a given way and nobody calls it off. -/
def concluded (cleanup : Option CleanupWarning) (duration : Float) :
    Except Ending Done → Except Ending Report
  | .ok done => .ok { fetched := done.fetched, installed := done.installed, cleanup, duration }
  | .error (.failed failure _) => .error (.failed failure cleanup)
  | .error ending => .error ending

/-- Events of some kinds are told one after another, up to the first that makes the
sink call the work off. -/
structure Announced (provisioner : Provisioner) (kinds : List EventKind) (before after : World)
    (told : List Event) (calledOff : Bool) : Prop where
  same : SameDeeds before after
  added : after.told = before.told ++ told
  inOrder : told.map Event.kind <+: kinds
  heard : calledOff = false →
    told.map Event.kind = kinds ∧ ∀ event ∈ told, provisioner.sink.cancels event = false
  cancelled : calledOff = true → ∃ event ∈ told, provisioner.sink.cancels event = true

theorem tell_announced {kind : EventKind} {details : List Field} {outcome : Except Ending Unit}
    (ran : (tell provisioner.sink spec.source kind details).Leads host before outcome after) :
    ∃ told calledOff, provisioner.Announced [kind] before after told calledOff ∧
      outcome = if calledOff then .error (.cancelled .request) else .ok () := by
  rcases tell_leads ran with ⟨same, told, equal⟩
  refine ⟨_, _, ⟨same, told, List.prefix_rfl, ?_, ?_⟩, equal⟩
  · intro heard
    exact ⟨rfl, by simpa using heard⟩
  · intro cancelled
    exact ⟨_, List.mem_singleton_self _, cancelled⟩

theorem Announced.trans {first second : List EventKind} {middle : World}
    {told toldLater : List Event} {calledOff : Bool}
    (beginning : provisioner.Announced first before middle told false)
    (rest : provisioner.Announced second middle after toldLater calledOff) :
    provisioner.Announced (first ++ second) before after (told ++ toldLater) calledOff where
  same := beginning.same.trans rest.same
  added := by rw [rest.added, beginning.added, List.append_assoc]
  inOrder := by
    rw [List.map_append, (beginning.heard rfl).1]
    exact (List.prefix_append_right_inj first).2 rest.inOrder
  heard := by
    intro heard
    rw [List.map_append, (beginning.heard rfl).1, (rest.heard heard).1]
    exact ⟨rfl, List.forall_mem_append.2 ⟨(beginning.heard rfl).2, (rest.heard heard).2⟩⟩
  cancelled := by
    intro cancelled
    rcases rest.cancelled cancelled with ⟨event, member, cancels⟩
    exact ⟨event, List.mem_append_right told member, cancels⟩

theorem Announced.halted {first : List EventKind} {told : List Event}
    (beginning : provisioner.Announced first before after told true) (second : List EventKind) :
    provisioner.Announced (first ++ second) before after told true where
  same := beginning.same
  added := beginning.added
  inOrder := beginning.inOrder.trans (List.prefix_append first second)
  heard := by
    intro equal
    cases equal
  cancelled := beginning.cancelled

theorem tellCleanup_announced {cleanup : Option CleanupWarning} {outcome : Except Ending Unit}
    (ran : (provisioner.tellCleanup spec cleanup).Leads host before outcome after) :
    ∃ told calledOff, provisioner.Announced (cleanupKinds cleanup) before after told calledOff ∧
      outcome = if calledOff then .error (.cancelled .request) else .ok () := by
  cases cleanup with
  | none =>
      rcases Act.leads_pure.1 ran with ⟨rfl, rfl⟩
      exact ⟨[], false, ⟨.refl _, by simp, List.prefix_rfl, fun _ => ⟨rfl, by simp⟩, by simp⟩, rfl⟩
  | some warning => exact tell_announced ran

/-- A workspace that was left behind is told of, then the end of the run; what follows
is done only if nobody calls the work off. -/
theorem announce_leads {cleanup : Option CleanupWarning} {kind : EventKind} {details : List Field}
    {rest : Act α} {outcome : Except Ending α}
    (ran : (do
      provisioner.tellCleanup spec cleanup
      tell provisioner.sink spec.source kind details
      rest : Act α).Leads host before outcome after) :
    ∃ told calledOff said,
      provisioner.Announced (cleanupKinds cleanup ++ [kind]) before said told calledOff ∧
      if calledOff then outcome = .error (.cancelled .request) ∧ after = said
      else rest.Leads host said outcome after := by
  rcases Act.leads_bind.1 ran with ⟨_, warned, first, ran⟩ | ⟨ending, first, rfl⟩
  · rcases tellCleanup_announced first with ⟨told, calledOff, warning, equal⟩
    cases calledOff with
    | true => cases equal
    | false =>
        rcases Act.leads_bind.1 ran with ⟨_, said, second, ran⟩ | ⟨ending, second, rfl⟩
        · rcases tell_announced second with ⟨toldLater, calledOff, last, equal⟩
          cases calledOff with
          | true => cases equal
          | false => exact ⟨_, false, said, warning.trans last, ran⟩
        · rcases tell_announced second with ⟨toldLater, calledOff, last, equal⟩
          cases calledOff with
          | true =>
              cases equal
              exact ⟨_, true, after, warning.trans last, rfl, rfl⟩
          | false => cases equal
  · rcases tellCleanup_announced first with ⟨told, calledOff, warning, equal⟩
    cases calledOff with
    | true =>
        cases equal
        exact ⟨told, true, after, warning.halted [kind], rfl, rfl⟩
    | false => cases equal

/-- How a run ends: as its work ended, unless a sink calls it off, and after what is
told of that. -/
structure Concluded (provisioner : Provisioner) (cleanup : Option CleanupWarning)
    (ended : Except Ending Done) (before after : World) (told : List Event)
    (outcome : Except Ending Report) : Prop where
  tree : after.tree = before.tree
  added : Added before after [] [] told
  ended : ((∀ event ∈ told, provisioner.sink.cancels event = false) ∧
      told.map Event.kind = closingKinds cleanup ended ∧
      ∃ duration, outcome = concluded cleanup duration ended) ∨
    ((∃ event ∈ told, provisioner.sink.cancels event = true) ∧
      outcome = .error (.cancelled .request))

theorem Concluded.done_of_report {cleanup : Option CleanupWarning} {ended : Except Ending Done}
    {told : List Event} {report : Report}
    (concluded : provisioner.Concluded cleanup ended before after told (.ok report)) :
    ∃ done, ended = .ok done ∧ report.fetched = done.fetched ∧
      report.installed = done.installed := by
  rcases concluded.ended with ⟨_, _, duration, equal⟩ | ⟨_, equal⟩
  · cases ended with
    | ok done =>
        cases equal
        exact ⟨done, rfl, rfl, rfl⟩
    | error ending => cases ending <;> cases equal
  · cases equal

theorem Concluded.failed_of_failed {cleanup late : Option CleanupWarning}
    {ended : Except Ending Done} {told : List Event} {failure : Failure}
    (concluded : provisioner.Concluded cleanup ended before after told
      (.error (.failed failure late))) :
    ∃ early, ended = .error (.failed failure early) := by
  rcases concluded.ended with ⟨_, _, duration, equal⟩ | ⟨_, equal⟩
  · cases ended with
    | ok done => cases equal
    | error ending =>
        cases ending with
        | failed other early =>
            cases equal
            exact ⟨early, rfl⟩
        | _ => cases equal
  · cases equal

/-- An end that is announced: what follows the announcement says how the run ends. -/
theorem concluded_of_announced {cleanup : Option CleanupWarning} {ended : Except Ending Done}
    {opened said : World} {told : List Event} {calledOff : Bool} (duration : Float)
    {outcome : Except Ending Report} (tree : opened.tree = before.tree)
    (silent : Added before opened [] [] [])
    (announced : provisioner.Announced (closingKinds cleanup ended) opened said told calledOff)
    (ends : if calledOff then outcome = .error (.cancelled .request) ∧ after = said
      else outcome = concluded cleanup duration ended ∧ after = said) :
    provisioner.Concluded cleanup ended before after told outcome := by
  have added := silent.trans (announced.same.added announced.added)
  cases calledOff with
  | true =>
      rcases ends with ⟨rfl, rfl⟩
      exact ⟨announced.same.tree.trans tree, added, .inr ⟨announced.cancelled rfl, rfl⟩⟩
  | false =>
      rcases ends with ⟨rfl, rfl⟩
      rcases announced.heard rfl with ⟨kinds, heard⟩
      exact ⟨announced.same.tree.trans tree, added, .inl ⟨heard, kinds, duration, rfl⟩⟩

/-- A run ends as its work ended, unless a sink calls it off. -/
theorem conclude_leads {started : Float} {cleanup : Option CleanupWarning}
    {ended : Except Ending Done} {outcome : Except Ending Report}
    (ran : (provisioner.conclude spec started cleanup ended).Leads host before outcome after) :
    ∃ told, provisioner.Concluded cleanup ended before after told outcome := by
  cases ended with
  | ok done =>
      rw [conclude, completeRun, Act.leads_clock_bind] at ran
      rcases announce_leads ran with ⟨told, calledOff, said, announced, rest⟩
      simp only [Act.leads_pure] at rest
      have silent : Added before (Act.ticked host before) [] [] [] := (Added.refl _).of_ticked
      have tree : (Act.ticked host before).tree = before.tree := rfl
      exact ⟨told, concluded_of_announced _ tree silent announced rest⟩
  | error ending =>
      cases ending with
      | failed failure early =>
          rw [conclude, failRun] at ran
          rcases announce_leads ran with ⟨told, calledOff, said, announced, rest⟩
          simp only [Act.leads_throw] at rest
          exact ⟨told, concluded_of_announced 0 rfl (.refl _) announced rest⟩
      | _ =>
          rcases Act.leads_throw.1 ran with ⟨rfl, rfl⟩
          exact ⟨[], rfl, .refl _, .inl ⟨by simp, rfl, 0, rfl⟩⟩

/-! ## What is said at the end -/

/-- What is said of a workspace that was left behind. -/
def cleanupSayings (spec : Spec) : Option CleanupWarning → List Saying
  | none => []
  | some warning => [⟨.cleanupWarning, spec.source, warningDetails warning⟩]

/-- What is said at the end of a run, by how it ends. -/
def closingSayings (spec : Spec) : Except Ending Report → List Saying
  | .ok report => cleanupSayings spec report.cleanup ++
      [⟨.completion, spec.source, completionDetails report⟩]
  | .error (.failed failure cleanup) => cleanupSayings spec cleanup ++
      [⟨.error, spec.source, failureDetails failure⟩]
  | .error _ => []

theorem announce_of_quiet {cleanup : Option CleanupWarning} {kind : EventKind}
    {details : List Field} {rest : Act α} {outcome : Except Ending α}
    (quiet : provisioner.sink.IsQuiet)
    (ran : (do
      provisioner.tellCleanup spec cleanup
      tell provisioner.sink spec.source kind details
      rest : Act α).Leads host before outcome after) :
    ∃ said told, rest.Leads host said outcome after ∧ said.told = before.told ++ told ∧
      told.map Event.saying = cleanupSayings spec cleanup ++ [⟨kind, spec.source, details⟩] := by
  have tells {opened : World} (ran : (do
      tell provisioner.sink spec.source kind details
      rest : Act α).Leads host opened outcome after) :
      ∃ said event, rest.Leads host said outcome after ∧ said.told = opened.told ++ [event] ∧
        event.saying = ⟨kind, spec.source, details⟩ := by
    rcases Act.leads_bind.1 ran with ⟨_, said, told, ran⟩ | ⟨ending, told, rfl⟩
    · rcases tell_of_quiet quiet told with ⟨_, _, event, added, spoken⟩
      exact ⟨said, event, ran, added, spoken⟩
    · cases (tell_of_quiet quiet told).1
  cases cleanup with
  | none =>
      rw [tellCleanup, pure_bind] at ran
      rcases tells ran with ⟨said, event, rest, added, spoken⟩
      exact ⟨said, [event], rest, added, by simp [spoken, cleanupSayings]⟩
  | some warning =>
      rcases Act.leads_bind.1 ran with ⟨_, warned, told, ran⟩ | ⟨ending, told, rfl⟩
      · rcases tell_of_quiet quiet told with ⟨_, _, first, addedFirst, saysFirst⟩
        rcases tells ran with ⟨said, event, rest, added, spoken⟩
        refine ⟨said, [first, event], rest, ?_, by simp [saysFirst, spoken, cleanupSayings]⟩
        rw [added, addedFirst, List.append_assoc]
        rfl
      · cases (tell_of_quiet quiet told).1

/-- If nobody calls it off, a run ends as its work ended, and after saying so. -/
theorem conclude_of_quiet {started : Float} {cleanup : Option CleanupWarning}
    {ended : Except Ending Done} {outcome : Except Ending Report}
    (quiet : provisioner.sink.IsQuiet)
    (ran : (provisioner.conclude spec started cleanup ended).Leads host before outcome after) :
    outcome = concluded cleanup (before.time - started) ended ∧
      ∃ told, after.told = before.told ++ told ∧
        told.map Event.saying = closingSayings spec outcome := by
  cases ended with
  | ok done =>
      rw [conclude, completeRun, Act.leads_clock_bind] at ran
      rcases announce_of_quiet quiet ran with ⟨said, told, rest, added, spoken⟩
      rcases Act.leads_pure.1 rest with ⟨rfl, rfl⟩
      exact ⟨rfl, told, added, spoken⟩
  | error ending =>
      cases ending with
      | failed failure early =>
          rw [conclude, failRun] at ran
          rcases announce_of_quiet quiet ran with ⟨said, told, rest, added, spoken⟩
          rcases Act.leads_throw.1 rest with ⟨rfl, rfl⟩
          exact ⟨rfl, told, added, spoken⟩
      | _ =>
          rcases Act.leads_throw.1 ran with ⟨rfl, rfl⟩
          exact ⟨rfl, [], by simp, rfl⟩

/-! ## What a run left behind -/

/-- How a run ends, apart from what it left behind. -/
def withoutCleanup : Except Ending Report → Except Ending Report
  | .ok report => .ok { report with cleanup := none }
  | .error (.failed failure _) => .error (.failed failure none)
  | .error ending => .error ending

/-- The workspace that the report or the failure of a run says was left behind. -/
def leftover? : Except Ending Report → Option CleanupWarning
  | .ok report => report.cleanup
  | .error (.failed _ cleanup) => cleanup
  | .error _ => none

/-- A report and a failure can say that a workspace was left behind; no other end can. -/
def carriesWarning : Except Ending Report → Bool
  | .ok _ => true
  | .error (.failed _ _) => true
  | .error _ => false

theorem withoutCleanup_concluded (cleanup : Option CleanupWarning) (duration : Float)
    (ended : Except Ending Done) :
    withoutCleanup (concluded cleanup duration ended) = concluded none duration ended := by
  cases ended with
  | ok done => rfl
  | error ending => cases ending <;> rfl

theorem leftover?_concluded {cleanup : Option CleanupWarning} {duration : Float}
    {ended : Except Ending Done}
    (accounted : carriesWarning (concluded cleanup duration ended) = true) :
    leftover? (concluded cleanup duration ended) = cleanup := by
  cases ended with
  | ok done => rfl
  | error ending =>
      cases ending with
      | failed failure early => rfl
      | _ => cases accounted

theorem cleanup_of_leftover? {cleanup : Option CleanupWarning} {duration : Float}
    {ended : Except Ending Done} {warning : CleanupWarning}
    (left : leftover? (concluded cleanup duration ended) = some warning) :
    cleanup = some warning := by
  cases ended with
  | ok done => exact left
  | error ending =>
      cases ending with
      | failed failure early => exact left
      | _ => cases left

end Toolset.Provisioner
