import Toolset.Proofs.Isolation

/-!
# What is said of a run

The events of a run follow a grammar: what is said of the source, then what is said of
each attempt to install a tool, then what is said of the end.  A sink that records every
event hears these and no others.
-/

namespace Toolset

open Comparison
open Workspace (acquire release)

/-- A sink that records every event. -/
def Sink.recorder : Sink := .custom "Recorder" true fun _ => .takes

theorem Sink.isQuiet_recorder : recorder.IsQuiet :=
  isQuiet_custom_iff.2 (by simp)

/-- The comparison of runs that hear what they are told since a given world. -/
def Comparison.hearing (host : Host) (start : World) : Comparison :=
  (unheard host).fitting fun account _ => ∃ events : List Event,
    account.told = start.told ++ events ∧ account.heard = start.heard ++ events

namespace Provisioner

variable {provisioner : Provisioner} {spec : Spec} {host : Host} {before after : World}
  {outcome : Except Ending Report}

/-- What is said of a run, by how it went.  The end is the last that is said; a workspace
that was left behind is told of only if the end can tell of it, and exactly if its removal
failed. -/
inductive Narrated (provisioner : Provisioner) (spec : Spec) (host : Host) (before : World)
    (outcome : Except Ending Report) : List Saying → Prop where
  /-- Without a workspace only the end is told of. -/
  | refused {ending : Ending} {closed : World} :
      (acquire spec).Leads host (opened spec host before) (.error ending) closed →
      leftover? outcome = none →
      Narrated provisioner spec host before outcome (closingSayings spec outcome)
  /-- The source was seen to, tools were attempted, and the workspace was released. -/
  | worked {workspace : Workspace} {acquired sourced worked : World}
      {fetch : Option (Except Ending Unit)} {attempts : List Attempt} :
      (acquire spec).Leads host (opened spec host before) (.ok workspace) acquired →
      provisioner.Sourcing spec host acquired sourced fetch →
      (fetch = none ↔ workspace.preexisting = true) →
      provisioner.Attempts spec host sourced attempts worked →
      attempts.map Attempt.tool <+: spec.tools →
      (attempts ≠ [] → workspace.preexisting = true ∨ fetch = some (.ok ())) →
      provisioner.Releases spec host before worked →
      (carriesWarning outcome = true → ∀ warning, leftover? outcome = some warning ↔
        Workspace.LeavesBehind host worked.tree spec.clonePath warning) →
      Narrated provisioner spec host before outcome
        (sourceSayings spec fetch ++ attempts.flatMap (attemptSayings spec) ++
          closingSayings spec outcome)

/-- What is told of a run whose sink calls nothing off follows the grammar. -/
theorem narrated_of_quiet (quiet : provisioner.sink.IsQuiet)
    (ran : (provisioner.provision spec).Leads host before outcome after) :
    ∃ told, after.told = before.told ++ told ∧
      provisioner.Narrated spec host before outcome (told.map Event.saying) := by
  have silent := (added_opened spec host before).told
  cases provision_went ran with
  | refused refused conclude =>
      rcases conclude_of_quiet quiet conclude with ⟨ended, told, added, spoken⟩
      have quietly := (Workspace.acquire_leads refused).added_of_error.told
      refine ⟨told, by rw [added, quietly, silent, List.append_nil, List.append_nil], ?_⟩
      rw [spoken]
      refine .refused refused ?_
      cases left : leftover? outcome with
      | none => rfl
      | some warning =>
          rw [ended] at left
          cases cleanup_of_leftover? left
  | @worked workspace acquired worked closed done released taken work release conclude =>
      rcases (Workspace.acquire_leads taken).workspace_eq with ⟨preexisting, _, rfl⟩
      rcases work_staged rfl work with ⟨sourced, fetch, attempts, staged⟩
      rcases staged.said quiet with ⟨toldOfWork, addedWork, saysWork⟩
      rcases conclude_of_quiet quiet conclude with ⟨ended, told, added, spoken⟩
      have cleared := Workspace.release_clears release
      have quietly := (Workspace.acquire_leads taken).added_of_ok.told
      refine ⟨toldOfWork ++ told, ?_, ?_⟩
      · rw [added, cleared.added.told, addedWork, quietly, silent]
        simp only [List.append_nil, List.append_assoc]
      · rw [List.map_append, saysWork, spoken]
        refine .worked taken staged.sourcing ⟨staged.absent quiet, staged.present⟩ staged.runs
          staged.inOrder staged.reached ⟨_, acquired, done, taken, work⟩ ?_
        intro carries warning
        rw [ended] at carries ⊢
        rw [leftover?_concluded carries, cleanup_afterRelease_iff, ← Workspace.clear_warns_iff,
          cleared.result]

/-! ## What is heard -/

theorem heard_of_told {source : String} {kind : EventKind} {details : List Field}
    {outcome : Except Ending Unit}
    (ran : (tell .recorder source kind details).Leads host before outcome after) :
    ∃ event, after.told = before.told ++ [event] ∧ after.heard = before.heard ++ [event] := by
  rw [tell, Act.leads_bind_of_ok (nextEvent_leads host before source kind details)] at ran
  rcases Act.leads_outcome_bind.1 ran with ⟨ended, heard, hears, ran⟩
  rcases Act.leads_modify.1 hears with ⟨rfl, rfl⟩
  rcases Act.leads_pure.1 ran with ⟨rfl, rfl⟩
  exact ⟨_, rfl, rfl⟩

theorem heard_of_provision
    (ran : ((provisioner.toldTo .recorder).provision spec).Leads host before outcome after) :
    ∃ events, after.told = before.told ++ events ∧ after.heard = before.heard ++ events := by
  have told : TellAlike (Comparison.hearing host before) .recorder .recorder := by
    apply tellAlike_of_quiet Sink.isQuiet_recorder Sink.isQuiet_recorder
    intro source kind details left right leftAfter rightAfter alike ran _
    rcases alike.account with ⟨events, toldBefore, heardBefore⟩
    rcases heard_of_told ran with ⟨event, toldNow, heardNow⟩
    refine ⟨events ++ [event], ?_, ?_⟩
    · exact toldNow.trans (by rw [← List.append_assoc]; exact congrArg (· ++ [event]) toldBefore)
    · exact heardNow.trans (by rw [← List.append_assoc]; exact congrArg (· ++ [event]) heardBefore)
  have start : (Comparison.hearing host before).Alike before before :=
    ⟨rfl, rfl, rfl, rfl, rfl, [], (List.append_nil _).symm, (List.append_nil _).symm⟩
  rcases (agree_provision provisioner spec told rfl).leads start ran with ⟨_, _, alike⟩
  exact alike.account

/-- A sink that records every event of a run hears what the grammar of the run says, in its
order, and nothing else. -/
theorem provision_narrated (provisioner : Provisioner) (spec : Spec) (host : Host)
    (before : World) :
    ∃ outcome after events,
      ((provisioner.toldTo .recorder).provision spec).Leads host before outcome after ∧
      after.heard = before.heard ++ events ∧
      (provisioner.toldTo .recorder).Narrated spec host before outcome
        (events.map Event.saying) := by
  rcases ((provisioner.toldTo .recorder).provision spec).exists_leads host before with
    ⟨outcome, after, ran⟩
  rcases narrated_of_quiet Sink.isQuiet_recorder ran with ⟨told, added, narrated⟩
  rcases heard_of_provision ran with ⟨events, same, heard⟩
  rw [added] at same
  have equal : told = events := List.append_cancel_left same
  subst equal
  exact ⟨outcome, after, told, ran, heard, narrated⟩

end Provisioner

end Toolset
