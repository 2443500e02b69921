import Toolset.Proofs.Cleanup
import Toolset.Proofs.Isolation

/-!
# Failed removals mask nothing

A workspace that cannot be removed is told of beside the end of its run, and changes
nothing else.  The run on a host where no tree can be removed is compared with the run on a
host that is the same otherwise: both do the same, and end in the same way but for the
warning.  Whatever the failed removal left, the trees differ at the clone or below it only.
-/

namespace Toolset

open Workspace (acquire release clear removal)

/-- The host with another reason why no tree can be removed, or with none. -/
def Host.removing (host : Host) (error : Option String) : Host :=
  { host with removalError := error }

/-! ## Two releases of one workspace -/

namespace Workspace

variable {host : Host} {tree : FileTree} {path : Path}

/-- A removal, failed or not, changes nothing outside of the place of the path. -/
theorem get?_removal {place : Location}
    (outside : ∀ root entry, tree.find false path = .ok (.found root entry) → ¬root <+: place) :
    (removal host tree path).1.get? place = tree.get? place := by
  rw [removal]
  split
  · rw [FileTree.breakOff]
    split
    · exact FileTree.get?_thin_of_outside (outside _ _ ‹_›)
    · rfl
  · cases removed : tree.removeTree path with
    | ok after =>
        rcases FileTree.find_of_removeTree removed with ⟨root, mode, found, rfl⟩
        exact FileTree.get?_prune_of_outside (outside _ _ found)
    | error error => rfl

theorem get?_clear {place : Location}
    (outside : ∀ root entry, tree.find false path = .ok (.found root entry) → ¬root <+: place) :
    (clear host tree path).1.get? place = tree.get? place := by
  have same : (removal host tree path).1.get? place = tree.get? place := get?_removal outside
  rw [clear]
  split
  · rfl
  · rfl
  · split
    all_goals
      rename_i removed
      rw [← same, removed]

/-- Why a tree cannot be removed has no bearing on how the release ends but for the
warning. -/
theorem afterRelease_removing (ended : Except Ending Provisioner.Done) (error : Option String) :
    (Provisioner.afterRelease ended (clear (host.removing error) tree path).2).2 =
      (Provisioner.afterRelease ended (clear (host.removing none) tree path).2).2 := by
  simp only [clear]
  split
  · rfl
  · rfl
  · split <;> split <;> rfl

/-- Where no tree can be removed, what is there is left behind. -/
theorem leavesBehind_removing_iff {text : String} {warning : CleanupWarning} :
    LeavesBehind (host.removing (some text)) tree path warning ↔
      warning = ⟨path, text⟩ ∧ tree.exists? path = .ok true := by
  simp [LeavesBehind, removal, Host.removing, SystemError.text, and_comm]

/-- Where trees can be removed, only what is no tree is left behind. -/
theorem removeTree_of_leavesBehind {warning : CleanupWarning}
    (leaves : LeavesBehind (host.removing none) tree path warning) :
    ∃ error, tree.removeTree path = .error error := by
  rcases leaves with ⟨_, error, fails, _⟩
  simp only [removal, Host.removing] at fails
  cases removed : tree.removeTree path with
  | error error => exact ⟨error, rfl⟩
  | ok after => simp [removed, FileTree.attempt] at fails

end Workspace

namespace Provisioner

variable {provisioner : Provisioner} {spec : Spec} {host : Host} {before after : World}

/-! ## Two runs -/

/-- How the run on a host where no tree can be removed compares with the run on the host
where trees can be removed. -/
structure Unmasked (provisioner : Provisioner) (spec : Spec) (host : Host) (text : String)
    (before : World) (outcome failing : Except Ending Report) (after left : World) : Prop where
  calls : left.calls = after.calls
  deeds : left.deeds = after.deeds
  ended : withoutCleanup failing = withoutCleanup outcome
  warned_iff : carriesWarning failing = true → ∀ warning, leftover? failing = some warning ↔
    warning = ⟨spec.clonePath, text⟩ ∧ ∃ worked,
      provisioner.Releases spec (host.removing none) before worked ∧
      worked.tree.exists? spec.clonePath = .ok true
  clean : ∀ warning, leftover? outcome = some warning → ∃ worked error,
    provisioner.Releases spec (host.removing none) before worked ∧
    worked.tree.removeTree spec.clonePath = .error error
  outside : ∀ place, (∀ worked root entry,
      provisioner.Releases spec (host.removing none) before worked →
      worked.tree.find false spec.clonePath = .ok (.found root entry) → ¬root <+: place) →
    left.tree.get? place = after.tree.get? place

/-- The comparison of a run where trees can be removed with one where none can. -/
def removals (host : Host) (text : String) : Comparison where
  left := host.removing none
  right := host.removing (some text)
  program := rfl
  tick := rfl
  killing := rfl
  fits := fun _ _ => True

theorem unmasked_of_refused {text : String} {ending : Ending}
    {outcome failing : Except Ending Report} {closed otherClosed left : World}
    (quiet : provisioner.sink.IsQuiet)
    (refused : (acquire spec).Leads (host.removing none) (opened spec (host.removing none) before)
      (.error ending) closed)
    (alike : (removals host text).Alike closed otherClosed)
    (conclude : (provisioner.conclude spec before.time none (.error ending)).Leads
      (host.removing none) closed outcome after)
    (concludeOther : (provisioner.conclude spec before.time none (.error ending)).Leads
      (host.removing (some text)) otherClosed failing left) :
    provisioner.Unmasked spec host text before outcome failing after left := by
  have told : TellAlike (removals host text) provisioner.sink provisioner.sink :=
    tellAlike_of_quiet quiet quiet fun _ _ _ => trivial
  have agree := agree_conclude provisioner spec told before.time none (.error ending)
  rcases agree.leads alike conclude with ⟨world, again, same⟩
  rcases concludeOther.unique again with ⟨rfl, rfl⟩
  have ended := (conclude_of_quiet quiet conclude).1
  -- a run that did not acquire its workspace does not reach its release
  have never {worked : World}
      (releases : provisioner.Releases spec (host.removing none) before worked) : False := by
    rcases releases with ⟨_, _, _, taken, _⟩
    cases (taken.unique refused).1
  have spared {warning : CleanupWarning} (left : leftover? failing = some warning) : False := by
    rw [ended] at left
    cases cleanup_of_leftover? left
  exact {
    calls := same.calls.symm
    deeds := same.deeds.symm
    ended := rfl
    warned_iff := by
      intro _ warning
      refine ⟨fun left => (spared left).elim, ?_⟩
      rintro ⟨_, worked, releases, _⟩
      exact (never releases).elim
    clean := fun warning left => (spared left).elim
    outside := by
      intro place _
      rw [same.tree] }

theorem unmasked_of_worked {text : String} {workspace : Workspace} {acquired worked otherWorked
      closed otherClosed left : World} {ended : Except Ending Done}
    {released otherReleased : Except Ending (Option CleanupWarning)}
    {outcome failing : Except Ending Report} (quiet : provisioner.sink.IsQuiet)
    (taken : (acquire spec).Leads (host.removing none) (opened spec (host.removing none) before)
      (.ok workspace) acquired)
    (work : (provisioner.work spec workspace).Leads (host.removing none) acquired ended worked)
    (alike : (removals host text).Alike worked otherWorked)
    (release : (release workspace.path).Leads (host.removing none) worked released closed)
    (releaseOther : (Workspace.release workspace.path).Leads (host.removing (some text)) otherWorked
      otherReleased otherClosed)
    (conclude : (provisioner.conclude spec before.time (afterRelease ended released).1
      (afterRelease ended released).2).Leads (host.removing none) closed outcome after)
    (concludeOther : (provisioner.conclude spec before.time (afterRelease ended otherReleased).1
      (afterRelease ended otherReleased).2).Leads (host.removing (some text)) otherClosed failing
      left) :
    provisioner.Unmasked spec host text before outcome failing after left := by
  rcases (Workspace.acquire_leads taken).workspace_eq with ⟨preexisting, _, rfl⟩
  have releases : provisioner.Releases spec (host.removing none) before worked :=
    ⟨_, acquired, ended, taken, work⟩
  have only {other : World} (again : provisioner.Releases spec (host.removing none) before other) :
      other = worked := by
    rcases again with ⟨_, _, _, takenAgain, workAgain⟩
    rcases taken.unique takenAgain with ⟨equal, rfl⟩
    cases equal
    exact (workAgain.unique work).2
  have cleared := Workspace.release_clears release
  have clearedOther := Workspace.release_clears releaseOther
  have result := cleared.result
  have resultOther := clearedOther.result
  rw [← alike.tree] at resultOther
  have sameTime : otherClosed.time = closed.time := by
    rw [clearedOther.time, ← alike.time, cleared.time]
  rcases conclude_leads conclude with ⟨_, concluded⟩
  rcases conclude_leads concludeOther with ⟨_, concludedOther⟩
  have equal := (conclude_of_quiet quiet conclude).1
  have equalOther := (conclude_of_quiet quiet concludeOther).1
  have releasedEqual : released = (clear (host.removing none) worked.tree spec.clonePath).2 := by
    rw [result]
  have otherEqual :
      otherReleased = (clear (host.removing (some text)) worked.tree spec.clonePath).2 := by
    rw [resultOther]
  rw [releasedEqual] at equal
  rw [otherEqual] at equalOther
  exact {
    calls := by
      rw [concludedOther.added.calls, concluded.added.calls, clearedOther.added.calls,
        cleared.added.calls, alike.calls]
    deeds := by
      rw [concludedOther.added.deeds, concluded.added.deeds, clearedOther.added.deeds,
        cleared.added.deeds, alike.deeds]
    ended := by
      rw [equal, equalOther, withoutCleanup_concluded, withoutCleanup_concluded, sameTime,
        Workspace.afterRelease_removing ended (some text)]
    warned_iff := by
      intro accounted warning
      rw [equalOther] at accounted ⊢
      rw [leftover?_concluded accounted, cleanup_afterRelease_iff, Workspace.clear_warns_iff,
        Workspace.leavesBehind_removing_iff]
      refine and_congr_right fun _ => ⟨fun there => ⟨worked, releases, there⟩, ?_⟩
      rintro ⟨other, again, there⟩
      rwa [only again] at there
    clean := by
      intro warning left
      rw [equal] at left
      have leaves := cleanup_afterRelease_iff.1 (cleanup_of_leftover? left)
      rcases Workspace.removeTree_of_leavesBehind (Workspace.clear_warns_iff.1 leaves) with
        ⟨error, refused⟩
      exact ⟨worked, error, releases, refused⟩
    outside := by
      intro place outside
      have apart (root : Location) (entry : Entry)
          (found : worked.tree.find false spec.clonePath = .ok (.found root entry)) :
          ¬root <+: place := outside worked root entry releases found
      rw [concluded.tree, concludedOther.tree]
      have same := @Workspace.get?_clear (host.removing none) _ _ _ apart
      have sameOther := @Workspace.get?_clear (host.removing (some text)) _ _ _ apart
      rw [result] at same
      rw [resultOther] at sameOther
      rw [same, sameOther] }

/-- A removal that fails changes neither what a run does nor how it ends: the run only tells
of the workspace that it left behind. -/
theorem provision_unmasked (quiet : provisioner.sink.IsQuiet) (spec : Spec) (host : Host)
    (text : String) (before : World) :
    ∃ outcome failing after left,
      (provisioner.provision spec).Leads (host.removing none) before outcome after ∧
      (provisioner.provision spec).Leads (host.removing (some text)) before failing left ∧
      provisioner.Unmasked spec host text before outcome failing after left := by
  rcases (provisioner.provision spec).exists_leads (host.removing none) before with
    ⟨outcome, after, ran⟩
  rcases (provisioner.provision spec).exists_leads (host.removing (some text)) before with
    ⟨failing, left, ranOther⟩
  refine ⟨outcome, failing, after, left, ran, ranOther, ?_⟩
  have told : TellAlike (removals host text) provisioner.sink provisioner.sink :=
    tellAlike_of_quiet quiet quiet fun _ _ _ => trivial
  have same : (removals host text).Alike before before := ⟨rfl, rfl, rfl, rfl, rfl, trivial⟩
  have start : (removals host text).Alike (opened spec (host.removing none) before)
      (opened spec (host.removing (some text)) before) := same.ticked.logged _ _ _ _
  cases provision_went ran with
  | refused refused conclude =>
      rcases (Workspace.agree_acquire spec).leads start refused with ⟨world, refusedToo, alike⟩
      cases provision_went ranOther with
      | refused refusedOther concludeOther =>
          rcases refusedOther.unique refusedToo with ⟨equal, rfl⟩
          cases equal
          exact unmasked_of_refused quiet refused alike conclude concludeOther
      | worked takenOther _ _ _ => cases (takenOther.unique refusedToo).1
  | worked taken work release conclude =>
      rcases (Workspace.agree_acquire spec).leads start taken with ⟨world, takenToo, alike⟩
      cases provision_went ranOther with
      | refused refusedOther _ => cases (refusedOther.unique takenToo).1
      | worked takenOther workOther releaseOther concludeOther =>
          rcases takenOther.unique takenToo with ⟨equal, rfl⟩
          cases equal
          rcases (agree_work provisioner spec told _).leads alike work with
            ⟨world, workToo, worked⟩
          rcases workOther.unique workToo with ⟨rfl, rfl⟩
          exact unmasked_of_worked quiet taken work worked release releaseOther conclude
            concludeOther

theorem provision_unmasked_withClone :
    sample.sink.IsQuiet ∧ ∃ outcome failing after left,
      (sample.provision Spec.sample).Leads (Host.quiet.removing none)
        { tree := Spec.withClone } outcome after ∧
      (sample.provision Spec.sample).Leads (Host.quiet.removing (some "busy"))
        { tree := Spec.withClone } failing left ∧
      sample.Unmasked Spec.sample .quiet "busy" { tree := Spec.withClone } outcome failing
        after left :=
  ⟨Sink.isQuiet_silent, provision_unmasked Sink.isQuiet_silent Spec.sample .quiet "busy" _⟩

end Provisioner

end Toolset
