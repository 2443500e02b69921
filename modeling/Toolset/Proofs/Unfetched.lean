import Toolset.Proofs.Provenance
import Toolset.Proofs.Reaping

/-!
# Clones that no fetch returned for

A run that finds its clone starts the installer in it.  So a clone that came into existence
otherwise than by a fetch is installed from: one that a failed fetch left behind because it
could not be removed, one that a process of the installer made, one that a git which was left
alone made once its run was over, and one that was made with the workspace root.  For each of
these there is a sequence of runs in which it happens.
-/

namespace Toolset

open Workspace (release clear removal)

variable {spec : Spec} {start : FileTree} {history later moments : List Moment}

/-- A clone that came into existence otherwise, and for which no fetch returned since, is not
fetched. -/
theorem LastCame.not_fetchedSince {moment : Moment}
    (came : LastCame spec start history moment later)
    (other : ∀ next ∈ moment :: later, next.happening ≠ .fetched (.ok ())) :
    ¬FetchedSince spec history := by
  rcases came with ⟨earlier, rfl, absent, there, _⟩
  rintro ⟨before, tree, since, equal, stays⟩
  have outside : ⟨.fetched (.ok ()), tree⟩ ∉ moment :: later := fun member => other _ member rfl
  rcases List.append_eq_append_iff.1 equal with ⟨between, rfl, rest⟩ | ⟨between, rfl, rest⟩
  · rw [rest] at outside
    exact outside (by simp)
  · cases between with
    | nil =>
        rw [List.nil_append] at rest
        rw [← rest] at outside
        exact outside List.mem_cons_self
    | cons first between =>
        -- the clone came into existence after the fetch, so it did not stay as it was
        rw [List.cons_append, List.cons.injEq] at rest
        rcases rest with ⟨rfl, rfl⟩
        rw [lastTree_append] at absent
        exact absent ((stays_append.1 stays).2.1 there)

namespace Provisioner

variable {provisioner : Provisioner} {host : Host} {before after : World}

/-- A run that finds the clone starts the installer in it, wherever it came from. -/
theorem starts_of_found (quiet : provisioner.sink.IsQuiet) (some : spec.tools ≠ [])
    (found : (Workspace.survey before.tree spec).2 = .ok true)
    (chronicle : provisioner.Chronicle spec host before after moments) :
    ∃ tool tree later, moments = ⟨.prepared, (Workspace.survey before.tree spec).1⟩ ::
      ⟨.installing tool, tree⟩ :: later := by
  cases chronicle with
  | refused refused _ =>
      have ended := (acquired_of_opened refused).survey_eq
      rw [found] at ended
      cases ended
  | @worked workspace acquired sourced worked closed fetch attempts made released taken staged
      installs release same =>
      have surveyed := acquired_of_opened taken
      have tree := surveyed.tree
      rcases surveyed.workspace_eq with ⟨preexisting, answered, rfl⟩
      rw [found] at answered
      cases answered
      have unfetched := staged.present rfl
      subst unfetched
      have begun := staged.begun quiet some (by simp)
      cases installs with
      | nil _ => exact absurd rfl begun
      | cons _ _ _ => exact ⟨_, _, _, by rw [tree]; rfl⟩

/-- A start of the installer, in a sequence of runs, in a clone that no fetch returned for
since it came into existence. -/
def StartsUnfetched (spec : Spec) (before : World) (runs : List (Provisioner × Host)) : Prop :=
  ∃ moments after earlier tool tree later, Runs spec before runs moments after ∧
    moments = earlier ++ ⟨.installing tool, tree⟩ :: later ∧ ¬FetchedSince spec earlier

/-- A clone that no fetch returned for is installed from by the run after, which begins once
what was left alone has made its changes. -/
theorem startsUnfetched_of_left {history : List Moment} {middle next : World}
    {outcome : Except Ending Report}
    (quiet : provisioner.sink.IsQuiet) (some : spec.tools ≠ [])
    (ran : (provisioner.provision spec).Leads host before outcome middle)
    (chronicle : provisioner.Chronicle spec host before middle history)
    (lingers : middle.linger host.lingering = next)
    (survey : Workspace.survey next.tree spec = (next.tree, .ok true))
    (unfetched : ¬FetchedSince spec
      (history ++ (lingerings middle host.lingering ++ [⟨.prepared, next.tree⟩]))) :
    StartsUnfetched spec before [(provisioner, host), (provisioner, .quiet)] := by
  subst lingers
  rcases exists_runs spec (middle.linger host.lingering) [(provisioner, .quiet)] with
    ⟨later, after, others⟩
  have both := Runs.cons ran chronicle others
  cases others with
  | @cons _ ended _ _ _ _ _ _ _ _ nextChronicle none =>
      cases none
      rcases starts_of_found quiet some (by rw [survey]) nextChronicle with
        ⟨tool, tree, rest, rfl⟩
      refine ⟨_, _, _, tool, tree, rest ++ lingerings ended [], both, ?_, unfetched⟩
      simp [survey, Host.quiet]

theorem startsUnfetched_of_prepared (quiet : provisioner.sink.IsQuiet) (some : spec.tools ≠ [])
    (absent : ¬IsThere spec before.tree)
    (found : (Workspace.survey before.tree spec).2 = .ok true) (host : Host) :
    StartsUnfetched spec before [(provisioner, host)] := by
  rcases exists_runs spec before [(provisioner, host)] with ⟨moments, after, ran⟩
  cases id ran with
  | @cons _ ended _ _ _ _ _ _ _ _ chronicle none =>
      cases none
      rcases starts_of_found quiet some found chronicle with ⟨tool, tree, later, rfl⟩
      have came : LastCame spec before.tree [⟨.prepared, (Workspace.survey before.tree spec).1⟩]
          ⟨.prepared, (Workspace.survey before.tree spec).1⟩ [] :=
        ⟨[], rfl, absent, exists?_of_survey found, trivial⟩
      have unfetched := came.not_fetchedSince (by simp)
      exact ⟨_, _, _, tool, tree, later ++ lingerings ended host.lingering, ran, by simp, unfetched⟩

end Provisioner

/-! ## A clone that is left behind -/

namespace Spec

theorem survey_withClone :
    Workspace.survey withClone sample = (withClone, .ok true) := by
  rw [survey_sample (by decide), exists?_withClone]
  rfl

theorem applyAll_cloning : withRoot.applyAll [cloning] = (withClone, none) := by
  rw [FileTree.applyAll, apply_cloning]
  rfl

end Spec

namespace Provisioner

/-- A host whose programs make the changes that are given and exit with a code, and where no
tree can be removed. -/
def busy (changes : Start → List Change) (code : Int) : Host where
  program := fun _ start _ => .runs { changes := changes start, code := some code }
  removalError := some "busy"

theorem tree_of_busy {changes : Start → List Change} {code : Int}
    {released : Except Ending (Option CleanupWarning)}
    (release : (release Spec.sample.clonePath).Leads (busy changes code) before released after)
    (there : before.tree = Spec.withClone) : after.tree = Spec.withClone := by
  have result := (Workspace.release_clears release).result
  rw [there, clear, Spec.exists?_withClone] at result
  have broken : Spec.withClone.breakOff Spec.sample.clonePath (fun _ => true) =
      Spec.withClone := by
    rw [FileTree.breakOff, Spec.find_withClone]
    rfl
  simp only [removal, busy, broken, Prod.mk.injEq] at result
  exact result.1.symm

/-- What a run of git on such a host comes to: it answers with the code. -/
theorem execute_busy {changes : Start → List Change} {code : Int} {source : String}
    {arguments : List String} {outcome : Except Ending Git.Answer} {made : FileTree}
    (applied : before.tree.applyAll (changes (({} : Git).start arguments)) = (made, none))
    (ran : (({} : Git).execute source arguments).Leads (busy changes code) before outcome after) :
    after.tree = made ∧ outcome = .ok ⟨some code, "", ""⟩ := by
  rcases Git.execute_leads ran with ⟨behaviour, called, rfl⟩
  have settled := called.settled
  simp only [busy, Behaviour.settle, applied, Prod.mk.injEq] at settled
  rcases settled with ⟨rfl, rfl⟩
  exact ⟨rfl, rfl⟩

theorem succeed_busy {changes : Start → List Change} {code : Int} {source : String}
    {arguments : List String} {outcome : Except Ending Unit} {made : FileTree}
    (applied : before.tree.applyAll (changes (({} : Git).start arguments)) = (made, none))
    (ran : (({} : Git).succeed source arguments).Leads (busy changes code) before outcome after) :
    after.tree = made ∧ (outcome = .ok () ↔ code = 0) := by
  rw [Git.succeed] at ran
  rcases Act.leads_bind.1 ran with ⟨answer, middle, first, ran⟩ | ⟨ending, first, rfl⟩
  · rcases execute_busy applied first with ⟨tree, equal⟩
    cases equal
    by_cases zero : code = 0
    · rw [if_pos (by simp [Git.Answer.succeeded, zero])] at ran
      rcases Act.leads_pure.1 ran with ⟨rfl, rfl⟩
      exact ⟨tree, by simp [zero]⟩
    · rw [if_neg (by simp [Git.Answer.succeeded, zero])] at ran
      rcases Act.leads_throw.1 ran with ⟨rfl, rfl⟩
      exact ⟨tree, by simp [zero]⟩
  · cases (execute_busy applied first).2

theorem fetch_busy {source : String} {target : Path} {outcome : Except Ending Unit}
    {made : FileTree} (changes : Start → List Change) {code : Int}
    (applied : before.tree.applyAll
      (changes (({} : Git).start (Git.cloneTipCommand source target))) = (made, none))
    (ran : (({} : Git).fetch source target none).Leads (busy changes code) before outcome after) :
    after.tree = made ∧ (outcome = .ok () ↔ code = 0) := by
  have same := SameDeeds.logged before (busy changes code) (Git.unpinnedRecord source)
  rw [← same.tree] at applied
  rw [Git.fetch, Act.leads_log_bind] at ran
  rcases Act.leads_bind.1 ran with ⟨_, middle, first, ran⟩ | ⟨ending, first, rfl⟩
  · rcases succeed_busy applied first with ⟨tree, returned⟩
    rcases Act.leads_log.1 ran with ⟨rfl, rfl⟩
    exact ⟨(SameDeeds.logged _ _ _).tree.trans tree, returned⟩
  · rcases succeed_busy applied first with ⟨tree, returned⟩
    exact ⟨tree, by simpa using returned⟩

/-- Where the clone is not there, a run of the sample fetches it. If nothing was alive before,
what is alive after it was left by a call. -/
theorem fetches_of_withRoot {outcome : Except Ending Report} (root : before.tree = Spec.withRoot)
    (ran : (sample.provision Spec.sample).Leads host before outcome after) :
    ∃ acquired opened fetched sourced worked closed ended fetching attempts made released,
      opened.tree = Spec.withRoot ∧
      (sample.git.fetch Spec.sample.source Spec.sample.clonePath none).Leads host opened ended
        fetched ∧
      sourced.tree = fetched.tree ∧ fetched.calls = opened.calls ++ fetching ∧
      sample.Staged Spec.sample host false acquired sourced worked (some ended) attempts ∧
      sample.Installs Spec.sample host sourced attempts made worked ∧
      (release Spec.sample.clonePath).Leads host worked released closed ∧
      after.tree = closed.tree ∧
      (alive before.deeds = [] → alive after.deeds = [] →
        ∀ call ∈ fetching, sample.git.leaves call.behaviour = false) ∧
      sample.Chronicle Spec.sample host before after
        (⟨.prepared, Spec.withRoot⟩ :: ⟨.fetched ended, sourced.tree⟩ :: made ++
          [⟨.released released, closed.tree⟩]) := by
  have surveyed : Workspace.survey before.tree Spec.sample = (Spec.withRoot, .ok false) := by
    rw [root, Spec.survey_sample (by decide), Spec.exists?_withRoot]
    rfl
  cases provision_leads ran with
  | refused refused _ =>
      have ended := (acquired_of_opened refused).survey_eq
      rw [surveyed] at ended
      cases ended
  | @worked workspace acquired worked closed fetching attempts told toldLast done released taken
      work whole release concluded =>
      have acquires := acquired_of_opened taken
      have tree := acquires.tree
      rcases acquires.workspace_eq with ⟨preexisting, answered, rfl⟩
      rw [surveyed] at tree answered
      cases answered
      rcases whole.staged with ⟨sourced, fetch, staged, calls⟩
      rcases exists_installs staged.runs with ⟨made, installs⟩
      have sourcing := staged.sourcing
      cases fetch with
      | none => cases staged.absent Sink.isQuiet_silent rfl
      | some ended =>
          cases sourcing with
          | @fetched opened fetched _ first fetch last =>
              have chronicle := Chronicle.worked taken staged installs release concluded.tree
              rw [tree] at chronicle
              rw [last.calls, ← first.calls] at calls
              refine ⟨acquired, opened, fetched, sourced, worked, closed, ended, fetching,
                attempts, made, released, first.tree.trans tree, fetch, last.tree, calls, staged,
                installs, release, concluded.tree, ?_, chronicle⟩
              intro before none
              exact ((alive_eq_nil_iff_of_worked taken whole release concluded before).1 none).1

/-- A run of the sample whose git makes the clone and fails leaves it behind. -/
theorem leftBehind_of_failed {outcome : Except Ending Report}
    (ran : (sample.provision Spec.sample).Leads (busy (fun _ => [Spec.cloning]) 128)
      { tree := Spec.withRoot } outcome after) :
    after.tree = Spec.withClone ∧ ∃ ended released, ended ≠ .ok () ∧
      sample.Chronicle Spec.sample (busy (fun _ => [Spec.cloning]) 128) { tree := Spec.withRoot }
        after [⟨.prepared, Spec.withRoot⟩, ⟨.fetched ended, Spec.withClone⟩,
          ⟨.released released, Spec.withClone⟩] := by
  rcases fetches_of_withRoot rfl ran with ⟨acquired, opened, fetched, sourced, worked, closed,
    ended, fetching, attempts, made, released, root, fetch, sourcedTree, _, staged, installs,
    release, same, _, chronicle⟩
  have applied : opened.tree.applyAll [Spec.cloning] = (Spec.withClone, none) := by
    rw [root, Spec.applyAll_cloning]
  rcases fetch_busy (fun _ => [Spec.cloning]) applied fetch with ⟨tree, returned⟩
  have failed : ended ≠ .ok () := fun equal => absurd (returned.1 equal) (by decide)
  have none := staged.attempts_eq_nil failed
  subst none
  cases installs with
  | nil quiet =>
      have there : sourced.tree = Spec.withClone := sourcedTree.trans tree
      have left := tree_of_busy release (quiet.tree.trans there)
      rw [there, left] at chronicle
      exact ⟨same.trans left, ended, released, failed, chronicle⟩

/-- A partial clone that a failed fetch leaves behind is installed from by the run after. -/
theorem startsUnfetched_of_failed :
    Spec.ofFields Spec.sample.fields = .ok Spec.sample ∧
    ¬IsThere Spec.sample Spec.withRoot ∧
    StartsUnfetched Spec.sample { tree := Spec.withRoot }
      [(sample, busy (fun _ => [Spec.cloning]) 128), (sample, .quiet)] := by
  refine ⟨Spec.ofFields_sample, not_isThere_of_exists? Spec.exists?_withRoot, ?_⟩
  rcases (sample.provision Spec.sample).exists_leads (busy (fun _ => [Spec.cloning]) 128)
    { tree := Spec.withRoot } with ⟨outcome, middle, ran⟩
  rcases leftBehind_of_failed ran with ⟨tree, ended, released, failed, chronicle⟩
  refine startsUnfetched_of_left Sink.isQuiet_silent (by simp [Spec.sample]) ran chronicle
    middle.linger_nil (by rw [tree, Spec.survey_withClone]) ?_
  have came : LastCame Spec.sample Spec.withRoot
      [⟨.prepared, Spec.withRoot⟩, ⟨.fetched ended, Spec.withClone⟩,
        ⟨.released released, Spec.withClone⟩, ⟨.prepared, Spec.withClone⟩]
      ⟨.fetched ended, Spec.withClone⟩
      [⟨.released released, Spec.withClone⟩, ⟨.prepared, Spec.withClone⟩] :=
    ⟨[⟨.prepared, Spec.withRoot⟩], rfl, not_isThere_of_exists? Spec.exists?_withRoot,
      Spec.exists?_withClone, id, id, trivial⟩
  rw [tree]
  simpa [busy] using came.not_fetchedSince (by simp [failed])

/-- Changes of a git that makes the clone, and of an installer, which is the one that is
started in a directory, that makes it anew. -/
def remaking (start : Start) : List Change :=
  if start.directory.isSome then [Spec.emptying, Spec.cloning] else [Spec.cloning]

/-- A clone that a process of the installer made anew is installed from by the run after. -/
theorem startsUnfetched_of_installed :
    StartsUnfetched Spec.sample { tree := Spec.withRoot }
      [(sample, busy remaking 0), (sample, .quiet)] := by
  rcases (sample.provision Spec.sample).exists_leads (busy remaking 0)
    { tree := Spec.withRoot } with ⟨outcome, middle, ran⟩
  rcases fetches_of_withRoot rfl ran with ⟨acquired, opened, fetched, sourced, worked, closed,
    ended, fetching, attempts, made, released, root, fetch, sourcedTree, _, staged, installs,
    release, same, _, chronicle⟩
  have applied : opened.tree.applyAll [Spec.cloning] = (Spec.withClone, none) := by
    rw [root, Spec.applyAll_cloning]
  rcases fetch_busy remaking applied fetch with ⟨tree, returned⟩
  have returns : ended = .ok () := returned.2 rfl
  subst returns
  have begun := staged.begun Sink.isQuiet_silent (by simp [Spec.sample]) (by simp)
  have one := staged.inOrder.length_le
  cases installs with
  | nil _ => exact absurd rfl begun
  | @cons _ begins ends _ attempt rest after quiet attempted others =>
      have only : rest = [] := by simpa [Spec.sample] using one
      subst only
      cases others with
      | nil still =>
          have there : begins.tree = Spec.withClone := by rw [quiet.tree, sourcedTree, tree]
          have changed : changes (busy remaking 0) begins attempt.call.start =
              [⟨.changed, Spec.withRoot⟩, ⟨.changed, Spec.withClone⟩] := by
            simp [changes, busy, remaking, attempted.start, Installer.start, Behaviour.stages,
              FileTree.stages, there, Spec.apply_emptying, Spec.apply_cloning]
          have remade : worked.tree = Spec.withClone := by
            rw [still.tree, ← lastTree_of_attempted attempted, changed]
            rfl
          have left := tree_of_busy release remade
          have middleTree : middle.tree = Spec.withClone := same.trans left
          refine startsUnfetched_of_left Sink.isQuiet_silent (by simp [Spec.sample]) ran chronicle
            middle.linger_nil (by rw [middleTree, Spec.survey_withClone]) ?_
          have came : LastCame Spec.sample Spec.withRoot
              [⟨.prepared, Spec.withRoot⟩, ⟨.fetched (.ok ()), Spec.withClone⟩,
                ⟨.installing attempt.tool, Spec.withClone⟩, ⟨.changed, Spec.withRoot⟩,
                ⟨.changed, Spec.withClone⟩, ⟨.released released, Spec.withClone⟩,
                ⟨.prepared, Spec.withClone⟩]
              ⟨.changed, Spec.withClone⟩
              [⟨.released released, Spec.withClone⟩, ⟨.prepared, Spec.withClone⟩] :=
            ⟨[⟨.prepared, Spec.withRoot⟩, ⟨.fetched (.ok ()), Spec.withClone⟩,
                ⟨.installing attempt.tool, Spec.withClone⟩, ⟨.changed, Spec.withRoot⟩], rfl,
              not_isThere_of_exists? Spec.exists?_withRoot, Spec.exists?_withClone, id, id, trivial⟩
          rw [changed, there, left, middleTree, sourcedTree, tree]
          simpa [busy] using came.not_fetchedSince (by simp)

/-- A process whose output cannot be read. -/
def unreadable : Process where
  output := some ⟨[], some (.breaks (.failed (.plain "Input/output error")))⟩

theorem leaves_unreadable : ({} : Git).leaves (.runs unreadable) = true := by decide

/-- A host whose programs cannot be read, and make the clone of the sample once the run that
left them is over. -/
def leaking : Host where
  program := fun _ _ _ => .runs unreadable
  lingering := [Spec.cloning]

/-- A single call was made that left its process, and nothing is changed yet. -/
def Leaked (before after : World) : Prop :=
  after.tree = before.tree ∧
    ∃ call, after.calls = before.calls ++ [call] ∧ ({} : Git).leaves call.behaviour = true

theorem execute_leaking {source : String} {arguments : List String}
    {outcome : Except Ending Git.Answer}
    (ran : (({} : Git).execute source arguments).Leads leaking before outcome after) :
    Leaked before after ∧ ∃ ending, outcome = .error ending := by
  rcases Git.execute_leads ran with ⟨behaviour, called, rfl⟩
  rcases called.added with ⟨_, added⟩
  have settled := called.settled
  simp only [leaking, Behaviour.settle, unreadable, FileTree.applyAll, Prod.mk.injEq] at settled
  rcases settled with ⟨same, rfl⟩
  exact ⟨⟨same.symm, _, added.calls, leaves_unreadable⟩, _, rfl⟩

theorem succeed_leaking {source : String} {arguments : List String} {outcome : Except Ending Unit}
    (ran : (({} : Git).succeed source arguments).Leads leaking before outcome after) :
    Leaked before after ∧ ∃ ending, outcome = .error ending := by
  rw [Git.succeed] at ran
  rcases Act.leads_bind.1 ran with ⟨answer, middle, first, _⟩ | ⟨ending, first, rfl⟩
  · rcases (execute_leaking first).2 with ⟨_, equal⟩
    cases equal
  · exact ⟨(execute_leaking first).1, ending, rfl⟩

theorem fetch_leaking {source : String} {target : Path} {outcome : Except Ending Unit}
    (ran : (({} : Git).fetch source target none).Leads leaking before outcome after) :
    Leaked before after ∧ ∃ ending, outcome = .error ending := by
  have logged := SameDeeds.logged before leaking (Git.unpinnedRecord source)
  rw [Git.fetch, Act.leads_log_bind] at ran
  rcases Act.leads_bind.1 ran with ⟨_, middle, first, _⟩ | ⟨ending, first, rfl⟩
  · rcases (succeed_leaking first).2 with ⟨_, equal⟩
    cases equal
  · rcases (succeed_leaking first).1 with ⟨tree, call, calls, leaves⟩
    refine ⟨⟨tree.trans logged.tree, call, ?_, leaves⟩, ending, rfl⟩
    rw [calls, logged.calls]

theorem tree_of_leaking {released : Except Ending (Option CleanupWarning)}
    (release : (release Spec.sample.clonePath).Leads leaking before released after)
    (absent : before.tree = Spec.withRoot) : after.tree = Spec.withRoot := by
  have result := (Workspace.release_clears release).result
  rw [absent, clear, Spec.exists?_withRoot] at result
  simp only [Prod.mk.injEq] at result
  exact result.1.symm

/-- A clone that is made after its run, by a git that was left alone, is installed from by the
run after. -/
theorem startsUnfetched_of_lingering :
    StartsUnfetched Spec.sample { tree := Spec.withRoot }
      [(sample, leaking), (sample, .quiet)] := by
  rcases (sample.provision Spec.sample).exists_leads leaking { tree := Spec.withRoot } with
    ⟨outcome, middle, ran⟩
  rcases fetches_of_withRoot rfl ran with ⟨acquired, opened, fetched, sourced, worked, closed,
    ended, fetching, attempts, made, released, root, fetch, sourcedTree, calls, staged, installs,
    release, same, reaped, chronicle⟩
  rcases fetch_leaking fetch with ⟨⟨tree, call, called, leaves⟩, ending, rfl⟩
  have none := staged.attempts_eq_nil (by simp)
  subst none
  cases installs with
  | nil quiet =>
      have there : sourced.tree = Spec.withRoot := by rw [sourcedTree, tree, root]
      have left := tree_of_leaking release (quiet.tree.trans there)
      have middleTree : middle.tree = Spec.withRoot := same.trans left
      -- git is alive, for its call is the one of the run
      have living : alive middle.deeds ≠ [] := by
        intro none
        rw [calls] at called
        cases List.append_cancel_left called
        have gone := reaped rfl none call List.mem_cons_self
        rw [sample, leaves] at gone
        cases gone
      have lingers : (middle.linger leaking.lingering).tree = Spec.withClone := by
        rw [World.linger, if_neg living, middleTree, leaking, Spec.applyAll_cloning]
      have moments : lingerings middle leaking.lingering =
          [⟨.lingered (alive middle.deeds), Spec.withClone⟩] := by
        rw [lingerings, if_neg living, middleTree]
        simp [leaking, FileTree.stages, Spec.apply_cloning]
      refine startsUnfetched_of_left Sink.isQuiet_silent (by simp [Spec.sample]) ran chronicle rfl
        (by rw [lingers, Spec.survey_withClone]) ?_
      have came : LastCame Spec.sample Spec.withRoot
          [⟨.prepared, Spec.withRoot⟩, ⟨.fetched (.error ending), Spec.withRoot⟩,
            ⟨.released released, Spec.withRoot⟩,
            ⟨.lingered (alive middle.deeds), Spec.withClone⟩,
            ⟨.prepared, Spec.withClone⟩]
          ⟨.lingered (alive middle.deeds), Spec.withClone⟩
          [⟨.prepared, Spec.withClone⟩] :=
        ⟨[⟨.prepared, Spec.withRoot⟩, ⟨.fetched (.error ending), Spec.withRoot⟩,
            ⟨.released released, Spec.withRoot⟩], rfl,
          not_isThere_of_exists? Spec.exists?_withRoot, Spec.exists?_withClone, id, trivial⟩
      rw [moments, there, left, lingers]
      exact came.not_fetchedSince (by simp)

end Provisioner

/-! ## A clone that is made with the root -/

namespace Spec

/-- A specification whose root is written by way of its clone. -/
def roundabout : Spec := { sample with root := ⟨.root, ["work", "tools", ".."]⟩ }

theorem clonePath_roundabout :
    roundabout.clonePath = ⟨.root, ["work", "tools", "..", "tools"]⟩ := rfl

theorem ofFields_roundabout : ofFields roundabout.fields = .ok roundabout := rfl

theorem exists?_roundabout : withRoot.exists? roundabout.clonePath = .ok false := by
  have root : withRoot.get? ["work"] = some (.directory 0o755) := by decide
  have absent : withRoot.get? ["work", "tools"] = none := by decide
  rw [FileTree.exists?, FileTree.test, if_neg (by decide), FileTree.find, if_neg (by decide)]
  simp [clonePath_roundabout, FileTree.walk, root, absent, FileTree.longestName,
    utf8ByteSize_work, utf8ByteSize_tools]

theorem find_root_withRoot (follow : Bool) :
    withRoot.find follow roundabout.root = .error .missing := by
  have root : withRoot.get? ["work"] = some (.directory 0o755) := by decide
  have absent : withRoot.get? ["work", "tools"] = none := by decide
  rw [FileTree.find, if_neg (by decide)]
  simp [roundabout, FileTree.walk, root, absent, FileTree.longestName, utf8ByteSize_work,
    utf8ByteSize_tools]

theorem find_root_withClone (follow : Bool) :
    withClone.find follow roundabout.root = .ok (.found ["work"] (.directory 0o755)) := by
  have root : withClone.get? ["work"] = some (.directory 0o755) := by decide
  have there : withClone.get? ["work", "tools"] = some (.directory 0o755) := by decide
  rw [FileTree.find, if_neg (by decide)]
  simp [roundabout, FileTree.walk, root, there, FileTree.longestName, utf8ByteSize_work,
    utf8ByteSize_tools]

/-- Making such a root makes the clone on the way. -/
theorem makeRoot_roundabout : Workspace.makeRoot withRoot roundabout.root =
    (withClone.put ["work"] (.directory 0o755), none) := by
  have refused : withRoot.makeDirectory roundabout.root = .error .missing := by
    rw [FileTree.makeDirectory, find_root_withRoot]
  have above : withRoot.makeDirectories .root ["work", "tools"] = (withClone, none) := by
    have made := apply_cloning
    rw [cloning, FileTree.apply] at made
    exact made
  have seen : withClone.holdsDirectory roundabout.root = true := by
    rw [FileTree.holdsDirectory, FileTree.isDirectory?, FileTree.test, if_neg (by decide),
      find_root_withClone]
    rfl
  have ensured : withClone.ensureDirectory roundabout.root = (withClone, none) := by
    rw [FileTree.ensureDirectory, FileTree.makeDirectory, find_root_withClone]
    simp [seen]
  have made : withRoot.makeDirectories roundabout.root.anchor roundabout.root.names =
      (withClone, none) := by
    rw [FileTree.makeDirectories]
    have path : (⟨roundabout.root.anchor, roundabout.root.names⟩ : Path) = roundabout.root := rfl
    have onTheWay : withRoot.makeDirectories roundabout.root.anchor
        roundabout.root.names.dropLast = (withClone, none) := above
    simp only [path, refused]
    rw [dif_neg (by decide), onTheWay]
    exact ensured
  rw [Workspace.makeRoot, made]
  simp only [FileTree.setMode, find_root_withClone]
  rfl

theorem survey_roundabout : (Workspace.survey withRoot roundabout).2 = .ok true := by
  have missing : withRoot.isDirectory? roundabout.root = .ok false := by
    rw [FileTree.isDirectory?, FileTree.test, if_neg (by decide), find_root_withRoot]
  have valid : FileTree.hasNull roundabout.root = false := by decide
  have there : (withClone.put ["work"] (.directory 0o755)).exists? roundabout.clonePath =
      .ok true := by
    have root : (withClone.put ["work"] (.directory 0o755)).get? ["work"] =
        some (.directory 0o755) := by decide
    have clone : (withClone.put ["work"] (.directory 0o755)).get? ["work", "tools"] =
        some (.directory 0o755) := by decide
    rw [FileTree.exists?, FileTree.test, if_neg (by decide), FileTree.find, if_neg (by decide)]
    simp [clonePath_roundabout, FileTree.walk, root, clone, FileTree.longestName,
      utf8ByteSize_work, utf8ByteSize_tools]
  rw [Workspace.survey, Workspace.prepare, missing]
  simp only [valid, makeRoot_roundabout, there, Bool.false_eq_true, ↓reduceIte]
  rfl

end Spec

namespace Provisioner

theorem startsUnfetched_roundabout :
    Spec.ofFields Spec.roundabout.fields = .ok Spec.roundabout ∧
    ¬IsThere Spec.roundabout Spec.withRoot ∧
    StartsUnfetched Spec.roundabout { tree := Spec.withRoot } [(sample, .quiet)] := by
  have absent := not_isThere_of_exists? Spec.exists?_roundabout
  refine ⟨Spec.ofFields_roundabout, absent, ?_⟩
  apply startsUnfetched_of_prepared Sink.isQuiet_silent
  · simp [Spec.roundabout, Spec.sample]
  · exact absent
  · exact Spec.survey_roundabout

end Provisioner

end Toolset
