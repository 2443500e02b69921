import Toolset.Proofs.Acceptance
import Toolset.Proofs.Chronicle

/-!
# Where the clone of a run comes from

A run does not fetch the source if its clone is there, wherever that came from.  So what
the installer is started in depends on the runs before.  Either a fetch returned since the
clone last came into existence; or the clone came into existence with the workspace root,
while a process of the installer ran, by a process that a run before had left alone, or by
a fetch that did not return and whose run could not remove it.  Nothing else makes a clone:
a release never does, and a fetch that returns is a fetch since.
-/

namespace Toolset

open Workspace (acquire release)

variable {spec : Spec} {start : FileTree} {history later moments : List Moment}

/-- The clone of a specification is there. -/
def IsThere (spec : Spec) (tree : FileTree) : Prop := tree.exists? spec.clonePath = .ok true

theorem not_isThere_of_exists? {tree : FileTree}
    (absent : tree.exists? spec.clonePath = .ok false) : ¬IsThere spec tree := by
  intro there
  cases absent.symm.trans there

/-- From a tree on, the clone does not come into existence in any of some moments. -/
def Stays (spec : Spec) : FileTree → List Moment → Prop
  | _, [] => True
  | tree, moment :: rest =>
      (IsThere spec moment.tree → IsThere spec tree) ∧ Stays spec moment.tree rest

theorem stays_append {tree : FileTree} {first second : List Moment} :
    Stays spec tree (first ++ second) ↔
      Stays spec tree first ∧ Stays spec (lastTree tree first) second := by
  induction first generalizing tree with
  | nil => simp [Stays, lastTree]
  | cons moment rest ih => simp [Stays, lastTree, ih, and_assoc]

/-- A fetch returned, and the clone did not come into existence since. -/
def FetchedSince (spec : Spec) (history : List Moment) : Prop :=
  ∃ earlier tree later, history = earlier ++ ⟨.fetched (.ok ()), tree⟩ :: later ∧
    Stays spec tree later

/-- The clone came into existence in a moment of a history, and not again in the moments
after it. -/
def LastCame (spec : Spec) (start : FileTree) (history : List Moment) (moment : Moment)
    (later : List Moment) : Prop :=
  ∃ earlier, history = earlier ++ moment :: later ∧ ¬IsThere spec (lastTree start earlier) ∧
    IsThere spec moment.tree ∧ Stays spec moment.tree later

/-- Where the clone comes from that an installer is started in. -/
inductive Explained (spec : Spec) (start : FileTree) (history : List Moment) : Prop where
  /-- A fetch returned since the clone came into existence. -/
  | fetched : FetchedSince spec history → Explained spec start history
  /-- It came into existence with the workspace root. -/
  | prepared {tree : FileTree} {later : List Moment} :
      LastCame spec start history ⟨.prepared, tree⟩ later → Explained spec start history
  /-- It came into existence while a process of the installer ran. -/
  | installed {tree : FileTree} {later : List Moment} :
      LastCame spec start history ⟨.changed, tree⟩ later → Explained spec start history
  /-- It came into existence between two runs, by a process that was left alone. -/
  | lingering {left : List Nat} {tree : FileTree} {later : List Moment} :
      left ≠ [] → LastCame spec start history ⟨.lingered left, tree⟩ later →
      Explained spec start history
  /-- It came into existence by a fetch that did not return, and was left behind. -/
  | leftBehind {ending : Ending} {tree left : FileTree} {warning : CleanupWarning}
      {later : List Moment} :
      LastCame spec start history ⟨.fetched (.error ending), tree⟩
        (⟨.released (.ok (some warning)), left⟩ :: later) →
      Explained spec start history

/-! ## What a moment keeps -/

theorem FetchedSince.append (fetched : FetchedSince spec history)
    (stays : Stays spec (lastTree start history) later) : FetchedSince spec (history ++ later) := by
  rcases fetched with ⟨earlier, tree, between, rfl, stayed⟩
  rw [lastTree_append] at stays
  exact ⟨earlier, tree, between ++ later, by simp, stays_append.2 ⟨stayed, stays⟩⟩

theorem LastCame.append {moment : Moment} {between : List Moment}
    (came : LastCame spec start history moment between)
    (stays : Stays spec (lastTree start history) later) :
    LastCame spec start (history ++ later) moment (between ++ later) := by
  rcases came with ⟨earlier, rfl, absent, there, stayed⟩
  rw [lastTree_append] at stays
  exact ⟨earlier, by simp, absent, there, stays_append.2 ⟨stayed, stays⟩⟩

/-- What explains a clone explains it as long as it does not come into existence again. -/
theorem Explained.append (explained : Explained spec start history)
    (stays : Stays spec (lastTree start history) later) :
    Explained spec start (history ++ later) := by
  cases explained with
  | fetched since => exact .fetched (since.append stays)
  | prepared came => exact .prepared (came.append stays)
  | installed came => exact .installed (came.append stays)
  | lingering some came => exact .lingering some (came.append stays)
  | leftBehind came => exact .leftBehind (came.append stays)

/-- A clone that is there after a moment was there before it, or came into existence in it. -/
theorem explained_of_there {moment : Moment}
    (kept : IsThere spec (lastTree start history) → Explained spec start history)
    (came : LastCame spec start (history ++ [moment]) moment [] →
      Explained spec start (history ++ [moment]))
    (there : IsThere spec moment.tree) : Explained spec start (history ++ [moment]) := by
  by_cases before : IsThere spec (lastTree start history)
  · exact (kept before).append ⟨fun _ => before, trivial⟩
  · exact came ⟨history, rfl, before, there, trivial⟩

/-- Whatever is changed while a process of the installer runs, the clone is explained
afterwards if it was before. -/
theorem Explained.changed (explained : Explained spec start history) (trees : List FileTree) :
    Explained spec start (history ++ trees.map (⟨.changed, ·⟩)) := by
  induction trees generalizing history with
  | nil => simpa using explained
  | cons tree rest ih =>
      have step : Explained spec start (history ++ [⟨.changed, tree⟩]) := by
        by_cases there : IsThere spec tree
        · exact explained_of_there (fun _ => explained) .installed there
        · exact explained.append ⟨fun now => absurd now there, trivial⟩
      simpa using ih step

/-! ## Starts of the installer -/

/-- After a history, each start of the installer in some moments is explained by all that
came before it. -/
def Justified (spec : Spec) (start : FileTree) : List Moment → List Moment → Prop
  | _, [] => True
  | history, moment :: rest =>
      (∀ tool, moment.happening = .installing tool → Explained spec start history) ∧
        Justified spec start (history ++ [moment]) rest

theorem justified_append {first second : List Moment} :
    Justified spec start history (first ++ second) ↔
      Justified spec start history first ∧ Justified spec start (history ++ first) second := by
  induction first generalizing history with
  | nil => simp [Justified]
  | cons moment rest ih => simp [Justified, ih, and_assoc]

theorem justified_of_no_start
    (none : ∀ moment ∈ moments, ∀ tool, moment.happening ≠ .installing tool) :
    Justified spec start history moments := by
  induction moments generalizing history with
  | nil => trivial
  | cons moment rest ih =>
      refine ⟨fun tool equal => absurd equal (none moment List.mem_cons_self tool), ih ?_⟩
      exact fun other member => none other (List.mem_cons_of_mem _ member)

theorem justified_changes (host : Host) (world : World) (begun : Start) :
    Justified spec start history (changes host world begun) := by
  apply justified_of_no_start
  intro moment member tool
  rcases List.mem_map.1 member with ⟨_, _, rfl⟩
  simp

theorem justified_lingerings (world : World) (changes : List Change) :
    Justified spec start history (lingerings world changes) := by
  rw [lingerings]
  split
  · trivial
  apply justified_of_no_start
  intro moment member tool
  rcases List.mem_map.1 member with ⟨_, _, rfl⟩
  simp

theorem Justified.explained {earlier : List Moment} {tool : String} {tree : FileTree}
    (justified : Justified spec start history (earlier ++ ⟨.installing tool, tree⟩ :: later)) :
    Explained spec start (history ++ earlier) :=
  ((justified_append.1 justified).2).1 tool rfl

namespace Provisioner

variable {provisioner : Provisioner} {host : Host} {before after : World}

/-! ## What a run keeps -/

/-- Attempts keep what explains the clone that the first of them finds. -/
theorem justified_of_installs {attempts : List Attempt}
    (installs : provisioner.Installs spec host before attempts moments after)
    (last : lastTree start history = before.tree) (explained : Explained spec start history) :
    Justified spec start history moments ∧ Explained spec start (history ++ moments) ∧
      lastTree start (history ++ moments) = after.tree := by
  induction installs generalizing history with
  | nil same => simp [Justified, explained, last, same.tree]
  | @cons before opened closed after attempt rest later same attempted _ ih =>
      -- the start itself changes nothing
      have begun : Explained spec start (history ++ [⟨.installing attempt.tool, opened.tree⟩]) := by
        refine explained.append ⟨?_, trivial⟩
        rw [last, same.tree]
        exact id
      have changed : Explained spec start (history ++ [⟨.installing attempt.tool, opened.tree⟩] ++
          changes host opened attempt.call.start) := begun.changed _
      have tree : lastTree start (history ++ [⟨.installing attempt.tool, opened.tree⟩] ++
          changes host opened attempt.call.start) = closed.tree := by
        rw [lastTree_append, lastTree_append]
        exact lastTree_of_attempted attempted
      rcases ih tree changed with ⟨justified, explainedLast, lastOfAll⟩
      refine ⟨⟨fun _ _ => explained, justified_append.2 ⟨justified_changes _ _ _, ?_⟩⟩, ?_, ?_⟩
      · exact justified
      · simpa using explainedLast
      · simpa using lastOfAll

theorem exists?_of_survey {tree : FileTree} {preexisting : Bool}
    (found : (Workspace.survey tree spec).2 = .ok preexisting) :
    (Workspace.survey tree spec).1.exists? spec.clonePath = .ok preexisting := by
  rw [Workspace.survey] at found ⊢
  generalize Workspace.prepare tree spec.root = surveyed at found ⊢
  rcases surveyed with ⟨prepared, ended⟩
  cases ended with
  | error ending => cases found
  | ok _ =>
      dsimp only at found ⊢
      generalize prepared.exists? spec.clonePath = answered at found ⊢
      cases answered with
      | error error => cases found
      | ok isThere =>
          cases found
          rfl

theorem exists?_of_acquire {workspace : Workspace}
    (taken : (acquire spec).Leads host before (.ok workspace) after) :
    after.tree.exists? spec.clonePath = .ok workspace.preexisting := by
  have acquired := Workspace.acquire_leads taken
  rcases acquired.workspace_eq with ⟨preexisting, found, rfl⟩
  rw [acquired.tree]
  exact exists?_of_survey found

/-- A clone that is there after its release was there before, and the release warns
of it. -/
theorem warned_of_there {fields : List Field} {released : Except Ending (Option CleanupWarning)}
    (accepted : Spec.ofFields fields = .ok spec)
    (release : (release spec.clonePath).Leads host before released after)
    (there : IsThere spec after.tree) :
    IsThere spec before.tree ∧ ∃ warning, released = .ok (some warning) := by
  rcases Workspace.release_leads release with
    ⟨cleanup, rfl, freed⟩ | ⟨error, unanswered, _, same, _⟩
  · cases cleanup with
    | none =>
        rcases freed.removed rfl with ⟨absent, same⟩ | removed
        · rw [same] at there
          exact absurd there (not_isThere_of_exists? absent)
        · have gone := Spec.exists?_clonePath_of_removeTree accepted removed
          exact absurd there (not_isThere_of_exists? gone)
    | some warning =>
        refine ⟨?_, warning, rfl⟩
        rcases (freed.leftBehind warning rfl).2.1 with same | broken
        · rw [same] at there
          exact there
        · rw [broken] at there
          rcases FileTree.exists?_breakOff before.tree spec.clonePath host.spared with
            same | gone
          · exact same.symm.trans there
          · exact absurd there (not_isThere_of_exists? gone)
  · rw [same] at there
    cases unanswered.symm.trans there

/-- What is known of a history between runs: the tree that it led to, and that the clone is
explained if it is there. -/
structure Kept (spec : Spec) (start : FileTree) (history : List Moment) (tree : FileTree) :
    Prop where
  last : lastTree start history = tree
  explained : IsThere spec tree → Explained spec start history

/-- Moments of one kind keep a history if a clone that came into existence in one of them is
explained by that. -/
theorem Kept.ofOneKind {happening : Happening} {tree : FileTree}
    (came : ∀ {history : List Moment} {made : FileTree} {later : List Moment},
      LastCame spec start history ⟨happening, made⟩ later → Explained spec start history)
    (kept : Kept spec start history tree) (trees : List FileTree) :
    Kept spec start (history ++ trees.map (⟨happening, ·⟩))
      (lastTree tree (trees.map (⟨happening, ·⟩))) := by
  induction trees generalizing history tree with
  | nil => simpa [lastTree] using kept
  | cons made rest ih =>
      have step : Kept spec start (history ++ [⟨happening, made⟩]) made := by
        refine ⟨by rw [lastTree_append]; rfl, fun there => ?_⟩
        rw [← kept.last] at kept
        exact explained_of_there kept.explained (fun new => came new) there
      simpa [lastTree] using ih step

theorem Kept.prepared {tree : FileTree} (kept : Kept spec start history tree) (made : FileTree) :
    Kept spec start (history ++ [⟨.prepared, made⟩]) made :=
  kept.ofOneKind (fun came => .prepared came) [made]

theorem Kept.lingered {world : World} (kept : Kept spec start history world.tree)
    (changes : List Change) :
    Kept spec start (history ++ lingerings world changes) (world.linger changes).tree := by
  rw [lingerings, World.linger]
  split
  · simpa using kept
  case isFalse some =>
    have lingered := kept.ofOneKind (fun came => .lingering some came) (world.tree.stages changes)
    rwa [lastTree_stages] at lingered

/-- A release brings no clone into existence. -/
theorem Kept.released {fields : List Field} {released : Except Ending (Option CleanupWarning)}
    (accepted : Spec.ofFields fields = .ok spec) (kept : Kept spec start history before.tree)
    (release : (release spec.clonePath).Leads host before released after) :
    Kept spec start (history ++ [⟨.released released, after.tree⟩]) after.tree where
  last := by rw [lastTree_append]; rfl
  explained := by
    intro there
    have earlier := (warned_of_there accepted release there).1
    refine (kept.explained earlier).append ⟨fun _ => ?_, trivial⟩
    rw [kept.last]
    exact earlier

theorem Kept.installs {attempts : List Attempt} (kept : Kept spec start history before.tree)
    (explained : attempts ≠ [] → Explained spec start history)
    (installs : provisioner.Installs spec host before attempts moments after) :
    Justified spec start history moments ∧ Kept spec start (history ++ moments) after.tree := by
  cases attempts with
  | nil =>
      cases installs with
      | nil same =>
          rw [same.tree, List.append_nil]
          exact ⟨trivial, kept⟩
  | cons attempt rest =>
      rcases justified_of_installs installs kept.last (explained (by simp)) with
        ⟨justified, explained, last⟩
      exact ⟨justified, last, fun _ => explained⟩

/-- A run that does not fetch keeps what explains the clone that is there, and one whose
fetch returns has an explanation of its own. -/
theorem Kept.staged {preexisting : Bool} {acquired sourced worked : World}
    {fetch : Option (Except Ending Unit)} {attempts : List Attempt}
    (kept : Kept spec start history acquired.tree)
    (found : acquired.tree.exists? spec.clonePath = .ok preexisting)
    (staged : provisioner.Staged spec host preexisting acquired sourced worked fetch attempts)
    (returned : ∀ ending, fetch ≠ some (.error ending)) :
    Kept spec start (history ++ fetchMoments sourced.tree fetch) sourced.tree ∧
      (attempts ≠ [] →
        Explained spec start (history ++ fetchMoments sourced.tree fetch)) := by
  cases fetch with
  | none =>
      cases staged.sourcing with
      | spared same =>
          rw [fetchMoments, List.append_nil, same.tree]
          refine ⟨kept, fun some => kept.explained ?_⟩
          rcases staged.reached some with present | fetched
          · rw [present] at found
            exact found
          · cases fetched
  | some ended =>
      cases ended with
      | error ending => exact absurd rfl (returned ending)
      | ok _ =>
          have since : FetchedSince spec (history ++ [⟨.fetched (.ok ()), sourced.tree⟩]) :=
            ⟨history, _, [], rfl, trivial⟩
          refine ⟨⟨?_, fun _ => .fetched since⟩, fun _ => .fetched since⟩
          rw [lastTree_append]
          rfl

/-- A fetch that does not return leaves its run without attempts, and what it made is
explained only once it is left behind. -/
theorem kept_of_failed {fields : List Field} {preexisting : Bool} {ending : Ending}
    {acquired sourced worked closed : World} {attempts : List Attempt}
    {released : Except Ending (Option CleanupWarning)}
    (accepted : Spec.ofFields fields = .ok spec) (last : lastTree start history = acquired.tree)
    (found : acquired.tree.exists? spec.clonePath = .ok preexisting)
    (staged : provisioner.Staged spec host preexisting acquired sourced worked
      (some (.error ending)) attempts)
    (installs : provisioner.Installs spec host sourced attempts moments worked)
    (release : (release spec.clonePath).Leads host worked released closed) :
    moments = [] ∧ Kept spec start
      (history ++ [⟨.fetched (.error ending), sourced.tree⟩, ⟨.released released, closed.tree⟩])
      closed.tree := by
  have absent : preexisting = false := by
    cases present : preexisting with
    | false => rfl
    | true => cases staged.present present
  have none := staged.attempts_eq_nil (by simp)
  subst none
  cases installs with
  | nil same =>
      refine ⟨rfl, by rw [lastTree_append]; rfl, ?_⟩
      intro there
      rcases warned_of_there accepted release there with ⟨earlier, warning, rfl⟩
      rw [same.tree] at earlier
      rw [absent] at found
      refine .leftBehind ⟨history, rfl, ?_, earlier, fun _ => earlier, trivial⟩
      rw [last]
      exact not_isThere_of_exists? found

/-- A run of an accepted specification starts the installer only in clones that are explained,
and explains the clone that it leaves. -/
theorem kept_of_chronicle {fields : List Field} (accepted : Spec.ofFields fields = .ok spec)
    (kept : Kept spec start history before.tree)
    (chronicle : provisioner.Chronicle spec host before after moments) :
    Justified spec start history moments ∧ Kept spec start (history ++ moments) after.tree := by
  cases chronicle with
  | @refused ending closed refused same =>
      rw [same]
      exact ⟨justified_of_no_start (by simp), kept.prepared closed.tree⟩
  | @worked workspace acquired sourced worked closed fetch attempts made released taken staged
      installs release same =>
      rw [same]
      have found := exists?_of_acquire taken
      have ready := kept.prepared acquired.tree
      by_cases failed : ∃ ending, fetch = some (.error ending)
      · rcases failed with ⟨ending, rfl⟩
        rcases kept_of_failed accepted ready.last found staged installs release with ⟨rfl, left⟩
        refine ⟨justified_of_no_start (by simp [fetchMoments]), ?_⟩
        simpa [fetchMoments] using left
      · rcases ready.staged found staged fun ending equal => failed ⟨ending, equal⟩ with
          ⟨sourcedKept, explained⟩
        rcases sourcedKept.installs explained installs with ⟨justified, workedKept⟩
        have closedKept := workedKept.released accepted release
        refine ⟨?_, by simpa using closedKept⟩
        rw [justified_append, justified_append]
        refine ⟨⟨justified_of_no_start ?_, by simpa using justified⟩,
          justified_of_no_start (by simp)⟩
        cases fetch <;> simp [fetchMoments]

/-! ## Runs, one after another -/

theorem kept_of_runs {fields : List Field} {runs : List (Provisioner × Host)}
    (accepted : Spec.ofFields fields = .ok spec) (kept : Kept spec start history before.tree)
    (ran : Runs spec before runs moments after) :
    Justified spec start history moments ∧ Kept spec start (history ++ moments) after.tree := by
  induction ran generalizing history with
  | nil world => simpa [Justified] using kept
  | cons _ chronicle _ ih =>
      rcases kept_of_chronicle accepted kept chronicle with ⟨first, keptMiddle⟩
      rcases ih (keptMiddle.lingered _) with ⟨others, keptLast⟩
      refine ⟨justified_append.2
        ⟨first, justified_append.2 ⟨justified_lingerings _ _, others⟩⟩, ?_⟩
      simpa using keptLast

/-- In any sequence of runs of an accepted specification whose clone is not there at first,
each start of the installer finds a clone that is explained by what happened before. -/
theorem runs_explained {fields : List Field} (accepted : Spec.ofFields fields = .ok spec)
    (absent : ¬IsThere spec before.tree) (runs : List (Provisioner × Host)) :
    (∃ moments after, Runs spec before runs moments after) ∧
    ∀ moments after, Runs spec before runs moments after →
      ∀ earlier tool tree later, moments = earlier ++ ⟨.installing tool, tree⟩ :: later →
        Explained spec before.tree earlier := by
  refine ⟨exists_runs spec before runs, ?_⟩
  rintro moments after ran earlier tool tree later rfl
  have kept : Kept spec before.tree [] before.tree :=
    ⟨rfl, fun there => absurd there absent⟩
  exact (kept_of_runs accepted kept ran).1.explained

theorem runs_explained_sample :
    Spec.ofFields Spec.sample.fields = .ok Spec.sample ∧ ¬IsThere Spec.sample Spec.withRoot ∧
    (∃ moments after, Runs Spec.sample { tree := Spec.withRoot }
      [(sample, .quiet), (sample, .quiet)] moments after) ∧
    ∀ moments after, Runs Spec.sample { tree := Spec.withRoot }
        [(sample, .quiet), (sample, .quiet)] moments after →
      ∀ earlier tool tree later, moments = earlier ++ ⟨.installing tool, tree⟩ :: later →
        Explained Spec.sample Spec.withRoot earlier :=
  have absent := not_isThere_of_exists? Spec.exists?_withRoot
  ⟨Spec.ofFields_sample, absent, runs_explained Spec.ofFields_sample absent _⟩

end Provisioner

end Toolset
