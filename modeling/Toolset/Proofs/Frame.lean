import Toolset.Proofs.Masking
import Toolset.Proofs.Preparation
import Toolset.Proofs.Replay
import Toolset.Proofs.Unfetched

/-!
# What a run leaves alone

A run changes the tree in three places: it prepares the workspace root, its programs change what
they like, and it removes what its clone path leads to in the end.  A run whose programs keep to
the place of the clone therefore leaves all else as it was, but for the directories that were made
for the root.  The clone path leads to one and the same place from the beginning to the end, unless
the way to the root itself leads through the clone.
-/

namespace Toolset

namespace FileTree

/-! ## Under a path -/

variable {tree other : FileTree} {anchor : Anchor} {names : List String} {name : String}
  {place there : Location}

/-- A path leads to a place, whether something is there or not. A link there is not followed. -/
def LeadsTo (tree : FileTree) (path : Path) (place : Location) : Prop :=
  ∃ finding, tree.find false path = .ok finding ∧ finding.place = place

/-- A place is the one that a path leads to, or below it. -/
def IsUnder (tree : FileTree) (path : Path) (place : Location) : Prop :=
  ∃ top, tree.LeadsTo path top ∧ top <+: place

/-- A path one step down from a directory leads there, unless it is too long. -/
theorem leadsTo_concat_iff (has : tree.HasDirectory ⟨anchor, names⟩ place)
    (down : IsStepDown name) :
    tree.LeadsTo ⟨anchor, names ++ [name]⟩ there ↔
      there = place ++ [name] ∧
        ¬longestPath < (Path.toString ⟨anchor, names ++ [name]⟩).utf8ByteSize ∧
        ¬longestName < name.utf8ByteSize := by
  rcases has with ⟨mode, found⟩
  have arrives := (find_eq_ok_iff.1 found).2
  rw [LeadsTo, find, arrives.walk_concat down]
  by_cases long : longestPath < (Path.toString ⟨anchor, names ++ [name]⟩).utf8ByteSize
  · simp [long]
  by_cases longName : longestName < name.utf8ByteSize
  · simp [walk, down.1, down.2, longName]
  · rw [if_neg long, walk_last down longName]
    cases tree.get? (place ++ [name]) <;> simp [Finding.place, long, longName, eq_comm]

/-- A path one step down from a directory leads to the same place in a tree that is the same
where the way to the directory looks. -/
theorem isUnder_concat_congr (has : tree.HasDirectory ⟨anchor, names⟩ place)
    (down : IsStepDown name) (same : ∀ place, tree.LooksAt mostLinks [] names place →
      other.get? place = tree.get? place) :
    other.IsUnder ⟨anchor, names ++ [name]⟩ there ↔
      tree.IsUnder ⟨anchor, names ++ [name]⟩ there := by
  have hasToo : other.HasDirectory ⟨anchor, names⟩ place := by
    rcases has with ⟨mode, found⟩
    rcases find_eq_ok_iff.1 found with ⟨short, arrives⟩
    exact ⟨mode, find_eq_ok_iff.2 ⟨short, arrives.congr same⟩⟩
  simp only [IsUnder, leadsTo_concat_iff has down, leadsTo_concat_iff hasToo down]

end FileTree

theorem Workspace.get?_clear_of_not_isUnder {host : Host} {tree : FileTree} {path : Path}
    {place : Location} (outside : ¬tree.IsUnder path place) :
    (Workspace.clear host tree path).1.get? place = tree.get? place := by
  apply get?_clear
  intro top entry found above
  exact outside ⟨top, ⟨_, found, rfl⟩, above⟩

namespace Provisioner

open Workspace (acquire survey prepare clear)

variable {provisioner : Provisioner} {spec : Spec} {host : Host} {before after : World}

/-! ## The trees of a run -/

/-- The tree in which a run acquires its workspace: its root is prepared. -/
def acquiredTree (spec : Spec) (before : World) : FileTree := (prepare before.tree spec.root).1

/-- The tree in which a run releases its workspace: some calls were made. -/
def releasedTree (spec : Spec) (host : Host) (before : World) (calls : List Call) : FileTree :=
  host.replay before.calls.length (acquiredTree spec before) (calls.map Call.start)

theorem tree_survey (tree : FileTree) (spec : Spec) :
    (survey tree spec).1 = (prepare tree spec.root).1 := by
  rw [survey]
  rcases prepare tree spec.root with ⟨prepared, ended⟩
  cases ended <;> rfl

/-- Nothing but the preparation of its root changes the tree before a workspace is acquired. -/
theorem tree_of_acquired {acquired : World} {outcome : Except Ending Workspace}
    (acquires : Workspace.Acquired spec before acquired outcome) :
    acquired.tree = acquiredTree spec before := by
  rw [acquires.tree, tree_survey, acquiredTree]

theorem survey_of_prepare {tree : FileTree} {ending : Ending}
    (failed : (prepare tree spec.root).2 = .error ending) :
    (survey tree spec).2 = .error ending := by
  rw [survey]
  generalize prepare tree spec.root = prepared at failed ⊢
  rcases prepared with ⟨_, ended⟩
  cases failed
  rfl

/-- What a run makes of the tree. -/
inductive Reshapes (spec : Spec) (host : Host) (before after : World) : List Call → Prop where
  /-- Its workspace is not acquired. -/
  | refused {ending : Ending} : (survey before.tree spec).2 = .error ending →
      after.tree = acquiredTree spec before → Reshapes spec host before after []
  /-- Programs are started, and the workspace is released. -/
  | released {preexisting : Bool} {calls : List Call} :
      (survey before.tree spec).2 = .ok preexisting →
      after.tree = (clear host (releasedTree spec host before calls) spec.clonePath).1 →
      Reshapes spec host before after calls

/-- The calls of a run and the release of its workspace are all that reshapes the tree. -/
theorem provision_reshapes {outcome : Except Ending Report}
    (ran : (provisioner.provision spec).Leads host before outcome after) :
    ∃ calls, after.calls = before.calls ++ calls ∧ Reshapes spec host before after calls := by
  cases provision_went ran with
  | refused refused conclude =>
      rcases conclude_leads conclude with ⟨told, concluded⟩
      have acquires := acquired_of_opened refused
      refine ⟨[], (added_of_refused refused concluded).calls, .refused acquires.survey_eq ?_⟩
      rw [concluded.tree, tree_of_acquired acquires]
  | @worked workspace opened worked closed _ released taken work release conclude =>
      have acquires := acquired_of_opened taken
      rcases acquires.workspace_eq with ⟨preexisting, surveyed, rfl⟩
      rcases provisioner.replays_work spec _ _ _ _ work with ⟨calls, replayed⟩
      rcases conclude_leads conclude with ⟨told, concluded⟩
      have cleared := Workspace.release_clears release
      have result := cleared.result
      have openedCalls : opened.calls = before.calls := by simpa using acquires.added_of_ok.calls
      have workedTree : worked.tree = releasedTree spec host before calls := by
        rw [replayed.tree, openedCalls, tree_of_acquired acquires, releasedTree]
      refine ⟨calls, ?_, .released surveyed ?_⟩
      · rw [concluded.added.calls, cleared.added.calls, replayed.calls, openedCalls,
          List.append_nil, List.append_nil]
      · rw [concluded.tree, ← workedTree, result]

/-! ## The frame of a run -/

/-- The calls of a run change nothing outside of the place that its clone path leads to when
the workspace is acquired. -/
def KeepsToClone (spec : Spec) (host : Host) (before : World) (calls : List Call) : Prop :=
  host.Spares (fun place => ¬(acquiredTree spec before).IsUnder spec.clonePath place)
    before.calls.length (acquiredTree spec before) (calls.map Call.start)

/-- What a run that makes some calls leaves alone. -/
structure Framed (spec : Spec) (host : Host) (before after : World) (calls : List Call) :
    Prop where
  /-- A root that is a directory is left as it is, and all else. -/
  existing : before.tree.isDirectory? spec.root = .ok true →
    acquiredTree spec before = before.tree
  /-- Before the workspace is acquired nothing changes but for directories that are made where
  the root or a path above it leads, and for a directory to which the root leads only since. -/
  prepared : ∀ place, (acquiredTree spec before).get? place = before.tree.get? place ∨
    (before.tree.get? place = none ∧ ∃ above, above <+: spec.root.names ∧
      (acquiredTree spec before).HasDirectory ⟨spec.root.anchor, above⟩ place) ∨
    before.tree.isDirectory? spec.root = .ok false ∧
      (∃ mode, before.tree.get? place = some (.directory mode)) ∧
      (acquiredTree spec before).HasDirectory spec.root place
  /-- If the root cannot be prepared, no program is started, and what was there stays. -/
  refused : ∀ ending, (prepare before.tree spec.root).2 = .error ending →
    calls = [] ∧ after.tree = acquiredTree spec before ∧
      ∀ place entry, before.tree.get? place = some entry → after.tree.get? place = some entry
  /-- Otherwise the clone path leads one step down from the directory that the root leads to. -/
  below : (prepare before.tree spec.root).2 = .ok () →
    ∃ root, (acquiredTree spec before).HasDirectory spec.root root ∧
      ∀ place, (acquiredTree spec before).IsUnder spec.clonePath place →
        root ++ [spec.cloneName] <+: place
  /-- What is outside of the clone when the workspace is acquired, and when it is released,
  stays, however the run ends. -/
  outside : KeepsToClone spec host before calls →
    ∀ place, ¬(acquiredTree spec before).IsUnder spec.clonePath place →
      ¬(releasedTree spec host before calls).IsUnder spec.clonePath place →
      after.tree.get? place = (acquiredTree spec before).get? place
  /-- The clone path leads to the same place then, unless the way to the root looks there. -/
  direct : KeepsToClone spec host before calls →
    (∀ place, (acquiredTree spec before).LooksAt FileTree.mostLinks [] spec.root.names place →
      ¬(acquiredTree spec before).IsUnder spec.clonePath place) →
    ∀ place, (releasedTree spec host before calls).IsUnder spec.clonePath place ↔
      (acquiredTree spec before).IsUnder spec.clonePath place

theorem prepare_of_survey {tree : FileTree} {preexisting : Bool}
    (surveyed : (survey tree spec).2 = .ok preexisting) : (prepare tree spec.root).2 = .ok () := by
  cases ended : (prepare tree spec.root).2 with
  | ok _ => rfl
  | error ending =>
      rw [survey_of_prepare ended] at surveyed
      cases surveyed

theorem framed_of_reshapes {fields : List Field} {calls : List Call}
    (accepted : Spec.ofFields fields = .ok spec)
    (reshapes : Reshapes spec host before after calls) : Framed spec host before after calls := by
  have checked := Spec.accepted_of_ofFields accepted
  have prepares := Workspace.prepares before.tree spec.root
  change Workspace.Prepares before.tree spec.root (acquiredTree spec before) _ at prepares
  have rootOf (prepared : (prepare before.tree spec.root).2 = .ok ()) :
      ∃ root, (acquiredTree spec before).HasDirectory spec.root root := by
    rw [prepared] at prepares
    exact prepares.hasDirectory
  exact {
    existing := by
      intro there
      rw [acquiredTree, prepare, there]
    prepared := by
      intro place
      refine (prepares.same_or_made place).imp_right (Or.imp_right ?_)
      rintro ⟨unseen, there, found⟩
      exact ⟨unseen, there, _, found⟩
    refused := by
      intro ending failed
      cases reshapes with
      | refused _ same =>
          rw [failed] at prepares
          refine ⟨rfl, same, ?_⟩
          rw [same]
          exact fun place entry => prepares.kept_of_failed
      | released surveyed _ =>
          rw [prepare_of_survey surveyed] at failed
          cases failed
    below := by
      intro prepared
      rcases rootOf prepared with ⟨root, has⟩
      refine ⟨root, has, ?_⟩
      rw [checked.clonePath_eq]
      rintro place ⟨top, leads, above⟩
      rw [← ((FileTree.leadsTo_concat_iff has checked.isStepDown).1 leads).1]
      exact above
    outside := by
      intro keeps place outside outsideToo
      cases reshapes with
      | refused _ same => rw [same]
      | released _ same =>
          rw [same, Workspace.get?_clear_of_not_isUnder outsideToo]
          exact Host.get?_replay keeps outside
    direct := by
      intro keeps apart place
      cases reshapes with
      | refused => exact Iff.rfl
      | released surveyed _ =>
          rcases rootOf (prepare_of_survey surveyed) with ⟨root, has⟩
          rw [KeepsToClone, checked.clonePath_eq] at keeps
          rw [checked.clonePath_eq] at apart ⊢
          refine FileTree.isUnder_concat_congr has checked.isStepDown fun place looks => ?_
          exact Host.get?_replay keeps (apart place looks) }

/-- If the root is reached by steps down alone, all that is outside of the clone stays. -/
theorem Framed.same_of_plain {calls : List Call} (framed : Framed spec host before after calls)
    (keeps : KeepsToClone spec host before calls)
    (plain : (acquiredTree spec before).IsPlain [] spec.root.names) (place : Location)
    (outside : ¬(acquiredTree spec before).IsUnder spec.clonePath place) :
    after.tree.get? place = (acquiredTree spec before).get? place := by
  cases ended : (prepare before.tree spec.root).2 with
  | error ending => rw [(framed.refused ending ended).2.1]
  | ok _ =>
      rcases framed.below ended with ⟨root, ⟨mode, found⟩, below⟩
      have rootEq : root = spec.root.names := plain.place_eq (FileTree.find_eq_ok_iff.1 found).2
      apply framed.outside keeps place outside
      rw [framed.direct keeps ?_ place]
      · exact outside
      -- what is looked at lies above the root, and the clone below it
      · intro there looks under
        have above : there <+: spec.root.names := plain.prefix_of_looksAt looks
        have shorter := ((below there under).trans above).length_le
        rw [rootEq, List.length_append, List.length_singleton] at shorter
        omega

theorem spares_cloning (number : Nat) (starts : List Start) :
    (busy (fun _ => [Spec.cloning]) 128).Spares (fun place => ¬["work", "tools"] <+: place) number
      Spec.withRoot starts := by
  have again (number : Nat) (start : Start) :
      (busy (fun _ => [Spec.cloning]) 128).treeAfter number start Spec.withClone =
        Spec.withClone := by
    simp [Host.treeAfter, busy, Behaviour.settle, FileTree.applyAll, Spec.apply_cloning_withClone]
  cases starts with
  | nil => trivial
  | cons start later =>
      simp only [Host.Spares, Host.treeAfter, busy, Behaviour.settle, Spec.applyAll_cloning]
      refine ⟨fun place outside => FileTree.get?_put_of_ne ?_, Host.spares_of_stays again _ _ _⟩
      rintro rfl
      exact outside List.prefix_rfl

theorem isUnder_withRoot_iff {place : Location} :
    Spec.withRoot.IsUnder Spec.sample.clonePath place ↔ ["work", "tools"] <+: place := by
  simp [FileTree.IsUnder, FileTree.LeadsTo, Spec.find_withRoot, FileTree.Finding.place]

/-- What every run of an accepted specification leaves alone, however it ends. -/
theorem provision_framed {fields : List Field} (accepted : Spec.ofFields fields = .ok spec)
    (provisioner : Provisioner) (host : Host) (before : World) :
    ∃ outcome after calls, (provisioner.provision spec).Leads host before outcome after ∧
      after.calls = before.calls ++ calls ∧ Framed spec host before after calls := by
  rcases (provisioner.provision spec).exists_leads host before with ⟨outcome, after, ran⟩
  rcases provision_reshapes ran with ⟨calls, added, reshapes⟩
  exact ⟨outcome, after, calls, ran, added, framed_of_reshapes accepted reshapes⟩

/-- A run of the sample whose git makes the clone and fails, and which cannot remove it, leaves
all outside of the clone as it was. -/
theorem provision_framed_leftBehind :
    let host := busy (fun _ => [Spec.cloning]) 128
    Spec.ofFields Spec.sample.fields = .ok Spec.sample ∧
    ∃ outcome after calls,
      (sample.provision Spec.sample).Leads host { tree := Spec.withRoot } outcome after ∧
      KeepsToClone Spec.sample host { tree := Spec.withRoot } calls ∧
      Framed Spec.sample host { tree := Spec.withRoot } after calls ∧
      after.tree.get? ["work", "tools"] = some (.directory 0o755) ∧
      ∀ place, ¬["work", "tools"] <+: place →
        after.tree.get? place = Spec.withRoot.get? place := by
  intro host
  refine ⟨Spec.ofFields_sample, ?_⟩
  rcases provision_framed Spec.ofFields_sample sample host { tree := Spec.withRoot } with
    ⟨outcome, after, calls, ran, _, framed⟩
  have same : acquiredTree Spec.sample { tree := Spec.withRoot } = Spec.withRoot := by
    rw [acquiredTree, ← tree_survey, Spec.survey_sample (by decide)]
  have keeps : KeepsToClone Spec.sample host { tree := Spec.withRoot } calls := by
    rw [KeepsToClone, same]
    simp only [isUnder_withRoot_iff]
    exact spares_cloning _ _
  have plain : Spec.withRoot.IsPlain [] Spec.sample.root.names := {
    downward := by simp [Spec.sample, FileTree.IsStepDown]
    noLink := by
      intro above target _
      rw [FileTree.get?, Spec.withRoot, List.lookup_cons, List.lookup_nil]
      split
      · simp
      · split <;> simp }
  have made : after.tree.get? ["work", "tools"] = some (.directory 0o755) := by
    rw [(leftBehind_of_failed ran).1]
    decide
  refine ⟨outcome, after, calls, ran, keeps, framed, made, fun place apart => ?_⟩
  have stays := framed.same_of_plain keeps (by rwa [same]) place
  rw [same, isUnder_withRoot_iff] at stays
  exact stays apart

end Provisioner

/-! ## A way through the clone -/

namespace Spec

/-- A tree in which a directory of the clone's name is elsewhere as well. -/
def withFar : FileTree :=
  ⟨[(["work"], .directory 0o755), (["work", "tools"], .directory 0o755),
    (["far"], .directory 0o755), (["far", "inner"], .directory 0o755),
    (["far", "tools"], .directory 0o755)]⟩

/-- The changes that put a link in the place of the clone. -/
def straying : List Change :=
  [.remove ⟨.root, ["work", "tools"]⟩, .makeLink ⟨.root, ["work", "tools"]⟩ "../far/inner"]

/-- The tree after these changes. -/
def strayed : FileTree :=
  (withFar.prune ["work", "tools"]).put ["work", "tools"] (.link "../far/inner")

theorem applyAll_straying : withFar.applyAll straying = (strayed, none) := by
  have clone : withFar.find false ⟨.root, ["work", "tools"]⟩ =
      .ok (.found ["work", "tools"] (.directory 0o755)) := by
    refine FileTree.find_eq_ok_iff.2 ⟨by decide, ?_⟩
    refine .down (by decide) (by decide) rfl ?_
    exact .down (by decide) (by decide) rfl (.stop rfl)
  have free : (withFar.prune ["work", "tools"]).find false ⟨.root, ["work", "tools"]⟩ =
      .ok (.free ["work", "tools"]) := by
    refine FileTree.find_eq_ok_iff.2 ⟨by decide, ?_⟩
    refine .down (by decide) (by decide) rfl ?_
    exact .free (by decide) (by decide) rfl
  have linked : (withFar.prune ["work", "tools"]).makeLink ⟨.root, ["work", "tools"]⟩
      "../far/inner" = .ok strayed := by
    rw [FileTree.makeLink]
    simp only [free]
    rfl
  simp [straying, FileTree.applyAll, FileTree.apply, FileTree.remove, clone, linked,
    FileTree.attempt]

theorem isDirectory?_withFar : withFar.isDirectory? roundabout.root = .ok true := by
  have found : withFar.find true roundabout.root = .ok (.found ["work"] (.directory 0o755)) := by
    refine FileTree.find_eq_ok_iff.2 ⟨by decide, ?_⟩
    refine .down (by decide) (by decide) rfl ?_
    exact .down (by decide) (by decide) rfl (.up (.stop rfl))
  rw [FileTree.isDirectory?, FileTree.test, if_neg (by decide), found]
  rfl

theorem find_withFar (follow : Bool) : withFar.find follow roundabout.clonePath =
    .ok (.found ["work", "tools"] (.directory 0o755)) := by
  refine FileTree.find_eq_ok_iff.2 ⟨by decide, ?_⟩
  rw [clonePath_roundabout]
  refine .down (by decide) (by decide) rfl ?_
  refine .down (by decide) (by decide) rfl (.up ?_)
  exact .down (by decide) (by decide) rfl (.stop rfl)

theorem targetNames_far : FileTree.targetNames "../far/inner" = ["..", "far", "inner"] := by
  rw [FileTree.targetNames_eq (by decide) (by decide)]
  rfl

/-- By way of the link, the clone path leads to the directory elsewhere. -/
theorem find_strayed (follow : Bool) : strayed.find follow roundabout.clonePath =
    .ok (.found ["far", "tools"] (.directory 0o755)) := by
  refine FileTree.find_eq_ok_iff.2 ⟨by decide, ?_⟩
  rw [clonePath_roundabout]
  refine .down (by decide) (by decide) rfl ?_
  refine .along (by decide) (by decide) rfl (.inr (by decide)) ?_
  rw [targetNames_far]
  change strayed.Arrives follow 39 ["work"] ["..", "far", "inner", "..", "tools"] _
  refine .up (.down (by decide) (by decide) rfl ?_)
  refine .down (by decide) (by decide) rfl (.up ?_)
  exact .down (by decide) (by decide) rfl (.stop rfl)

theorem isUnder_withFar_iff {place : Location} :
    withFar.IsUnder roundabout.clonePath place ↔ ["work", "tools"] <+: place := by
  simp [FileTree.IsUnder, FileTree.LeadsTo, find_withFar, FileTree.Finding.place]

theorem get?_strayed {place : Location} (outside : ¬["work", "tools"] <+: place) :
    strayed.get? place = withFar.get? place := by
  rw [strayed, FileTree.get?_put_of_ne, FileTree.get?_prune_of_outside outside]
  rintro rfl
  exact outside List.prefix_rfl

/-- By way of the link, a release removes the directory elsewhere. -/
theorem clear_strayed {host : Host} (removes : host.removalError = none) :
    (Workspace.clear host strayed roundabout.clonePath).1 = strayed.prune ["far", "tools"] := by
  have there : strayed.exists? roundabout.clonePath = .ok true := by
    rw [FileTree.exists?, FileTree.test, if_neg (by decide), find_strayed]
  have removed : strayed.removeTree roundabout.clonePath =
      .ok (strayed.prune ["far", "tools"]) := by
    simp only [FileTree.removeTree, find_strayed]
  simp only [Workspace.clear, there, Workspace.removal, removes, removed, FileTree.attempt]

end Spec

namespace Provisioner

variable {provisioner : Provisioner} {spec : Spec} {host : Host} {before after : World}

theorem calls_ne_nil_of_found {outcome : Except Ending Report} {calls : List Call}
    (ran : (provisioner.provision spec).Leads host before outcome after)
    (added : after.calls = before.calls ++ calls) (quiet : provisioner.sink.IsQuiet)
    (some : spec.tools ≠ []) (found : (Workspace.survey before.tree spec).2 = .ok true) :
    calls ≠ [] := by
  cases provision_leads ran with
  | refused refused _ =>
      have ended := (acquired_of_opened refused).survey_eq
      rw [found] at ended
      cases ended
  | @worked workspace _ _ _ fetching attempts _ _ _ _ taken _ whole release concluded =>
      rcases (acquired_of_opened taken).workspace_eq with ⟨preexisting, answered, rfl⟩
      rw [found] at answered
      cases answered
      rcases whole.staged with ⟨_, fetch, staged, _⟩
      have unfetched := staged.present rfl
      subst unfetched
      have begun := staged.begun quiet some (by simp)
      rcases added_of_worked taken whole release concluded with ⟨_, _, all⟩
      rw [all.calls] at added
      rw [← List.append_cancel_left added]
      simp [begun]

/-- A host whose programs put a link in the place of the clone if the clone is there. -/
def straying : Host where
  program := fun _ _ tree => .runs {
    changes := if tree.get? ["work", "tools"] = some (.directory 0o755) then Spec.straying else [] }

theorem treeAfter_withFar (number : Nat) (start : Start) :
    straying.treeAfter number start Spec.withFar = Spec.strayed := by
  have there : Spec.withFar.get? ["work", "tools"] = some (.directory 0o755) := by decide
  simp [Host.treeAfter, straying, Behaviour.settle, there, Spec.applyAll_straying]

theorem treeAfter_strayed (number : Nat) (start : Start) :
    straying.treeAfter number start Spec.strayed = Spec.strayed := by
  have there : Spec.strayed.get? ["work", "tools"] = some (.link "../far/inner") := by decide
  simp [Host.treeAfter, straying, Behaviour.settle, there, FileTree.applyAll]

theorem acquiredTree_roundabout :
    acquiredTree Spec.roundabout { tree := Spec.withFar } = Spec.withFar := by
  rw [acquiredTree, Workspace.prepare, Spec.isDirectory?_withFar]

theorem keepsToClone_straying (calls : List Call) :
    KeepsToClone Spec.roundabout straying { tree := Spec.withFar } calls := by
  rw [KeepsToClone, acquiredTree_roundabout]
  cases calls.map Call.start with
  | nil => trivial
  | cons start rest =>
      rw [Host.Spares, treeAfter_withFar]
      refine ⟨fun place outside => Spec.get?_strayed ?_, ?_⟩
      · rwa [← Spec.isUnder_withFar_iff]
      · exact Host.spares_of_stays treeAfter_strayed _ _ rest

theorem releasedTree_straying {calls : List Call} (some : calls ≠ []) :
    releasedTree Spec.roundabout straying { tree := Spec.withFar } calls = Spec.strayed := by
  have stays (number : Nat) (starts : List Start) :
      straying.replay number Spec.strayed starts = Spec.strayed := by
    induction starts generalizing number with
    | nil => rfl
    | cons start rest ih => rw [Host.replay, treeAfter_strayed, ih]
  rw [releasedTree, acquiredTree_roundabout]
  cases calls with
  | nil => exact absurd rfl some
  | cons call rest => rw [List.map_cons, Host.replay, treeAfter_withFar, stays]

/-- A root that is written by way of the clone is found elsewhere once a program has put a link
in the place of the clone, so the release removes a directory that no program changed. -/
theorem provision_strays :
    Spec.ofFields Spec.roundabout.fields = .ok Spec.roundabout ∧
    Spec.withFar.isDirectory? Spec.roundabout.root = .ok true ∧
    ¬Spec.withFar.IsUnder Spec.roundabout.clonePath ["far", "tools"] ∧
    Spec.withFar.get? ["far", "tools"] = some (.directory 0o755) ∧
    ∃ outcome after calls,
      (sample.provision Spec.roundabout).Leads straying { tree := Spec.withFar } outcome after ∧
      after.calls = calls ∧
      KeepsToClone Spec.roundabout straying { tree := Spec.withFar } calls ∧
      after.tree.get? ["far", "tools"] = none := by
  have isThere : Spec.withFar.get? ["far", "tools"] = some (.directory 0o755) := by decide
  have apart : ¬Spec.withFar.IsUnder Spec.roundabout.clonePath ["far", "tools"] := by
    rw [Spec.isUnder_withFar_iff]
    decide
  refine ⟨Spec.ofFields_roundabout, Spec.isDirectory?_withFar, apart, isThere, ?_⟩
  rcases (sample.provision Spec.roundabout).exists_leads straying { tree := Spec.withFar } with
    ⟨outcome, after, ran⟩
  rcases provision_reshapes ran with ⟨calls, added, reshapes⟩
  have surveyed : (Workspace.survey Spec.withFar Spec.roundabout).2 = .ok true := by
    have there : Spec.withFar.exists? Spec.roundabout.clonePath = .ok true := by
      rw [FileTree.exists?, FileTree.test, if_neg (by decide), Spec.find_withFar]
    rw [Workspace.survey, Workspace.prepare, Spec.isDirectory?_withFar]
    simp only [there]
    rfl
  have some : calls ≠ [] :=
    calls_ne_nil_of_found ran added Sink.isQuiet_silent (by simp [Spec.roundabout, Spec.sample])
      surveyed
  refine ⟨outcome, after, calls, ran, by simpa using added, keepsToClone_straying calls, ?_⟩
  cases reshapes with
  | refused refused _ =>
      rw [surveyed] at refused
      cases refused
  | released _ same =>
      rw [same, releasedTree_straying some, Spec.clear_strayed rfl]
      exact FileTree.get?_prune_of_under List.prefix_rfl (by simp)

end Provisioner

end Toolset
