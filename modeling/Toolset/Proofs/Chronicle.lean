import Toolset.Proofs.Run

/-!
# Chronicles of runs

A chronicle lists what happens in a run as far as its clone is concerned: the workspace
root is prepared, a fetch is over, the installer starts and its process changes the tree,
the workspace is released.  Each moment keeps the tree as it is then.  The changes of a
process count one by one, so that a chronicle also shows what is there between two of them.
Chronicles of several runs, one after another, make one; between two of them come the
changes of the processes that the runs so far left alone.
-/

namespace Toolset

/-! ## The trees that a process leads through -/

/-- The trees after each of some changes, up to the first that is refused. -/
def FileTree.stages (tree : FileTree) : List Change → List FileTree
  | [] => []
  | change :: rest =>
      match tree.apply change with
      | (after, none) => after :: after.stages rest
      | (after, some _) => [after]

/-- The trees that a process leads through, by what comes of its start. -/
def Behaviour.stages (tree : FileTree) : Behaviour → List FileTree
  | .runs process => tree.stages process.changes
  | _ => []

/-! ## Moments -/

/-- What happens in a run, as far as its clone is concerned. -/
inductive Happening where
  /-- The workspace root is prepared. -/
  | prepared
  /-- A fetch is over. -/
  | fetched (ended : Except Ending Unit)
  /-- The installer starts for a tool. -/
  | installing (tool : String)
  /-- A change is made while a process of the installer runs. -/
  | changed
  /-- The workspace is released. -/
  | released (outcome : Except Ending (Option CleanupWarning))
  /-- A change is made between two runs, by one of the processes that were left alone. -/
  | lingered (left : List Nat)

/-- What happens, and the tree then. -/
structure Moment where
  happening : Happening
  tree : FileTree

/-- The tree after some moments. -/
def lastTree : FileTree → List Moment → FileTree
  | tree, [] => tree
  | _, moment :: rest => lastTree moment.tree rest

theorem lastTree_append (tree : FileTree) (first second : List Moment) :
    lastTree tree (first ++ second) = lastTree (lastTree tree first) second := by
  induction first generalizing tree with
  | nil => rfl
  | cons moment rest ih => exact ih moment.tree

/-- The moments in which a process makes its changes. -/
def changes (host : Host) (before : World) (start : Start) : List Moment :=
  ((host.program before.calls.length start before.tree).stages before.tree).map (⟨.changed, ·⟩)

/-- The moments in which what was left alone makes its changes. -/
def lingerings (world : World) (changes : List Change) : List Moment :=
  if alive world.deeds = [] then []
  else (world.tree.stages changes).map (⟨.lingered (alive world.deeds), ·⟩)

theorem lastTree_stages (happening : Happening) (tree : FileTree) (made : List Change) :
    lastTree tree ((tree.stages made).map (⟨happening, ·⟩)) = (tree.applyAll made).1 := by
  induction made generalizing tree with
  | nil => rfl
  | cons change rest ih =>
      rw [FileTree.stages, FileTree.applyAll]
      cases applied : tree.apply change with
      | mk after refused =>
          cases refused with
          | none => exact ih after
          | some error => rfl

theorem lastTree_changes (host : Host) (before : World) (start : Start) :
    lastTree before.tree (changes host before start) =
      ((host.program before.calls.length start before.tree).settle before.tree).1 := by
  rw [changes]
  cases host.program before.calls.length start before.tree with
  | refused interruption => rfl
  | nullCharacter => rfl
  | runs process =>
      rw [Behaviour.stages, lastTree_stages, Behaviour.settle]
      cases before.tree.applyAll process.changes with
      | mk after refused => cases refused <;> rfl

@[simp] theorem World.linger_nil (world : World) : world.linger [] = world := by
  rw [World.linger]
  split <;> rfl

@[simp] theorem World.deeds_linger (world : World) (changes : List Change) :
    (world.linger changes).deeds = world.deeds := by
  rw [World.linger]
  split <;> rfl

@[simp] theorem lingerings_nil (world : World) : lingerings world [] = [] := by
  rw [lingerings]
  split <;> rfl

namespace Provisioner

variable {provisioner : Provisioner} {spec : Spec} {host : Host} {before middle after : World}

open Workspace (acquire release)

/-- The moments of attempts, one after another: each start of the installer, and the changes
that its process makes. -/
inductive Installs (provisioner : Provisioner) (spec : Spec) (host : Host) :
    World → List Attempt → List Moment → World → Prop where
  | nil {before after : World} :
      SameDeeds before after → Installs provisioner spec host before [] [] after
  | cons {before opened closed after : World} {attempt : Attempt} {rest : List Attempt}
      {later : List Moment} :
      SameDeeds before opened → provisioner.Attempted spec host opened closed attempt →
      Installs provisioner spec host closed rest later after →
      Installs provisioner spec host before (attempt :: rest)
        (⟨.installing attempt.tool, opened.tree⟩ ::
          (changes host opened attempt.call.start ++ later)) after

theorem exists_installs {attempts : List Attempt}
    (runs : provisioner.Attempts spec host before attempts after) :
    ∃ moments, provisioner.Installs spec host before attempts moments after := by
  induction runs with
  | nil same => exact ⟨[], .nil same⟩
  | cons same attempted _ ih =>
      rcases ih with ⟨later, installs⟩
      exact ⟨_, .cons same attempted installs⟩

/-- What an attempt leaves is what the changes of its process lead to. -/
theorem lastTree_of_attempted {attempt : Attempt}
    (attempted : provisioner.Attempted spec host before after attempt) :
    lastTree before.tree (changes host before attempt.call.start) = after.tree := by
  rcases Installer.run_leads attempted.ran with ⟨behaviour, duration, called, _⟩
  rw [lastTree_changes, attempted.start, called.settled]

/-- The moment of a fetch, if there was one. -/
def fetchMoments (tree : FileTree) : Option (Except Ending Unit) → List Moment
  | none => []
  | some ended => [⟨.fetched ended, tree⟩]

/-- The moments of a run: it may end with the preparation of its workspace; otherwise the
work follows, and the release. -/
inductive Chronicle (provisioner : Provisioner) (spec : Spec) (host : Host)
    (before after : World) : List Moment → Prop where
  | refused {ending : Ending} {closed : World} :
      (acquire spec).Leads host (opened spec host before) (.error ending) closed →
      after.tree = closed.tree →
      Chronicle provisioner spec host before after [⟨.prepared, closed.tree⟩]
  | worked {workspace : Workspace} {acquired sourced worked closed : World}
      {fetch : Option (Except Ending Unit)} {attempts : List Attempt} {moments : List Moment}
      {released : Except Ending (Option CleanupWarning)} :
      (acquire spec).Leads host (opened spec host before) (.ok workspace) acquired →
      provisioner.Staged spec host workspace.preexisting acquired sourced worked fetch attempts →
      provisioner.Installs spec host sourced attempts moments worked →
      (release spec.clonePath).Leads host worked released closed → after.tree = closed.tree →
      Chronicle provisioner spec host before after
        (⟨.prepared, acquired.tree⟩ :: fetchMoments sourced.tree fetch ++ moments ++
          [⟨.released released, closed.tree⟩])

theorem exists_chronicle {outcome : Except Ending Report}
    (ran : (provisioner.provision spec).Leads host before outcome after) :
    ∃ moments, provisioner.Chronicle spec host before after moments := by
  cases provision_went ran with
  | refused refused conclude =>
      rcases conclude_leads conclude with ⟨_, concluded⟩
      exact ⟨_, .refused refused concluded.tree⟩
  | worked taken work release conclude =>
      rcases (Workspace.acquire_leads taken).workspace_eq with ⟨preexisting, _, rfl⟩
      rcases work_staged rfl work with ⟨sourced, fetch, attempts, staged⟩
      rcases exists_installs staged.runs with ⟨moments, installs⟩
      rcases conclude_leads conclude with ⟨_, concluded⟩
      exact ⟨_, .worked taken staged installs release concluded.tree⟩

/-- Runs of one specification, one after another, each by a provisioner and under a host of
its own, and their moments. -/
inductive Runs (spec : Spec) : World → List (Provisioner × Host) → List Moment → World → Prop where
  | nil (world : World) : Runs spec world [] [] world
  | cons {before middle after : World} {provisioner : Provisioner} {host : Host}
      {outcome : Except Ending Report} {runs : List (Provisioner × Host)}
      {moments later : List Moment} :
      (provisioner.provision spec).Leads host before outcome middle →
      provisioner.Chronicle spec host before middle moments →
      Runs spec (middle.linger host.lingering) runs later after →
      Runs spec before ((provisioner, host) :: runs)
        (moments ++ (lingerings middle host.lingering ++ later)) after

/-- However many runs there are, they lead somewhere and have their moments. -/
theorem exists_runs (spec : Spec) (before : World) (runs : List (Provisioner × Host)) :
    ∃ moments after, Runs spec before runs moments after := by
  induction runs generalizing before with
  | nil => exact ⟨[], before, .nil before⟩
  | cons run rest ih =>
      rcases run with ⟨provisioner, host⟩
      rcases (provisioner.provision spec).exists_leads host before with ⟨outcome, middle, ran⟩
      rcases exists_chronicle ran with ⟨moments, chronicle⟩
      rcases ih (middle.linger host.lingering) with ⟨later, after, others⟩
      exact ⟨_, after, .cons ran chronicle others⟩

end Provisioner

end Toolset
