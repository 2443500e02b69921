import Toolset.Proofs.History
import Toolset.Workspace

/-!
# Acquiring and releasing a workspace

Acquiring a workspace starts no program: it looks at the tree, makes the workspace
root if it has to, and either takes the workspace or ends without it.  Work in a
workspace that was acquired ends with its release, whatever the work ended with.
The release removes the directory of the clone, finds that there is none, or tells
why it is left behind.
-/

namespace Toolset.Workspace

variable {α : Type} {spec : Spec} {host : Host} {before after : World}

/-- What acquiring a workspace comes to, by what the survey of the tree found. -/
structure Acquired (spec : Spec) (before after : World) (outcome : Except Ending Workspace) :
    Prop where
  tree : after.tree = (survey before.tree spec).1
  outcome : outcome = (survey before.tree spec).2.map fun preexisting =>
    { path := spec.clonePath, preexisting }
  added : Added before after []
    (match (survey before.tree spec).2 with
      | .error _ => []
      | .ok _ => [.acquired spec.clonePath]) []

/-- A workspace is acquired if the survey finds out whether its clone is there. -/
theorem acquire_leads {outcome : Except Ending Workspace}
    (ran : (acquire spec).Leads host before outcome after) :
    Acquired spec before after outcome := by
  rw [acquire, Act.leads_get_bind] at ran
  cases found : survey before.tree spec with
  | mk tree ended =>
      simp only [found, Act.leads_modify_bind] at ran
      cases ended with
      | error ending =>
          simp only [Act.resume, Act.leads_throw_bind] at ran
          rcases ran with ⟨rfl, rfl⟩
          exact ⟨by rw [found], by rw [found]; rfl, by
            rw [found]
            exact ⟨by simp, by simp, by simp, List.prefix_rfl⟩⟩
      | ok preexisting =>
          simp only [Act.resume, pure_bind, Act.leads_log_bind, Act.leads_perform_bind] at ran
          rcases Act.leads_pure.1 ran with ⟨rfl, rfl⟩
          have same := SameDeeds.logged { before with tree } host
            (acquiredRecord spec.clonePath preexisting)
          exact ⟨by rw [found]; exact same.tree, by rw [found]; rfl, by
            rw [found]
            exact ⟨by simp [same.calls], by simp [same.deeds], by simp, same.log⟩⟩

namespace Acquired

theorem workspace_eq {workspace : Workspace}
    (acquired : Acquired spec before after (.ok workspace)) :
    ∃ preexisting, (survey before.tree spec).2 = .ok preexisting ∧
      workspace = { path := spec.clonePath, preexisting } := by
  have equal := acquired.outcome
  cases found : (survey before.tree spec).2 with
  | error ending => simp [found, Except.map] at equal
  | ok preexisting =>
      rw [found] at equal
      cases equal
      exact ⟨preexisting, rfl, rfl⟩

theorem added_of_ok {workspace : Workspace}
    (acquired : Acquired spec before after (.ok workspace)) :
    Added before after [] [.acquired spec.clonePath] [] := by
  rcases acquired.workspace_eq with ⟨preexisting, found, _⟩
  have added := acquired.added
  rw [found] at added
  exact added

theorem survey_eq {ending : Ending} (acquired : Acquired spec before after (.error ending)) :
    (survey before.tree spec).2 = .error ending := by
  have equal := acquired.outcome
  cases found : (survey before.tree spec).2 with
  | error other =>
      rw [found] at equal
      cases equal
      rfl
  | ok preexisting => simp [found, Except.map] at equal

theorem added_of_error {ending : Ending}
    (acquired : Acquired spec before after (.error ending)) : Added before after [] [] [] := by
  have added := acquired.added
  rw [acquired.survey_eq] at added
  exact added

end Acquired

theorem workspace_of_prepare {tree after : FileTree} {root : Path} {failure : Failure}
    {cleanup : Option CleanupWarning}
    (prepared : prepare tree root = (after, .error (.failed failure cleanup))) :
    ∃ text, failure = .workspace text := by
  rw [prepare] at prepared
  split at prepared
  · cases prepared
  · cases prepared
  · split at prepared
    · cases prepared
    · split at prepared
      · cases prepared
      · cases prepared
        exact ⟨_, rfl⟩

/-- A workspace that is not acquired fails the run only because its root could not be
prepared. -/
theorem workspace_of_survey {tree : FileTree} {failure : Failure}
    {cleanup : Option CleanupWarning}
    (surveyed : (survey tree spec).2 = .error (.failed failure cleanup)) :
    ∃ text, failure = .workspace text := by
  rw [survey] at surveyed
  cases prepared : prepare tree spec.root with
  | mk after ended =>
      cases ended with
      | error ending =>
          simp only [prepared, Except.error.injEq] at surveyed
          rw [surveyed] at prepared
          exact workspace_of_prepare prepared
      | ok _ =>
          simp only [prepared] at surveyed
          cases answered : after.exists? spec.clonePath with
          | ok isThere =>
              rw [answered] at surveyed
              cases surveyed
          | error error =>
              rw [answered] at surveyed
              cases surveyed

/-- What a release makes of a tree, and how it ends: the directory is removed, is not there,
or is left behind; or it cannot be looked for. -/
def clear (host : Host) (tree : FileTree) (path : Path) :
    FileTree × Except Ending (Option CleanupWarning) :=
  match tree.exists? path with
  | .error error => (tree, .error (.system error))
  | .ok false => (tree, .ok none)
  | .ok true =>
      match removal host tree path with
      | (tree, none) => (tree, .ok none)
      | (tree, some error) => (tree, .ok (some ⟨path, error.text⟩))

/-- The directory at a path is there, and it cannot be removed. -/
def LeavesBehind (host : Host) (tree : FileTree) (path : Path) (warning : CleanupWarning) : Prop :=
  tree.exists? path = .ok true ∧
    ∃ error, (removal host tree path).2 = some error ∧ warning = ⟨path, error.text⟩

theorem clear_warns_iff {tree : FileTree} {path : Path} {warning : CleanupWarning} :
    (clear host tree path).2 = .ok (some warning) ↔ LeavesBehind host tree path warning := by
  rw [clear, LeavesBehind]
  cases tree.exists? path with
  | error error => simp
  | ok isThere =>
      cases isThere with
      | false => simp
      | true =>
          rcases removal host tree path with ⟨after, failed⟩
          cases failed with
          | none => simp
          | some error => simp [eq_comm]

/-- What a release comes to. -/
structure Cleared (host : Host) (path : Path) (before after : World)
    (outcome : Except Ending (Option CleanupWarning)) : Prop where
  result : clear host before.tree path = (after.tree, outcome)
  time : after.time = before.time
  added : Added before after [] [.released path] []
  warned : ∀ warning, outcome = .ok (some warning) →
    after.log = (before.logged host (warningRecord warning)).log

theorem release_clears {path : Path} {outcome : Except Ending (Option CleanupWarning)}
    (ran : (release path).Leads host before outcome after) :
    Cleared host path before after outcome := by
  rw [release, Act.leads_perform_bind, Act.leads_get_bind] at ran
  rcases Act.leads_answer_bind.1 ran with ⟨isThere, checked, ran⟩ | ⟨error, checked, rfl, rfl⟩
  · change before.tree.exists? path = .ok isThere at checked
    cases isThere with
    | false =>
        rcases Act.leads_pure.1 ran with ⟨rfl, rfl⟩
        exact ⟨by rw [clear, checked], rfl, ⟨by simp, rfl, by simp, List.prefix_rfl⟩, by simp⟩
    | true =>
        rw [if_pos rfl, Act.leads_read_bind, Act.leads_get_bind] at ran
        cases removed : removal host before.tree path with
        | mk tree failed =>
            simp only [removed, Act.leads_modify_bind] at ran
            cases failed with
            | none =>
                rw [Act.leads_log_bind] at ran
                rcases Act.leads_pure.1 ran with ⟨rfl, rfl⟩
                have same := SameDeeds.logged
                  { before with tree, deeds := before.deeds ++ [.released path] } host
                  (removedRecord path)
                refine ⟨by rw [clear, checked, same.tree, removed], same.time, ?_, by simp⟩
                exact ⟨by simp [same.calls], same.deeds, by simp, same.log⟩
            | some error =>
                rw [Act.leads_log_bind] at ran
                rcases Act.leads_pure.1 ran with ⟨rfl, rfl⟩
                have same := SameDeeds.logged
                  { before with tree, deeds := before.deeds ++ [.released path] } host
                  (warningRecord ⟨path, error.text⟩)
                refine ⟨by rw [clear, checked, same.tree, removed], same.time, ?_, ?_⟩
                · exact ⟨by simp [same.calls], same.deeds, by simp, same.log⟩
                · intro warning equal
                  cases equal
                  -- neither the tree nor the deed of the release shows in the log
                  rw [World.logged, World.logged]
                  split <;> rfl
  · change before.tree.exists? path = .error error at checked
    exact ⟨by rw [clear, checked], rfl, ⟨by simp, rfl, by simp, List.prefix_rfl⟩, by simp⟩

/-- What releasing a workspace comes to if its directory can be looked for: why it is
left behind, if it is. -/
structure Released (host : Host) (path : Path) (before after : World)
    (cleanup : Option CleanupWarning) : Prop where
  added : Added before after [] [.released path] []
  answered : ∃ isThere, before.tree.exists? path = .ok isThere
  removed : cleanup = none → before.tree.exists? path = .ok false ∧ after.tree = before.tree ∨
    before.tree.removeTree path = .ok after.tree
  leftBehind : ∀ warning, cleanup = some warning → warning.path = path ∧
    (after.tree = before.tree ∨ after.tree = before.tree.breakOff path host.spared) ∧
    after.log = (before.logged host (warningRecord warning)).log

theorem removeTree_of_removal {tree removed : FileTree} {path : Path}
    (removes : removal host tree path = (removed, none)) :
    tree.removeTree path = .ok removed := by
  rw [removal] at removes
  split at removes
  · cases removes
  · cases result : tree.removeTree path with
    | ok left =>
        rw [result] at removes
        cases removes
        rfl
    | error error =>
        rw [result] at removes
        cases removes

/-- A removal that fails leaves the tree as it was, or broke off. -/
theorem tree_of_removal {tree left : FileTree} {path : Path} {error : SystemError}
    (fails : removal host tree path = (left, some error)) :
    left = tree ∨ left = tree.breakOff path host.spared := by
  rw [removal] at fails
  split at fails
  · cases fails
    exact .inr rfl
  · cases result : tree.removeTree path with
    | ok removed =>
        rw [result] at fails
        cases fails
    | error other =>
        rw [result] at fails
        cases fails
        exact .inl rfl

/-- The directory of a workspace is removed, is not there, or is left behind; or it
cannot be looked for. -/
theorem release_leads {path : Path} {outcome : Except Ending (Option CleanupWarning)}
    (ran : (release path).Leads host before outcome after) :
    (∃ cleanup, outcome = .ok cleanup ∧ Released host path before after cleanup) ∨
    ∃ error, before.tree.exists? path = .error error ∧ outcome = .error (.system error) ∧
      after.tree = before.tree ∧ Added before after [] [.released path] [] := by
  have cleared := release_clears ran
  have result := cleared.result
  cases answered : before.tree.exists? path with
  | error error =>
      simp only [clear, answered, Prod.mk.injEq] at result
      rcases result with ⟨same, rfl⟩
      exact .inr ⟨error, rfl, rfl, same.symm, cleared.added⟩
  | ok isThere =>
      refine .inl ?_
      cases isThere with
      | false =>
          simp only [clear, answered, Prod.mk.injEq] at result
          rcases result with ⟨same, rfl⟩
          exact ⟨none, rfl, cleared.added, ⟨false, answered⟩,
            fun _ => .inl ⟨answered, same.symm⟩, by simp⟩
      | true =>
          cases tried : removal host before.tree path with
          | mk tree failed =>
              cases failed with
              | none =>
                  simp only [clear, answered, tried, Prod.mk.injEq] at result
                  rcases result with ⟨rfl, rfl⟩
                  exact ⟨none, rfl, cleared.added, ⟨true, answered⟩,
                    fun _ => .inr (removeTree_of_removal tried), by simp⟩
              | some error =>
                  simp only [clear, answered, tried, Prod.mk.injEq] at result
                  rcases result with ⟨rfl, rfl⟩
                  refine ⟨some _, rfl, cleared.added, ⟨true, answered⟩, by simp, ?_⟩
                  intro warning equal
                  cases equal
                  exact ⟨rfl, tree_of_removal tried, cleared.warned _ rfl⟩

theorem added_of_release {path : Path} {outcome : Except Ending (Option CleanupWarning)}
    (ran : (release path).Leads host before outcome after) :
    Added before after [] [.released path] [] := by
  rcases release_leads ran with ⟨_, _, released⟩ | ⟨_, _, _, _, added⟩
  · exact released.added
  · exact added

/-- Work in a workspace: nothing is done unless the workspace is acquired, and work
that was begun is followed by the release. -/
theorem within_leads {work : Workspace → Act α}
    {outcome : Except Ending (Workspace × Except Ending α)}
    (ran : (within spec work).Leads host before outcome after) :
    (∃ ending, (acquire spec).Leads host before (.error ending) after ∧
      outcome = .error ending) ∨
    ∃ workspace opened ended worked,
      (acquire spec).Leads host before (.ok workspace) opened ∧
      (work workspace).Leads host opened ended worked ∧
      ((∃ cleanup, (release workspace.path).Leads host worked (.ok cleanup) after ∧
          outcome = .ok ({ workspace with released := true, cleanup }, ended)) ∨
        ∃ ending, (release workspace.path).Leads host worked (.error ending) after ∧
          outcome = .error ending) := by
  rw [within] at ran
  rcases Act.leads_bind.1 ran with ⟨workspace, opened, acquired, ran⟩ | ⟨ending, acquired, rfl⟩
  · rcases Act.leads_outcome_bind.1 ran with ⟨ended, worked, work, ran⟩
    refine .inr ⟨workspace, opened, ended, worked, acquired, work, ?_⟩
    rcases Act.leads_bind.1 ran with ⟨cleanup, _, released, ran⟩ | ⟨ending, released, rfl⟩
    · rcases Act.leads_pure.1 ran with ⟨rfl, rfl⟩
      exact .inl ⟨cleanup, released, rfl⟩
    · exact .inr ⟨ending, released, rfl⟩
  · exact .inl ⟨ending, acquired, rfl⟩

theorem within_of_leads {work : Workspace → Act α} {workspace : Workspace} {opened worked : World}
    {ended : Except Ending α} {cleanup : Option CleanupWarning}
    (acquired : (acquire spec).Leads host before (.ok workspace) opened)
    (works : (work workspace).Leads host opened ended worked)
    (released : (release workspace.path).Leads host worked (.ok cleanup) after) :
    (within spec work).Leads host before
      (.ok ({ workspace with released := true, cleanup }, ended)) after := by
  rw [within, Act.leads_bind_of_ok acquired, Act.leads_outcome_bind]
  refine ⟨ended, worked, works, ?_⟩
  rw [Act.leads_bind_of_ok released]
  exact Act.leads_pure.2 ⟨rfl, rfl⟩

end Toolset.Workspace
