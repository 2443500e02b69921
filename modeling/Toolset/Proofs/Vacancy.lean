import Toolset.Proofs.Decisions
import Toolset.Proofs.FailFast
import Toolset.Proofs.Frame

/-!
# What is at the clone path when git clones

A run fetches if nothing is seen at its clone path when it acquires its workspace.  Looking
follows links and git does not, so the two agree but in one case: a link that leads to nothing
that can be seen is not seen itself.  Git is then started with a target at which the link is,
and since the release looks in the same way, the link stays.  In all other cases the target of
a clone is free.  A clone is the first program that a run starts, so nothing comes between the
look and the clone.
-/

namespace Toolset

namespace FileTree

variable {tree : FileTree} {path : Path} {anchor : Anchor} {names : List String} {name : String}
  {place : Location}

/-- Nothing is at a path, not even a link, but the directory that would hold it. -/
def IsFree (tree : FileTree) (path : Path) : Prop :=
  ∃ place, tree.find false path = .ok (.free place)

/-- A link is at a path, and nothing is seen there. -/
def HasDeadLink (tree : FileTree) (path : Path) : Prop :=
  (∃ place target, tree.find false path = .ok (.found place (.link target))) ∧
    tree.exists? path = .ok false

/-- What is not seen at a path is not found, and that is not for the length of a name. -/
theorem find_ne_of_unseen (valid : hasNull path = false) (unseen : tree.exists? path = .ok false) :
    tree.find true path ≠ .error .nameTooLong ∧
      ∀ place entry, tree.find true path ≠ .ok (.found place entry) := by
  rw [exists?, test, valid] at unseen
  constructor
  · intro long
    simp [long] at unseen
  · intro place entry found
    simp [found] at unseen

theorem find_of_unseen (has : tree.HasDirectory ⟨anchor, names⟩ place) (down : IsStepDown name)
    (valid : hasNull ⟨anchor, names ++ [name]⟩ = false)
    (unseen : tree.exists? ⟨anchor, names ++ [name]⟩ = .ok false) :
    tree.find false ⟨anchor, names ++ [name]⟩ = .ok (.free (place ++ [name])) ∨
      ∃ target, tree.find false ⟨anchor, names ++ [name]⟩ =
        .ok (.found (place ++ [name]) (.link target)) := by
  obtain ⟨notLong, notFound⟩ := find_ne_of_unseen valid unseen
  obtain ⟨mode, root⟩ := has
  obtain ⟨left, same⟩ := (find_eq_ok_iff.1 root).2.exists_walk_append (List.cons_ne_nil name [])
  have short : ¬longestPath < (Path.toString ⟨anchor, names ++ [name]⟩).utf8ByteSize :=
    fun long => notLong (by rw [find, if_pos long])
  -- with links followed at the end or not, the last step is all that is left of the way
  have ways (follow : Bool) : tree.find follow ⟨anchor, names ++ [name]⟩ =
      tree.walk follow left place [name] := by
    rw [find, if_neg short, same]
  have shortName : ¬longestName < name.utf8ByteSize := by
    intro long
    apply notLong
    rw [ways, walk, if_neg down.1, if_neg down.2, if_pos long]
  rw [ways] at notFound
  rw [ways, walk_last down shortName]
  cases isThere : tree.get? (place ++ [name]) with
  | none => exact .inl rfl
  | some entry =>
      cases entry with
      | link target => exact .inr ⟨target, rfl⟩
      | file mode content =>
          exact absurd (walk_eq_ok_iff.2 (.file down shortName isThere)) (notFound _ _)
      | directory mode =>
          have arrives : tree.Arrives true left place [name] _ :=
            .down down shortName isThere (.stop isThere)
          exact absurd (walk_eq_ok_iff.2 arrives) (notFound _ _)

/-- Where nothing is seen one step down from a directory, the place is free, unless a link
that leads nowhere is there. -/
theorem isFree_iff_of_unseen (has : tree.HasDirectory ⟨anchor, names⟩ place)
    (down : IsStepDown name) (valid : hasNull ⟨anchor, names ++ [name]⟩ = false)
    (unseen : tree.exists? ⟨anchor, names ++ [name]⟩ = .ok false) :
    tree.IsFree ⟨anchor, names ++ [name]⟩ ↔ ¬tree.HasDeadLink ⟨anchor, names ++ [name]⟩ := by
  rw [IsFree, HasDeadLink]
  rcases find_of_unseen has down valid unseen with free | ⟨target, linked⟩
  · simp [free]
  · simp [linked, unseen]

end FileTree

namespace Git

variable {git : Git} {source : String} {target : Path} {revision : Option String} {host : Host}
  {before after : World}

/-! ## The clone of a fetch -/

/-- The start of a clone, whatever is cloned. -/
def IsClone (git : Git) (start : Start) : Prop :=
  ∃ arguments, start = git.start ("clone" :: arguments)

/-- The start of a command that works in a clone. -/
def WorksInside (git : Git) (start : Start) : Prop :=
  ∃ arguments, start = git.start ("-C" :: arguments)

/-- The command that clones a source for a revision, or for its tip. -/
def cloneCommand (source : String) (target : Path) : Option String → List String
  | none => cloneTipCommand source target
  | some _ => cloneAllCommand source target

theorem isClone_cloneCommand : git.IsClone (git.start (cloneCommand source target revision)) := by
  cases revision <;> exact ⟨_, rfl⟩

theorem WorksInside.not_isClone {start : Start} (inside : git.WorksInside start) :
    ¬git.IsClone start := by
  rcases inside with ⟨_, rfl⟩
  rintro ⟨_, equal⟩
  simp [Git.start] at equal

theorem Searched.worksInside {revision : String} {names : List String} {calls : List Call}
    {outcome : Except Ending String}
    (searched : git.Searched source target revision names calls outcome) :
    ∀ call ∈ calls, git.WorksInside call.start := by
  induction searched with
  | exhausted => simp
  | found first | failed first =>
      intro call member
      rw [List.mem_singleton.1 member, first]
      exact ⟨_, rfl⟩
  | next first _ _ _ ih =>
      refine List.forall_mem_cons.2 ⟨?_, ih⟩
      rw [first]
      exact ⟨_, rfl⟩

/-- A fetch begins with a clone, and all its other commands work in what was cloned. -/
theorem fetch_clones {outcome : Except Ending Unit}
    (ran : (git.fetch source target revision).Leads host before outcome after) :
    ∃ clone rest, Answered host before after (clone :: rest) ∧
      clone.start = git.start (cloneCommand source target revision) ∧
      ∀ call ∈ rest, git.WorksInside call.start := by
  cases revision with
  | none =>
      rw [fetch, Act.leads_log_bind] at ran
      obtain ⟨_, middle, first, ran⟩ | ⟨ending, first, rfl⟩ := Act.leads_bind.1 ran
      · obtain ⟨behaviour, answered, _⟩ := succeed_answered first
        obtain ⟨rfl, rfl⟩ := Act.leads_log.1 ran
        exact ⟨_, [], answered.logged.andLogged, rfl, by simp⟩
      · obtain ⟨behaviour, answered, _⟩ := succeed_answered first
        exact ⟨_, [], answered.logged, rfl, by simp⟩
  | some revision =>
      rw [fetch] at ran
      obtain ⟨_, cloned, first, ran⟩ | ⟨ending, first, rfl⟩ := Act.leads_bind.1 ran
      · obtain ⟨cloning, answered, _⟩ := succeed_answered first
        obtain ⟨commit, resolved, second, ran⟩ | ⟨ending, second, rfl⟩ := Act.leads_bind.1 ran
        · obtain ⟨calls, answeredToo, searched⟩ := resolve_searched second
          have checkout (behaviour : Behaviour) : ∀ call ∈ calls ++
              [⟨git.start (checkoutCommand target commit), behaviour⟩],
              git.WorksInside call.start :=
            List.forall_mem_append.2 ⟨searched.worksInside,
              List.forall_mem_singleton.2 ⟨_, rfl⟩⟩
          obtain ⟨_, checked, third, ran⟩ | ⟨ending, third, rfl⟩ := Act.leads_bind.1 ran
          · obtain ⟨last, answeredLast, _⟩ := succeed_answered third
            obtain ⟨rfl, rfl⟩ := Act.leads_log.1 ran
            exact ⟨_, _, (answered.trans (answeredToo.trans answeredLast)).andLogged, rfl,
              checkout last⟩
          · obtain ⟨last, answeredLast, _⟩ := succeed_answered third
            exact ⟨_, _, answered.trans (answeredToo.trans answeredLast), rfl, checkout last⟩
        · obtain ⟨calls, answeredToo, searched⟩ := resolve_searched second
          exact ⟨_, _, answered.trans answeredToo, rfl, searched.worksInside⟩
      · obtain ⟨cloning, answered, _⟩ := succeed_answered first
        exact ⟨_, [], answered, rfl, by simp⟩

end Git

namespace Provisioner

open Workspace (acquire survey)

variable {provisioner : Provisioner} {spec : Spec} {host : Host} {before after : World}
  {calls : List Call}

/-! ## The clone of a run -/

/-- The clone of a run: when it is started, and what is at its target then. -/
structure Clones (provisioner : Provisioner) (spec : Spec) (host : Host) (before after : World)
    (calls : List Call) : Prop where
  /-- A clone is started exactly if the workspace is acquired, nothing is seen at the clone
  path, and no sink calls the work off. -/
  started_iff : (∃ call ∈ calls, provisioner.git.IsClone call.start) ↔
    (survey before.tree spec).2 = .ok false ∧
    provisioner.sink.cancels (event host before spec.source .stepStarted fetchDetails) = false
  /-- It is the first of the programs, and it finds the tree in which the workspace was
  acquired. -/
  first : ∀ earlier call later, calls = earlier ++ call :: later →
    provisioner.git.IsClone call.start →
    earlier = [] ∧
    call.start = provisioner.git.start
      (Git.cloneCommand spec.source spec.clonePath spec.revision) ∧
    ((host.program before.calls.length call.start (acquiredTree spec before)).settle
      (acquiredTree spec before)).2 = call.behaviour
  /-- Its target is free then, unless a link that leads nowhere is there. -/
  onto : (∃ call ∈ calls, provisioner.git.IsClone call.start) →
    FileTree.hasNull spec.clonePath = false →
    ((acquiredTree spec before).IsFree spec.clonePath ↔
      ¬(acquiredTree spec before).HasDeadLink spec.clonePath)
  /-- A link that leads nowhere is not released. -/
  left : (releasedTree spec host before calls).HasDeadLink spec.clonePath →
    after.tree = releasedTree spec host before calls

/-- A call in a sequence of which only the first is a clone, if it is one itself. -/
theorem eq_of_only_clone {clone call : Call} {rest earlier later : List Call}
    (others : ∀ other ∈ rest, ¬provisioner.git.IsClone other.start)
    (equal : clone :: rest = earlier ++ call :: later)
    (isClone : provisioner.git.IsClone call.start) : earlier = [] ∧ call = clone := by
  cases earlier with
  | nil =>
      cases equal
      exact ⟨rfl, rfl⟩
  | cons head between =>
      cases equal
      exact absurd isClone (others call (by simp))

/-- No start of the installer is a clone, for it works in a directory. -/
theorem not_isClone_of_installing {call : Call} {script : Path} {directory : Path}
    (start : call.start = provisioner.installer.start script (some directory)) :
    ¬provisioner.git.IsClone call.start := by
  rintro ⟨arguments, equal⟩
  rw [start] at equal
  cases congrArg Start.directory equal

/-- The clone path of a run that fetches is free, unless a link that leads nowhere is there. -/
theorem isFree_clonePath_iff {fields : List Field} (accepted : Spec.ofFields fields = .ok spec)
    (valid : FileTree.hasNull spec.clonePath = false)
    (surveyed : (survey before.tree spec).2 = .ok false) :
    (acquiredTree spec before).IsFree spec.clonePath ↔
      ¬(acquiredTree spec before).HasDeadLink spec.clonePath := by
  have checked := Spec.accepted_of_ofFields accepted
  have prepares := Workspace.prepares before.tree spec.root
  rw [prepare_of_survey surveyed] at prepares
  obtain ⟨root, has⟩ := prepares.hasDirectory
  have unseen := exists?_of_survey surveyed
  rw [tree_survey] at unseen
  rw [checked.clonePath_eq] at valid unseen ⊢
  exact FileTree.isFree_iff_of_unseen has checked.isStepDown valid unseen

/-- A link that leads nowhere when the workspace is released stays. -/
theorem Reshapes.left (reshapes : Reshapes spec host before after calls)
    (dead : (releasedTree spec host before calls).HasDeadLink spec.clonePath) :
    after.tree = releasedTree spec host before calls := by
  cases reshapes with
  | refused _ same => exact same
  | released _ same =>
      rw [same, Workspace.clear, dead.2]

/-- What git is called for in a run, if it is called: a clone, and then commands that work in
what was cloned. -/
theorem fetching_of_worked {workspace : Workspace} {acquired worked : World}
    {fetching : List Call} {attempts : List Attempt} {told : List Event}
    {ended : Except Ending Done}
    (taken : (acquire spec).Leads host (opened spec host before) (.ok workspace) acquired)
    (whole : provisioner.Worked spec host workspace acquired worked fetching attempts told ended)
    (some : fetching ≠ []) :
    ∃ clone rest, fetching = clone :: rest ∧
      clone.start = provisioner.git.start
        (Git.cloneCommand spec.source spec.clonePath spec.revision) ∧
      ((host.program before.calls.length clone.start (acquiredTree spec before)).settle
        (acquiredTree spec before)).2 = clone.behaviour ∧
      ∀ call ∈ rest, provisioner.git.WorksInside call.start := by
  have acquires := acquired_of_opened taken
  have acquiredCalls : acquired.calls = before.calls := by
    simpa using acquires.added_of_ok.calls
  obtain ⟨sourced, fetch, staged, calls⟩ := whole.staged
  cases staged.sourcing with
  | spared same =>
      rw [same.calls] at calls
      exact absurd (List.self_eq_append_right.1 calls) some
  | @fetched opened _ _ begun fetch closing =>
      obtain ⟨clone, rest, answered, start, inside⟩ := Git.fetch_clones fetch
      have answer := answered.answers.1
      rw [begun.calls, begun.tree, acquiredCalls, tree_of_acquired acquires] at answer
      rw [closing.calls, answered.calls, begun.calls] at calls
      exact ⟨clone, rest, (List.append_cancel_left calls).symm, start, answer, inside⟩

theorem clones_of_refused {ending : Ending} (surveyed : (survey before.tree spec).2 = .error ending)
    (reshapes : Reshapes spec host before after []) :
    provisioner.Clones spec host before after [] where
  started_iff := by simp [surveyed]
  first := by simp
  onto := by simp
  left := reshapes.left

/-- A run that acquired its workspace starts a clone exactly if it calls git. -/
theorem clones_of_worked {fields : List Field} {workspace : Workspace} {acquired worked : World}
    {fetching installing : List Call} {attempts : List Attempt} {told : List Event}
    {ended : Except Ending Done} (accepted : Spec.ofFields fields = .ok spec)
    (taken : (acquire spec).Leads host (opened spec host before) (.ok workspace) acquired)
    (whole : provisioner.Worked spec host workspace acquired worked fetching attempts told ended)
    (issued : provisioner.Issued spec before after fetching installing)
    (reshapes : Reshapes spec host before after (fetching ++ installing)) :
    provisioner.Clones spec host before after (fetching ++ installing) := by
  obtain ⟨preexisting, surveyed, rfl⟩ := (acquired_of_opened taken).workspace_eq
  have installs : ∀ call ∈ installing, ¬provisioner.git.IsClone call.start := by
    intro call member
    obtain ⟨tool, start⟩ := issued.installing call member
    exact not_isClone_of_installing start
  have clones_iff : (∃ call ∈ fetching ++ installing, provisioner.git.IsClone call.start) ↔
      fetching ≠ [] := by
    constructor
    · rintro ⟨call, member, isClone⟩ rfl
      exact installs call member isClone
    · intro some
      obtain ⟨clone, rest, rfl, start, _⟩ := fetching_of_worked taken whole some
      exact ⟨clone, by simp, start ▸ Git.isClone_cloneCommand⟩
  have started_iff : (∃ call ∈ fetching ++ installing, provisioner.git.IsClone call.start) ↔
      (survey before.tree spec).2 = .ok false ∧
      provisioner.sink.cancels (event host before spec.source .stepStarted fetchDetails) =
        false := by
    rw [clones_iff, ne_eq, whole.untouched_iff, event_of_acquired taken, surveyed]
    simp
  exact {
    started_iff
    first := by
      intro earlier call later equal isClone
      have some := clones_iff.1 ⟨call, by simp [equal], isClone⟩
      obtain ⟨clone, rest, rfl, start, answer, inside⟩ := fetching_of_worked taken whole some
      have others : ∀ other ∈ rest ++ installing, ¬provisioner.git.IsClone other.start :=
        List.forall_mem_append.2 ⟨fun other member => (inside other member).not_isClone, installs⟩
      obtain ⟨rfl, rfl⟩ := eq_of_only_clone others equal isClone
      exact ⟨rfl, start, answer⟩
    onto := fun started valid => isFree_clonePath_iff accepted valid (started_iff.1 started).1
    left := reshapes.left }

/-- Every run of an accepted specification starts a clone exactly if it sees nothing at the
clone path and nobody calls it off, and then the path is free, unless a link that leads nowhere
is there. -/
theorem provision_clones {fields : List Field} (accepted : Spec.ofFields fields = .ok spec)
    (provisioner : Provisioner) (host : Host) (before : World) :
    ∃ outcome after calls, (provisioner.provision spec).Leads host before outcome after ∧
      after.calls = before.calls ++ calls ∧
      provisioner.Clones spec host before after calls := by
  obtain ⟨outcome, after, ran⟩ := (provisioner.provision spec).exists_leads host before
  obtain ⟨calls, added, reshapes⟩ := provision_reshapes ran
  refine ⟨outcome, after, calls, ran, added, ?_⟩
  cases provision_leads ran with
  | refused refused concluded =>
      have surveyed := (acquired_of_opened refused).survey_eq
      rw [(added_of_refused refused concluded).calls] at added
      obtain rfl := List.append_cancel_left added
      exact clones_of_refused surveyed reshapes
  | worked taken work whole release concluded =>
      obtain ⟨_, _, all⟩ := added_of_worked taken whole release concluded
      rw [all.calls] at added
      obtain rfl := List.append_cancel_left added
      exact clones_of_worked accepted taken whole (issued_of_worked whole all) reshapes

end Provisioner

/-! ## A link that leads nowhere -/

namespace Spec

/-- A tree that holds a link to nowhere in the place of the clone of the sample. -/
def withDeadLink : FileTree := withRoot.put ["work", "tools"] (.link "nowhere")

theorem targetNames_nowhere : FileTree.targetNames "nowhere" = ["nowhere"] := by
  rw [FileTree.targetNames_eq (by decide) (by decide)]
  rfl

theorem hasDeadLink_withDeadLink : withDeadLink.HasDeadLink sample.clonePath := by
  have linked : withDeadLink.find false sample.clonePath =
      .ok (.found ["work", "tools"] (.link "nowhere")) := by
    refine FileTree.find_eq_ok_iff.2 ⟨by decide, ?_⟩
    exact .down (by decide) (by decide) rfl (.link (by decide) (by decide) rfl rfl)
  have followed : withDeadLink.find true sample.clonePath = .ok (.free ["work", "nowhere"]) := by
    refine FileTree.find_eq_ok_iff.2 ⟨by decide, ?_⟩
    refine .down (by decide) (by decide) rfl ?_
    refine .along (by decide) (by decide) rfl (.inl rfl) ?_
    rw [targetNames_nowhere]
    exact .free (by decide) (by decide) rfl
  refine ⟨⟨_, _, linked⟩, ?_⟩
  rw [FileTree.exists?, FileTree.test, if_neg (by decide), followed]

end Spec

namespace Provisioner

theorem replay_quiet (number : Nat) (tree : FileTree) (starts : List Start) :
    Host.quiet.replay number tree starts = tree := by
  induction starts generalizing number with
  | nil => rfl
  | cons start rest ih => exact ih (number + 1)

/-- Where a link to nowhere is in the place of its clone, a run of the sample starts git with
the link as its target, and leaves the link. -/
theorem provision_clones_withDeadLink :
    Spec.ofFields Spec.sample.fields = .ok Spec.sample ∧
    Spec.withDeadLink.HasDeadLink Spec.sample.clonePath ∧
    ∃ outcome after calls,
      (sample.provision Spec.sample).Leads .quiet { tree := Spec.withDeadLink } outcome after ∧
      sample.Clones Spec.sample .quiet { tree := Spec.withDeadLink } after calls ∧
      (∃ call ∈ calls, sample.git.IsClone call.start) ∧
      ¬(acquiredTree Spec.sample { tree := Spec.withDeadLink }).IsFree Spec.sample.clonePath ∧
      after.tree = Spec.withDeadLink := by
  have dead := Spec.hasDeadLink_withDeadLink
  have root : Spec.withDeadLink.get? ["work"] = some (.directory 0o755) := by decide
  have survey := Spec.survey_sample root
  rw [dead.2] at survey
  have same : acquiredTree Spec.sample { tree := Spec.withDeadLink } = Spec.withDeadLink := by
    rw [acquiredTree, ← tree_survey, survey]
  refine ⟨Spec.ofFields_sample, dead, ?_⟩
  obtain ⟨outcome, after, calls, ran, _, clones⟩ := provision_clones Spec.ofFields_sample sample
    .quiet { tree := Spec.withDeadLink }
  have started := clones.started_iff.2 ⟨by rw [survey]; rfl, rfl⟩
  have stays : releasedTree Spec.sample .quiet { tree := Spec.withDeadLink } calls =
      Spec.withDeadLink := by
    rw [releasedTree, replay_quiet, same]
  refine ⟨outcome, after, calls, ran, clones, started, ?_, ?_⟩
  · rw [clones.onto started (by decide), same]
    exact not_not_intro dead
  · rw [clones.left (by rwa [stays]), stays]

end Provisioner

end Toolset
