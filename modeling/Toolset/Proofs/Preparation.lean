import Mathlib.Data.List.Induction
import Toolset.Proofs.Walks
import Toolset.Workspace

/-!
# Preparing a workspace root

A root that is a directory is left as it is.  Otherwise directories are made, one above the
other, where the paths above the root and the root itself lead; what was there stays.  Only once
the root is a directory its mode is set, so a root that cannot be prepared leaves all that was
there as it was.
-/

namespace Toolset

namespace FileTree

variable {tree middle after : FileTree} {path : Path} {place : Location} {anchor : Anchor}
  {names : List String}

/-! ## Directories at paths -/

theorem find_eq_ok_iff {follow : Bool} {finding : Finding} :
    tree.find follow path = .ok finding ↔
      ¬longestPath < path.toString.utf8ByteSize ∧
        tree.Arrives follow mostLinks [] path.names finding := by
  rw [find, ← walk_eq_ok_iff]
  split <;> simp [*]

/-- A path leads to a directory at a place. -/
def HasDirectory (tree : FileTree) (path : Path) (place : Location) : Prop :=
  ∃ mode, tree.find true path = .ok (.found place (.directory mode))

theorem HasDirectory.of_grows (grows : tree.Grows after) (has : tree.HasDirectory path place) :
    after.HasDirectory path place := by
  rcases has with ⟨mode, found⟩
  rcases find_eq_ok_iff.1 found with ⟨short, arrives⟩
  rcases arrives.of_grows grows with ⟨grown, arrivesToo⟩
  exact ⟨grown, find_eq_ok_iff.2 ⟨short, arrivesToo⟩⟩

theorem hasDirectory_of_holdsDirectory (holds : tree.holdsDirectory path = true) :
    ∃ place, tree.HasDirectory path place := by
  rw [holdsDirectory, isDirectory?, test] at holds
  by_cases null : hasNull path = true
  · simp [null] at holds
  · cases found : tree.find true path with
    | error obstacle => cases obstacle <;> simp [null, found] at holds
    | ok finding =>
        cases finding with
        | free place => simp [null, found] at holds
        | found place entry =>
            cases entry with
            | directory mode => exact ⟨place, mode, found⟩
            | file mode content => simp [null, found, isDirectoryEntry] at holds
            | link target => simp [null, found, isDirectoryEntry] at holds

/-! ## Making directories -/

/-- A tree is made from another by making directories where the first of some names lead. -/
structure Makes (tree after : FileTree) (anchor : Anchor) (names : List String) : Prop where
  same_or_made : ∀ place, after.get? place = tree.get? place ∨
    tree.get? place = none ∧ ∃ above, above <+: names ∧ after.HasDirectory ⟨anchor, above⟩ place

namespace Makes

theorem refl (tree : FileTree) (anchor : Anchor) (names : List String) :
    tree.Makes tree anchor names :=
  ⟨fun _ => .inl rfl⟩

theorem kept {entry : Entry} (makes : tree.Makes after anchor names)
    (isThere : tree.get? place = some entry) : after.get? place = some entry := by
  rcases makes.same_or_made place with same | ⟨nothing, _⟩
  · rw [same, isThere]
  · rw [isThere] at nothing
    cases nothing

theorem grows (makes : tree.Makes after anchor names) : tree.Grows after where
  directory := fun _ mode isThere => ⟨mode, makes.kept isThere⟩
  file := fun _ _ _ => makes.kept
  link := fun _ _ => makes.kept

theorem trans {more : List String} (first : tree.Makes middle anchor names)
    (second : middle.Makes after anchor (names ++ more)) :
    tree.Makes after anchor (names ++ more) where
  same_or_made := by
    intro place
    rcases first.same_or_made place with same | ⟨nothing, above, leads, has⟩
    · rw [← same]
      exact second.same_or_made place
    · exact .inr ⟨nothing, above, leads.trans (List.prefix_append names more),
        has.of_grows second.grows⟩

end Makes

/-- A directory is made where nothing was, and its path leads there. -/
theorem makes_of_makeDirectory (made : tree.makeDirectory path = .ok after) :
    tree.Makes after path.anchor path.names ∧ ∃ place, after.HasDirectory path place := by
  rw [makeDirectory] at made
  split at made
  · rename_i place free
    cases made
    rcases find_eq_ok_iff.1 free with ⟨short, arrives⟩
    rcases arrives.put with ⟨nothing, arrivesToo⟩
    have has : (tree.put place (.directory directoryMode)).HasDirectory path place :=
      ⟨_, find_eq_ok_iff.2 ⟨short, arrivesToo⟩⟩
    refine ⟨⟨fun there => ?_⟩, place, has⟩
    by_cases equal : there = place
    · subst equal
      exact .inr ⟨nothing, path.names, List.prefix_rfl, has⟩
    · exact .inl (get?_put_of_ne equal)
  · cases made
  · cases made

theorem makes_of_ensureDirectory {failed : Option SystemError}
    (ensured : tree.ensureDirectory path = (after, failed)) :
    tree.Makes after path.anchor path.names ∧
      (failed = none → ∃ place, after.HasDirectory path place) := by
  rw [ensureDirectory] at ensured
  split at ensured
  · cases ensured
    rcases makes_of_makeDirectory ‹_› with ⟨makes, has⟩
    exact ⟨makes, fun _ => has⟩
  · split at ensured
    · rename_i seen
      cases ensured
      have holds := (Bool.and_eq_true_iff.1 seen).2
      exact ⟨.refl tree _ _, fun _ => hasDirectory_of_holdsDirectory holds⟩
    · cases ensured
      exact ⟨.refl tree _ _, by simp⟩

/-- Directories are made where the paths above a path lead, and where it leads itself. -/
theorem makes_of_makeDirectories {failed : Option SystemError}
    (made : tree.makeDirectories anchor names = (after, failed)) :
    tree.Makes after anchor names ∧
      (failed = none → ∃ place, after.HasDirectory ⟨anchor, names⟩ place) := by
  -- what is above a path has all its names but the last
  induction names using List.reverseRecOn generalizing after failed with
  | nil =>
      rw [makeDirectories] at made
      split at made
      · rw [dif_pos rfl] at made
        cases made
        exact ⟨.refl tree _ _, by simp⟩
      · exact makes_of_ensureDirectory made
  | append_singleton above name ih =>
      rw [makeDirectories] at made
      split at made
      · rw [dif_neg (by simp), List.dropLast_concat] at made
        split at made
        · rename_i middle begun
          rcases makes_of_ensureDirectory made with ⟨makes, has⟩
          exact ⟨(ih begun).1.trans makes, has⟩
        · rename_i begun
          cases made
          exact ⟨(ih begun).1.trans (.refl after _ _), by simp⟩
      · exact makes_of_ensureDirectory made

theorem grows_put {mode : Nat} (isThere : tree.get? place = some (.directory mode))
    (other : Nat) :
    tree.Grows (tree.put place (.directory other)) := by
  -- what is no directory is elsewhere
  have elsewhere {there : Location} {entry : Entry} (found : tree.get? there = some entry)
      (noDirectory : ∀ mode, entry ≠ .directory mode) :
      (tree.put place (.directory other)).get? there = some entry := by
    rw [get?_put_of_ne, found]
    rintro rfl
    rw [isThere] at found
    exact noDirectory mode (Option.some.inj found).symm
  refine ⟨fun there mode found => ?_, fun _ _ _ found => elsewhere found (by simp),
    fun _ _ found => elsewhere found (by simp)⟩
  by_cases root : there = []
  · subst root
    exact ⟨_, get?_root _⟩
  · by_cases equal : there = place
    · subst equal
      exact ⟨other, get?_put_self root⟩
    · exact ⟨mode, (get?_put_of_ne equal).trans found⟩

end FileTree

namespace Workspace

open FileTree (HasDirectory)

variable {tree after : FileTree} {root : Path} {place : Location} {outcome : Except Ending Unit}

/-! ## Making a root -/

/-- The ways to prepare a root. -/
inductive Prepares (tree : FileTree) (root : Path) : FileTree → Except Ending Unit → Prop where
  /-- It is there. -/
  | found : tree.isDirectory? root = .ok true → Prepares tree root tree (.ok ())
  /-- It cannot be made, or not be seen. -/
  | failed {after : FileTree} {ending : Ending} :
      tree.Makes after root.anchor root.names → Prepares tree root after (.error ending)
  /-- It is made, and its mode is set. -/
  | made {middle : FileTree} {place : Location} {mode : Nat} :
      tree.isDirectory? root = .ok false → tree.Makes middle root.anchor root.names →
      middle.find true root = .ok (.found place (.directory mode)) →
      Prepares tree root (middle.put place (.directory rootMode)) (.ok ())

theorem prepares (tree : FileTree) (root : Path) :
    Prepares tree root (prepare tree root).1 (prepare tree root).2 := by
  rw [prepare]
  cases seen : tree.isDirectory? root with
  | error error => exact .failed (.refl tree _ _)
  | ok isThere =>
      cases isThere with
      | true => exact .found seen
      | false =>
          dsimp only
          split
          · exact .failed (.refl tree _ _)
          · rw [makeRoot]
            cases made : tree.makeDirectories root.anchor root.names with
            | mk middle failed =>
                rcases FileTree.makes_of_makeDirectories made with ⟨makes, has⟩
                cases failed with
                | some error => exact .failed makes
                | none =>
                    -- the root is a directory now, so its mode can be set
                    rcases has rfl with ⟨place, mode, found⟩
                    have set : middle.setMode root rootMode =
                        .ok (middle.put place (.directory rootMode)) := by
                      rw [FileTree.setMode, found]
                    simp only [set, FileTree.attempt]
                    exact .made seen makes found

namespace Prepares

/-- A root that was made is a directory with the mode of a root. -/
theorem find_put {mode : Nat} (found : tree.find true root = .ok (.found place (.directory mode))) :
    (tree.put place (.directory rootMode)).find true root =
      .ok (.found place (.directory rootMode)) := by
  have isThere := (FileTree.find_eq_ok_iff.1 found).2.isThere
  have has : tree.HasDirectory root place := ⟨mode, found⟩
  rcases has.of_grows (FileTree.grows_put isThere rootMode) with ⟨other, foundToo⟩
  have isThereToo := (FileTree.find_eq_ok_iff.1 foundToo).2.isThere
  by_cases top : place = []
  · subst top
    rw [FileTree.get?_root] at isThereToo
    cases isThereToo
    exact foundToo
  · rw [FileTree.get?_put_self top] at isThereToo
    cases isThereToo
    exact foundToo

theorem hasDirectory (prepares : Prepares tree root after (.ok ())) :
    ∃ place, after.HasDirectory root place := by
  cases prepares with
  | found seen =>
      apply FileTree.hasDirectory_of_holdsDirectory
      rw [FileTree.holdsDirectory, seen]
  | made _ _ found => exact ⟨_, _, find_put found⟩

theorem kept_of_failed {ending : Ending} {entry : Entry}
    (prepares : Prepares tree root after (.error ending))
    (isThere : tree.get? place = some entry) : after.get? place = some entry := by
  cases prepares with
  | failed makes => exact makes.kept isThere

/-- What becomes of a place when a root is prepared: it stays as it is; or nothing was there,
and a directory is made to which the root or a path above it leads; or a directory was there
to which the root leads, but only since directories were made. -/
theorem same_or_made (prepares : Prepares tree root after outcome) (place : Location) :
    after.get? place = tree.get? place ∨
    (tree.get? place = none ∧
      ∃ above, above <+: root.names ∧ after.HasDirectory ⟨root.anchor, above⟩ place) ∨
    tree.isDirectory? root = .ok false ∧ (∃ mode, tree.get? place = some (.directory mode)) ∧
      after.find true root = .ok (.found place (.directory rootMode)) := by
  cases prepares with
  | found _ => exact .inl rfl
  | failed makes => exact (makes.same_or_made place).imp_right .inl
  | @made middle rootPlace mode unseen makes found =>
      have isThere := (FileTree.find_eq_ok_iff.1 found).2.isThere
      have grows := FileTree.grows_put isThere rootMode
      by_cases equal : place = rootPlace
      · subst equal
        have foundToo := find_put found
        rcases makes.same_or_made place with same | ⟨nothing, _⟩
        · exact .inr (.inr ⟨unseen, ⟨mode, same ▸ isThere⟩, foundToo⟩)
        · exact .inr (.inl ⟨nothing, root.names, List.prefix_rfl, _, foundToo⟩)
      · rw [FileTree.get?_put_of_ne equal]
        rcases makes.same_or_made place with same | ⟨nothing, above, leads, has⟩
        · exact .inl same
        · exact .inr (.inl ⟨nothing, above, leads, has.of_grows grows⟩)

end Prepares

end Workspace

end Toolset
