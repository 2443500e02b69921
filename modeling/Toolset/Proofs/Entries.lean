import Mathlib.Data.List.Nodup

/-!
# Entries by keys

A list of entries is looked through from the front, so of several entries with one key only
the first is found.  Where the keys are distinct, what is found is what is there.
-/

namespace Toolset

variable {κ β : Type} [BEq κ] [LawfulBEq κ] {entries : List (κ × β)}

theorem lookup_filter (keeps : κ → Bool) (key : κ) :
    (entries.filter fun entry => keeps entry.1).lookup key =
      if keeps key then entries.lookup key else none := by
  induction entries with
  | nil => simp
  | cons entry rest ih =>
      rcases entry with ⟨other, content⟩
      rw [List.filter_cons, List.lookup_cons]
      by_cases equal : key = other
      · subst equal
        cases kept : keeps key <;> simp [ih, kept]
      · have different : (key == other) = false := beq_false_of_ne equal
        cases keeps other <;> simp [List.lookup_cons, different, ih]

/-- Among distinct keys an entry is there exactly if it is found. -/
theorem mem_entries_iff (distinct : (entries.map Prod.fst).Nodup) {key : κ} {content : β} :
    (key, content) ∈ entries ↔ entries.lookup key = some content := by
  induction entries with
  | nil => simp
  | cons entry rest ih =>
      rcases entry with ⟨other, found⟩
      rw [List.map_cons, List.nodup_cons] at distinct
      rw [List.lookup_cons, List.mem_cons, Prod.mk.injEq, ih distinct.2]
      by_cases equal : key = other
      · subst equal
        have absent : rest.lookup key ≠ some content := by
          rw [ne_eq, ← ih distinct.2]
          intro member
          exact distinct.1 (List.mem_map.2 ⟨_, member, rfl⟩)
        simp [absent, eq_comm]
      · have different : (key == other) = false := beq_false_of_ne equal
        simp [different, equal]

end Toolset
