import Toolset.Install

/-!
# Single lines

What is said of an installation that failed is a line of its errors, or a text about its
exit code.  Either way it is a line by itself: no boundary of lines is in it, and a character
that is not blank is.
-/

namespace Toolset

namespace Text

/-- A text that is a single line, and not blank. -/
structure IsLine (cs : List Char) : Prop where
  single : lines cs = [cs]
  said : ∃ c ∈ cs, isBlank c = false

theorem isLineBreak_of_mem_lines {cs line : List Char} (member : line ∈ lines cs) :
    ∀ c ∈ line, isLineBreak c = false := by
  fun_induction lines cs generalizing line with
  | case1 => simp at member
  | case2 rest ih =>
      obtain rfl | member := List.mem_cons.1 member
      · simp
      · exact ih member
  | case3 c rest pair isBreak ih =>
      obtain rfl | member := List.mem_cons.1 member
      · simp
      · exact ih member
  | case4 c rest pair isBreak none ih =>
      rw [List.mem_singleton.1 member]
      simpa using isBreak
  | case5 c rest pair isBreak first others found ih =>
      rw [found] at ih
      obtain rfl | member := List.mem_cons.1 member
      · rw [List.forall_mem_cons]
        exact ⟨by simpa using isBreak, ih List.mem_cons_self⟩
      · exact ih (List.mem_cons_of_mem first member)

theorem lines_of_unbroken {cs : List Char} (written : cs ≠ [])
    (unbroken : ∀ c ∈ cs, isLineBreak c = false) : lines cs = [cs] := by
  fun_induction lines cs with
  | case1 => exact absurd rfl written
  | case2 rest ih =>
      have carriageReturn := unbroken '\r' List.mem_cons_self
      cases carriageReturn
  | case3 c rest pair isBreak ih =>
      rw [unbroken c List.mem_cons_self] at isBreak
      cases isBreak
  | case4 c rest pair isBreak none ih =>
      rw [List.forall_mem_cons] at unbroken
      cases rest with
      | nil => rfl
      | cons next others =>
          rw [ih (List.cons_ne_nil next others) unbroken.2] at none
          cases none
  | case5 c rest pair isBreak first others found ih =>
      rw [List.forall_mem_cons] at unbroken
      cases rest with
      | nil => cases found
      | cons next more =>
          rw [ih (List.cons_ne_nil next more) unbroken.2] at found
          cases found
          rfl

theorem lines_eq_singleton_iff {cs : List Char} :
    lines cs = [cs] ↔ cs ≠ [] ∧ ∀ c ∈ cs, isLineBreak c = false := by
  constructor
  · intro single
    constructor
    · rintro rfl
      cases single
    · have line : cs ∈ lines cs := by
        rw [single]
        exact List.mem_singleton_self cs
      exact isLineBreak_of_mem_lines line
  · intro ⟨written, unbroken⟩
    exact lines_of_unbroken written unbroken

theorem unbroken_of_all {cs : List Char} (none : cs.all (fun c => !isLineBreak c) = true) :
    ∀ c ∈ cs, isLineBreak c = false := by
  simpa using none

/-- A text is a line exactly if no boundary is in it and a character that is not blank is. -/
theorem isLine_iff {cs : List Char} : IsLine cs ↔
    (∀ c ∈ cs, isLineBreak c = false) ∧ ∃ c ∈ cs, isBlank c = false := by
  constructor
  · intro line
    exact ⟨(lines_eq_singleton_iff.1 line.single).2, line.said⟩
  · intro ⟨unbroken, said⟩
    refine ⟨lines_of_unbroken ?_ unbroken, said⟩
    obtain ⟨c, member, _⟩ := said
    exact List.ne_nil_of_mem member

/-! ## Without the blanks at the ends -/

theorem mem_of_mem_trim {cs : List Char} {c : Char} (member : c ∈ trim cs) : c ∈ cs := by
  rw [trim, trimBack, List.mem_reverse] at member
  have kept := (List.dropWhile_sublist isBlank).subset member
  rw [List.mem_reverse] at kept
  exact (List.dropWhile_sublist isBlank).subset kept

theorem mem_dropWhile {α : Type} {drops : α → Bool} {a : α} {as : List α} (member : a ∈ as)
    (kept : drops a = false) : a ∈ as.dropWhile drops := by
  induction as with
  | nil => exact member
  | cons first rest ih =>
      rw [List.dropWhile_cons]
      split
      · rename_i dropped
        apply ih
        obtain rfl | member := List.mem_cons.1 member
        · rw [kept] at dropped
          cases dropped
        · exact member
      · exact member

theorem mem_trim {cs : List Char} {c : Char} (member : c ∈ cs) (said : isBlank c = false) :
    c ∈ trim cs := by
  rw [trim, trimBack, List.mem_reverse]
  apply mem_dropWhile _ said
  rw [List.mem_reverse]
  exact mem_dropWhile member said

end Text

/-! ## What is said of an exit code -/

theorem isDigit_of_mem_toString {n : Int} {c : Char} (member : c ∈ (toString n).toList) :
    c.isDigit = true ∨ c = '-' := by
  rw [Int.toString_eq_repr, Int.repr_eq_if] at member
  split at member
  · rw [Nat.toList_repr] at member
    exact .inl (Nat.isDigit_of_mem_toDigits (by decide) (by decide) member)
  · rw [String.toList_append, Nat.toList_repr] at member
    obtain sign | digit := List.mem_append.1 member
    · right
      simpa using sign
    · exact .inl (Nat.isDigit_of_mem_toDigits (by decide) (by decide) digit)

theorem Text.isLineBreak_of_isDigit {c : Char} (digit : c.isDigit = true) :
    Text.isLineBreak c = false := by
  rw [Char.isDigit_iff_toNat] at digit
  have least : 48 ≤ c.toNat ∧ c.toNat ≤ 57 := digit
  simp only [isLineBreak, Bool.or_eq_false_iff, Bool.and_eq_false_iff, decide_eq_false_iff_not,
    beq_eq_false_iff_ne]
  omega

namespace InstallResult

/-- Why an installation failed is said in a line. -/
theorem isLine_reason (errors : String) (code : Int) : Text.IsLine (reason errors code).toList := by
  rw [Text.isLine_iff, reason]
  split
  · rename_i line last
    have member := List.mem_filter.1 (List.mem_of_getLast? last)
    rw [String.toList_ofList]
    constructor
    · intro c among
      exact Text.isLineBreak_of_mem_lines member.1 c (Text.mem_of_mem_trim among)
    · obtain ⟨c, among, said⟩ : ∃ c ∈ line, Text.isBlank c = false := by simpa using member.2
      exact ⟨c, Text.mem_trim among said, said⟩
  · rw [String.toList_append]
    constructor
    · rw [List.forall_mem_append]
      refine ⟨Text.unbroken_of_all (by decide), ?_⟩
      intro c member
      obtain digit | rfl := isDigit_of_mem_toString member
      · exact Text.isLineBreak_of_isDigit digit
      · rfl
    · exact ⟨'i', List.mem_append_left _ (by decide), rfl⟩

theorem isLine_failureReason (result : InstallResult) :
    Text.IsLine result.failureReason.toList :=
  isLine_reason result.errors result.code

end InstallResult

end Toolset
