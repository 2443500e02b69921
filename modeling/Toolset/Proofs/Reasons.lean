import Toolset.Proofs.Canonical
import Toolset.Proofs.Lines

/-!
# Reasons of failures

An installation fails for the reason that its errors give last: the last of their lines that is
not blank.  To find it, it does not matter whether the blank lines are passed over or the blanks
at the end are cut off first, for every boundary of lines is a blank, and the cut comes after a
character that is none, so it does not part a pair that makes one boundary.
-/

namespace Toolset

namespace Text

variable {c : Char} {cs above line rest : List Char}

/-! ## Lines of a text in parts -/

theorem isBlank_of_isLineBreak (ends : isLineBreak c = true) : isBlank c = true := by
  simp only [isLineBreak, isBlank, Bool.or_eq_true, Bool.and_eq_true, decide_eq_true_eq,
    beq_iff_eq] at ends ⊢
  omega

theorem lines_cons_of_isLineBreak (ends : isLineBreak c = true)
    (apart : c = '\r' → rest.head? ≠ some '\n') : lines (c :: rest) = [] :: lines rest := by
  rw [lines, if_pos ends]
  rintro others rfl rfl
  exact apart rfl rfl

/-- A character that ends no line is put before the first line of the rest. -/
theorem lines_cons_of_unbroken (unbroken : isLineBreak c = false) :
    lines (c :: rest) = (c :: (lines rest).headD []) :: (lines rest).tail := by
  rw [lines, if_neg (by rw [unbroken]; simp)]
  · cases lines rest <;> rfl
  · rintro others rfl _
    cases unbroken

theorem lines_ne_nil (written : cs ≠ []) : lines cs ≠ [] := by
  fun_cases lines cs with
  | case1 => exact absurd rfl written
  | case2 | case3 | case4 | case5 => simp

/-- A text without its first character ends as the whole of it. -/
theorem ended_of_cons (ended : ∀ last, (c :: rest).getLast? = some last → isLineBreak last = true) :
    ∀ last, rest.getLast? = some last → isLineBreak last = true := by
  intro last found
  apply ended last
  rw [List.getLast?_cons, found]
  rfl

theorem lines_append (ended : ∀ last, above.getLast? = some last → isLineBreak last = true)
    (apart : rest.head? ≠ some '\n') : lines (above ++ rest) = lines above ++ lines rest := by
  fun_induction lines above with
  | case1 => rfl
  | case2 others ih =>
      rw [List.cons_append, List.cons_append, lines, ih (ended_of_cons (ended_of_cons ended)),
        List.cons_append]
  | case3 c others pair isBreak ih =>
      rw [List.cons_append, lines_cons_of_isLineBreak isBreak, ih (ended_of_cons ended),
        List.cons_append]
      -- a pair is taken as one boundary, unless it is parted here
      rintro rfl feeds
      cases others with
      | nil => exact apart feeds
      | cons second more =>
          cases feeds
          exact pair more rfl rfl
  | case4 c others pair unbroken none ih =>
      have alone : others = [] := by
        by_contra some
        exact lines_ne_nil some none
      subst alone
      exact absurd (ended c rfl) unbroken
  | case5 c others pair unbroken first more found ih =>
      rw [List.cons_append, lines_cons_of_unbroken (by simpa using unbroken),
        ih (ended_of_cons ended), found]
      rfl

/-- What holds no boundary is put before the first line of the rest. -/
theorem lines_append_of_unbroken (written : line ≠ [])
    (unbroken : ∀ c ∈ line, isLineBreak c = false) :
    lines (line ++ rest) = (line ++ (lines rest).headD []) :: (lines rest).tail := by
  induction line with
  | nil => exact absurd rfl written
  | cons first others ih =>
      rw [List.forall_mem_cons] at unbroken
      rw [List.cons_append, lines_cons_of_unbroken unbroken.1]
      cases others with
      | nil => rfl
      | cons second more =>
          rw [ih (List.cons_ne_nil second more) unbroken.2]
          rfl

theorem mem_of_mem_lines (member : line ∈ lines cs) : ∀ c ∈ line, c ∈ cs := by
  fun_induction lines cs generalizing line with
  | case1 => cases member
  | case2 others ih =>
      obtain rfl | member := List.mem_cons.1 member
      · simp
      · exact fun c among => List.mem_cons_of_mem _ (List.mem_cons_of_mem _ (ih member c among))
  | case3 first others pair isBreak ih =>
      obtain rfl | member := List.mem_cons.1 member
      · simp
      · exact fun c among => List.mem_cons_of_mem first (ih member c among)
  | case4 first others pair unbroken none ih =>
      obtain rfl := List.mem_singleton.1 member
      simp
  | case5 first others pair unbroken second more found ih =>
      rw [found] at ih
      obtain rfl | member := List.mem_cons.1 member
      · rw [List.forall_mem_cons]
        exact ⟨List.mem_cons_self,
          fun c among => List.mem_cons_of_mem first (ih List.mem_cons_self c among)⟩
      · exact fun c among =>
          List.mem_cons_of_mem first (ih (List.mem_cons_of_mem second member) c among)

/-! ## The last line -/

/-- The last line of a text without the blanks at its end, where it stands in the lines of the
whole text: blanks follow it in its own line, and blank lines after that. -/
structure LastLine (cs line : List Char) : Prop where
  unbroken : ∀ c ∈ line, isLineBreak c = false
  said : ∃ c ∈ line, isBlank c = false
  last : (lines (trimBack cs)).getLast? = some line
  ends : ∃ above, trimBack cs = above ++ line
  among : ∃ above after below, lines cs = above ++ (line ++ after) :: below ∧
    (∀ c ∈ after, isBlank c = true) ∧ ∀ other ∈ below, ∀ c ∈ other, isBlank c = true

theorem exists_trimBack_append (cs : List Char) :
    ∃ after, cs = trimBack cs ++ after ∧ ∀ c ∈ after, isBlank c = true :=
  ⟨cs.rtakeWhile isBlank, List.rdropWhile_append_rtakeWhile.symm,
    fun _ => List.mem_rtakeWhile_imp⟩

/-- A text that is cut off after a character that is no blank ends with a line. -/
theorem exists_line (ends : cs.getLast? = some c) (said : isBlank c = false) :
    ∃ above line, cs = above ++ line ∧ c ∈ line ∧ (∀ c ∈ line, isLineBreak c = false) ∧
      ∀ last, above.getLast? = some last → isLineBreak last = true := by
  have ended : ∀ last, (cs.rdropWhile (!isLineBreak ·)).getLast? = some last →
      isLineBreak last = true := by
    intro last found
    simpa using of_getLast?_rdropWhile found
  have parts : cs.rdropWhile (!isLineBreak ·) ++ cs.rtakeWhile (!isLineBreak ·) = cs :=
    List.rdropWhile_append_rtakeWhile
  refine ⟨_, _, parts.symm, ?_, ?_, ended⟩
  · by_cases none : cs.rtakeWhile (!isLineBreak ·) = []
    -- then the text would end with a boundary, which is a blank
    · rw [none, List.append_nil] at parts
      rw [parts] at ended
      rw [isBlank_of_isLineBreak (ended c ends)] at said
      cases said
    · rw [← parts, List.getLast?_append_of_ne_nil _ none] at ends
      exact List.mem_of_getLast? ends
  · intro other member
    simpa using List.mem_rtakeWhile_imp member

theorem mem_of_mem_headD (member : c ∈ (lines cs).headD []) : c ∈ cs := by
  cases parts : lines cs with
  | nil =>
      rw [parts] at member
      cases member
  | cons first others =>
      have isLine : first ∈ lines cs := by
        rw [parts]
        exact List.mem_cons_self
      rw [parts] at member
      exact mem_of_mem_lines isLine c member

theorem exists_lastLine (said : ∃ c ∈ cs, isBlank c = false) : ∃ line, LastLine cs line := by
  obtain ⟨after, whole, blank⟩ := exists_trimBack_append cs
  have some : trimBack cs ≠ [] := by
    intro none
    obtain ⟨c, member, said⟩ := said
    rw [whole, none] at member
    rw [blank c member] at said
    cases said
  have ends := List.getLast?_eq_some_getLast some
  have saidLast : isBlank ((trimBack cs).getLast some) = false := of_getLast?_rdropWhile ends
  obtain ⟨above, line, parts, member, unbroken, ended⟩ := exists_line ends saidLast
  have written := List.ne_nil_of_mem member
  -- the line begins with no line feed, so a carriage return above it is a boundary by itself
  have apart (rest : List Char) : (line ++ rest).head? ≠ Option.some '\n' := by
    intro feeds
    rw [List.head?_append_of_ne_nil _ written] at feeds
    cases unbroken '\n' (List.mem_of_head? feeds)
  refine ⟨line, unbroken, ⟨_, member, saidLast⟩, ?_, ⟨above, parts⟩, ?_⟩
  · have alone := lines_append ended (apart [])
    rw [List.append_nil, lines_of_unbroken written unbroken] at alone
    rw [parts, alone, List.getLast?_concat]
  · refine ⟨lines above, (lines after).headD [], (lines after).tail, ?_, ?_, ?_⟩
    · rw [← lines_append_of_unbroken written unbroken, ← lines_append ended (apart after),
        ← List.append_assoc, ← parts, ← whole]
    · exact fun c member => blank c (mem_of_mem_headD member)
    · exact fun other member c among =>
        blank c (mem_of_mem_lines (List.mem_of_mem_tail member) c among)

/-- The last of the lines that are not blank is the last line, and blanks may follow it. -/
theorem LastLine.getLast?_filter (last : LastLine cs line) :
    ∃ after, (∀ c ∈ after, isBlank c = true) ∧
      ((lines cs).filter fun line => !line.all isBlank).getLast? = some (line ++ after) := by
  obtain ⟨above, after, below, parts, blank, blankBelow⟩ := last.among
  obtain ⟨c, member, said⟩ := last.said
  have kept : (!(line ++ after).all isBlank) = true := by
    rw [Bool.not_eq_true', List.all_eq_false]
    exact ⟨c, List.mem_append_left after member, by rw [said]; simp⟩
  have passed : below.filter (fun line => !line.all isBlank) = [] := by
    rw [List.filter_eq_nil_iff]
    intro other member
    simpa using blankBelow other member
  refine ⟨after, blank, ?_⟩
  rw [parts, List.filter_append, List.filter_cons, if_pos kept, passed, List.getLast?_concat]

/-! ## Trimmed texts -/

theorem exists_trim_append (cs : List Char) :
    ∃ before after, cs = before ++ trim cs ++ after ∧ (∀ c ∈ before, isBlank c = true) ∧
      ∀ c ∈ after, isBlank c = true := by
  obtain ⟨after, whole, blank⟩ := exists_trimBack_append (trimFront cs)
  refine ⟨cs.takeWhile isBlank, after, ?_, fun _ => List.mem_takeWhile_imp, blank⟩
  rw [List.append_assoc, trim, ← whole]
  exact List.takeWhile_append_dropWhile.symm

end Text

namespace InstallResult

open Text

/-- A text of errors ends with a reason. -/
structure EndsWith (errors reason : String) : Prop where
  /-- It is the last line of the errors without the blanks at their end, trimmed. -/
  last : ∃ line, (lines (trimBack errors.toList)).getLast? = some line ∧
    reason = strip (String.ofList line)
  notEmpty : reason ≠ ""
  trimmed : strip reason = reason
  unbroken : ∀ c ∈ reason.toList, isLineBreak c = false
  /-- Nothing but blanks follows it. -/
  ends : ∃ before after, errors.toList = before ++ reason.toList ++ after ∧
    ∀ c ∈ after, isBlank c = true

theorem reason_of_lastLine {errors : String} {line : List Char} (code : Int)
    (last : LastLine errors.toList line) : reason errors code = strip (String.ofList line) := by
  obtain ⟨after, blank, found⟩ := last.getLast?_filter
  have same : trim ([] ++ line ++ after) = trim line := trim_append (by simp) blank
  rw [List.nil_append] at same
  rw [reason, found, strip, String.toList_ofList]
  dsimp only
  rw [same]

theorem endsWith_reason {errors : String} (code : Int)
    (said : ∃ c ∈ errors.toList, isBlank c = false) : EndsWith errors (reason errors code) := by
  obtain ⟨line, last⟩ := exists_lastLine said
  rw [reason_of_lastLine code last]
  have spelled : (strip (String.ofList line)).toList = trim line := by
    rw [strip, String.toList_ofList, String.toList_ofList]
  refine ⟨⟨line, last.last, rfl⟩, ?_, strip_strip _, ?_, ?_⟩
  · rw [ne_eq, strip_eq_empty_iff, Bool.not_eq_true, isBlankText_eq_false_iff,
      String.toList_ofList]
    exact last.said
  · rw [spelled]
    exact fun c member => last.unbroken c (mem_of_mem_trim member)
  · rw [spelled]
    obtain ⟨above, parts⟩ := last.ends
    obtain ⟨after, whole, blank⟩ := exists_trimBack_append errors.toList
    obtain ⟨before, rest, split, _, blankRest⟩ := exists_trim_append line
    refine ⟨above ++ before, rest ++ after, ?_, ?_⟩
    · calc errors.toList = above ++ line ++ after := by rw [← parts, ← whole]
        _ = above ++ (before ++ trim line ++ rest) ++ after := by rw [← split]
        _ = above ++ before ++ trim line ++ (rest ++ after) := by simp only [List.append_assoc]
    · rw [List.forall_mem_append]
      exact ⟨blankRest, blank⟩

/-- An installation fails for the reason that its errors give last, and without one for its exit
code. -/
theorem failureReason_last (result : InstallResult) :
    ((∃ c ∈ result.errors.toList, isBlank c = false) →
        EndsWith result.errors result.failureReason) ∧
      ((∀ c ∈ result.errors.toList, isBlank c = true) →
        result.failureReason = "installer exited with code " ++ toString result.code) := by
  refine ⟨endsWith_reason result.code, ?_⟩
  intro blank
  have passed : (lines result.errors.toList).filter (fun line => !line.all isBlank) = [] := by
    rw [List.filter_eq_nil_iff]
    intro line member
    simpa using fun c among => blank c (mem_of_mem_lines member c among)
  rw [failureReason, reason, passed]
  rfl

/-- Of errors that end with a line that goes on in blanks, and with a blank line; and of errors
that are blank. -/
theorem failureReason_last_blanks :
    EndsWith "warning: unused\r\n error: could not compile\t\x0c \r\n"
      "error: could not compile" ∧
    failureReason ⟨false, 3, "", " \r\n\t", 0⟩ = "installer exited with code 3" := by
  have reason : failureReason ⟨false, 101, "",
      "warning: unused\r\n error: could not compile\t\x0c \r\n", 0⟩ =
      "error: could not compile" := by decide +kernel
  constructor
  · rw [← reason]
    exact (failureReason_last ⟨false, 101, "", _, 0⟩).1 ⟨'w', by decide, by decide⟩
  · exact (failureReason_last ⟨false, 3, "", " \r\n\t", 0⟩).2 (by simp [isBlank])

end InstallResult

end Toolset
