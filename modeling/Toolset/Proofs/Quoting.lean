import Toolset.Text.Words

/-!
# Quoted words

A word between apostrophes is read as it is, whatever is in it, and an apostrophe is written
in quotation marks outside of them.  So a list of words that is written as one text is cut
into just these words again.
-/

namespace Toolset.Text.Words

/-! ## A quoted word -/

theorem splitFrom_enter (begun : Option (List Char)) (rest : List Char) :
    splitFrom .outside begun ('\'' :: rest) =
      splitFrom .apostrophes (some (begun.getD [])) rest := by
  rw [splitFrom.eq_def]
  simp [isSeparator]

theorem splitFrom_leave (begun : Option (List Char)) (rest : List Char) :
    splitFrom .apostrophes begun ('\'' :: rest) = splitFrom .outside begun rest := by
  rw [splitFrom, if_pos rfl]

/-- A character of a quoted word is read as it is, and the reader is between apostrophes
again. -/
theorem splitFrom_quoteChar (c : Char) (begun rest : List Char) :
    splitFrom .apostrophes (some begun) (quoteChar c ++ rest) =
      splitFrom .apostrophes (some (c :: begun)) rest := by
  rw [quoteChar]
  split
  · -- the apostrophe stands between quotation marks, outside of any apostrophes
    rename_i isApostrophe
    subst isApostrophe
    simp only [List.cons_append, List.nil_append]
    rw [splitFrom_leave, splitFrom, if_neg (by decide), if_neg (by decide), if_pos rfl, splitFrom,
      if_neg (by decide), if_neg (by decide), splitFrom, if_pos rfl, splitFrom_enter]
    rfl
  · rename_i other
    rw [List.singleton_append, splitFrom, if_neg other]
    rfl

theorem splitFrom_flatMap (word begun rest : List Char) :
    splitFrom .apostrophes (some begun) (word.flatMap quoteChar ++ rest) =
      splitFrom .apostrophes (some (word.reverse ++ begun)) rest := by
  induction word generalizing begun with
  | nil => rfl
  | cons c word ih =>
      rw [List.flatMap_cons, List.append_assoc, splitFrom_quoteChar, ih, List.reverse_cons,
        List.append_assoc, List.singleton_append]

/-- A quoted word is begun and read to its end. -/
theorem splitFrom_quoteWord (word rest : List Char) :
    splitFrom .outside none (quoteWord word ++ rest) =
      splitFrom .outside (some word.reverse) rest := by
  rw [quoteWord, List.cons_append, List.append_assoc, List.singleton_append, splitFrom_enter,
    Option.getD_none, splitFrom_flatMap, List.append_nil, splitFrom_leave]

/-! ## A list of quoted words -/

theorem splitFrom_blank (word rest : List Char) :
    splitFrom .outside (some word.reverse) (' ' :: rest) =
      (splitFrom .outside none rest).map (word :: ·) := by
  rw [splitFrom.eq_def]
  simp [isSeparator, close]

/-- Quoted words with a blank between each two of them are read one after another. -/
theorem splitFrom_intercalate (words : List (List Char)) :
    splitFrom .outside none ([' '].intercalate (words.map quoteWord)) = .ok words := by
  induction words with
  | nil =>
      rw [List.map_nil, List.intercalate_nil, splitFrom]
      rfl
  | cons word rest ih =>
      cases rest with
      | nil =>
          have read := splitFrom_quoteWord word []
          rw [List.append_nil] at read
          rw [List.map_singleton, List.intercalate_singleton, read, splitFrom, close,
            List.reverse_reverse]
      | cons next others =>
          rw [List.map_cons, List.map_cons, List.intercalate_cons_cons, ← List.map_cons,
            List.append_assoc, splitFrom_quoteWord, List.singleton_append, splitFrom_blank, ih]
          rfl

theorem split_empty : split "" = .ok [] := by
  rw [split, String.toList_empty, splitFrom]
  rfl

/-- A list of words that is written as one text is cut into just these words. -/
theorem split_join (words : List String) : split (join words) = .ok words := by
  have written : (join words).toList =
      [' '].intercalate ((words.map String.toList).map quoteWord) := by
    rw [join, String.toList_ofList, List.map_map]
    rfl
  rw [split, written, splitFrom_intercalate]
  change Except.ok ((words.map String.toList).map String.ofList) = _
  rw [List.map_map]
  simp

theorem join_ne_empty {words : List String} (some : words ≠ []) : join words ≠ "" := by
  intro empty
  have read := split_join words
  rw [empty, split_empty] at read
  exact some (Except.ok.inj read).symm

end Toolset.Text.Words
