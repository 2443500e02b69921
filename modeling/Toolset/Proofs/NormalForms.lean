import Mathlib.Data.List.DropRight
import Toolset.Proofs.Decoding
import Toolset.Path
import Toolset.Text.Blank

/-!
# Normal forms

What was trimmed or read once stays as it is: a text without blanks at its ends is not
trimmed any further, and a path that is written out is read back as it was.
-/

namespace Toolset

namespace Text

variable {cs : List Char} {text : String}

/-- What is left without an end does not end with anything that was dropped. -/
theorem of_getLast?_rdropWhile {α : Type} {drops : α → Bool} {as : List α} {last : α}
    (left : (as.rdropWhile drops).getLast? = some last) : drops last = false := by
  have some : as.rdropWhile drops ≠ [] := by
    intro none
    rw [none] at left
    cases left
  rw [List.getLast?_eq_some_getLast some, Option.some.injEq] at left
  rw [← left, ← Bool.not_eq_true]
  exact List.rdropWhile_last_not drops as some

theorem trim_trim (cs : List Char) : trim (trim cs) = trim cs := by
  have starts : trim cs <+: trimFront cs := List.rdropWhile_prefix isBlank _
  have front : trimFront (trim cs) = trim cs := by
    apply List.dropWhile_eq_self_iff.2
    intro some
    rw [starts.getElem some]
    exact List.dropWhile_get_zero_not isBlank cs _
  rw [trim, front]
  exact List.rdropWhile_idempotent isBlank (trimFront cs)

theorem strip_strip (text : String) : strip (strip text) = strip text := by
  rw [strip, strip, String.toList_ofList, trim_trim]

theorem trim_eq_nil_iff : trim cs = [] ↔ ∀ c ∈ cs, isBlank c = true := by
  constructor
  · intro none
    have back : ∀ c ∈ trimFront cs, isBlank c = true :=
      (List.rdropWhile_eq_nil_iff (p := isBlank)).1 none
    have dropped : trimFront cs = [] := by
      by_contra some
      have said : isBlank ((trimFront cs).head some) = false :=
        List.head_dropWhile_not isBlank some
      rw [back _ (List.head_mem some)] at said
      cases said
    exact List.dropWhile_eq_nil_iff.1 dropped
  · intro blank
    have dropped : trimFront cs = [] := List.dropWhile_eq_nil_iff.2 blank
    rw [trim, dropped]
    rfl

theorem strip_eq_empty_iff : strip text = "" ↔ isBlankText text = true := by
  rw [isBlankText, List.all_eq_true, ← trim_eq_nil_iff, ← String.toList_inj, strip,
    String.toList_ofList]
  rfl

theorem isBlankText_strip (text : String) : isBlankText (strip text) = isBlankText text := by
  rw [Bool.eq_iff_iff, ← strip_eq_empty_iff, ← strip_eq_empty_iff, strip_strip]

end Text

namespace Path

/-- A name that is written as it is between slashes. -/
def IsProper (name : String) : Prop := isName name.toList = true ∧ '/' ∉ name.toList

theorem isProper_of_mem_splitNames {cs : List Char} :
    ∀ name ∈ splitNames cs, IsProper name := by
  intro name member
  rcases List.mem_map.1 member with ⟨piece, kept, rfl⟩
  rcases List.mem_filter.1 kept with ⟨piece, isName⟩
  rw [IsProper, String.toList_ofList]
  exact ⟨isName, Text.notMem_of_mem_splitOn piece⟩

theorem splitNames_slash (cs : List Char) : splitNames ('/' :: cs) = splitNames cs := by
  rw [splitNames, splitNames, List.splitOn_cons_eq_if_modifyHead, if_pos (beq_self_eq_true _)]
  rfl

theorem splitNames_anchor (anchor : Anchor) (cs : List Char) :
    splitNames (anchor.chars ++ cs) = splitNames cs := by
  cases anchor with
  | here => rfl
  | root => exact splitNames_slash cs
  | doubleRoot => exact (splitNames_slash _).trans (splitNames_slash cs)

/-- Names that are written between slashes are read back. -/
theorem splitNames_intercalate {names : List String} (proper : ∀ name ∈ names, IsProper name) :
    splitNames (['/'].intercalate (names.map String.toList)) = names := by
  cases names with
  | nil => rfl
  | cons name rest =>
      have apart : ∀ piece ∈ (name :: rest).map String.toList, '/' ∉ piece := by
        rw [List.forall_mem_map]
        intro name member
        exact (proper name member).2
      have kept : ∀ piece ∈ (name :: rest).map String.toList, isName piece = true := by
        rw [List.forall_mem_map]
        intro name member
        exact (proper name member).1
      rw [splitNames, List.splitOn_intercalate '/' apart (by simp), List.filter_eq_self.2 kept,
        List.map_map]
      simp

/-- The anchor is read back if no slash follows it. -/
theorem anchorOf_chars (anchor : Anchor) {cs : List Char} (noSlash : cs.head? ≠ some '/') :
    anchorOf (anchor.chars ++ cs) = anchor := by
  cases cs with
  | nil => cases anchor <;> rfl
  | cons c rest =>
      rw [List.head?_cons, ne_eq, Option.some.injEq] at noSlash
      cases anchor <;> simp [Anchor.chars, anchorOf, noSlash]

theorem head?_intercalate {names : List String} (proper : ∀ name ∈ names, IsProper name) :
    (['/'].intercalate (names.map String.toList)).head? ≠ some '/' := by
  cases names with
  | nil => simp
  | cons name rest =>
      have isName := (proper name List.mem_cons_self).1
      have noSlash := (proper name List.mem_cons_self).2
      cases spelled : name.toList with
      | nil =>
          rw [spelled] at isName
          cases isName
      | cons c cs =>
          rw [spelled, List.mem_cons, not_or] at noSlash
          cases rest <;> simp [spelled, Ne.symm noSlash.1]

/-- A path of proper names is read back as it was. -/
theorem ofString_toString {path : Path} (proper : ∀ name ∈ path.names, IsProper name) :
    ofString path.toString = path := by
  rw [ofString, toList_toString, toChars]
  split
  · rename_i nothing
    rcases path with ⟨anchor, names⟩
    rcases nothing with ⟨rfl, rfl⟩
    rfl
  · rw [ofChars, splitNames_anchor, splitNames_intercalate proper,
      anchorOf_chars path.anchor (head?_intercalate proper)]

theorem ofString_toString_ofString (text : String) :
    ofString (ofString text).toString = ofString text :=
  ofString_toString isProper_of_mem_splitNames

end Path

end Toolset
