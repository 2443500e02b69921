import Toolset.CloneName
import Toolset.Proofs.NormalForms

/-!
# The last part of a source

A clone is named after the last part of its source.  That part is said here without cutting:
it holds no separator, a separator or nothing at all comes before it, and slashes alone come
after it.  Every source has one such part and no other, so the three cuts that look for it may
be forgotten: whatever comes before the last part and however many slashes follow, the name is
that part, less one ending of a bare repository.
-/

namespace Toolset.CloneName

variable {separator : Char} {source cs tail : List Char}

/-- A character that divides the parts of a source. -/
def IsSeparator (c : Char) : Prop := c = '/' ∨ c = ':'

/-- Slashes, and nothing else. -/
def slashes (count : Nat) : List Char := List.replicate count '/'

/-- The last part of a source: nothing divides it, and nothing but slashes follows it. -/
structure IsLastPart (source tail : List Char) : Prop where
  undivided : ∀ c ∈ tail, ¬IsSeparator c
  placed : ∃ before count, source = before ++ tail ++ slashes count ∧
    (∀ c, before.getLast? = some c → IsSeparator c) ∧ (before ++ tail).getLast? ≠ some '/'

/-! ## Cutting at a separator -/

theorem notMem_afterLast (separator : Char) (cs : List Char) :
    separator ∉ afterLast separator cs := by
  intro member
  have kept := List.mem_rtakeWhile_imp (p := (· != separator)) member
  rw [bne_self_eq_false] at kept
  cases kept

/-- What comes before it is nothing, or ends with the separator. -/
theorem exists_append_afterLast (separator : Char) (cs : List Char) :
    ∃ before, cs = before ++ afterLast separator cs ∧
      ∀ c, before.getLast? = some c → c = separator := by
  refine ⟨cs.rdropWhile (· != separator), List.rdropWhile_append_rtakeWhile.symm, ?_⟩
  intro c last
  simpa using Text.of_getLast?_rdropWhile last

theorem afterLast_append (whole : separator ∉ tail) :
    afterLast separator (cs ++ tail) = afterLast separator cs ++ tail := by
  have kept : ∀ c ∈ tail.reverse, (c != separator) = true := by
    intro c member
    rw [bne_iff_ne]
    rintro rfl
    exact whole (List.mem_reverse.1 member)
  rw [afterLast, List.reverse_append, List.takeWhile_append_of_pos kept, List.reverse_append,
    List.reverse_reverse]
  rfl

theorem afterLast_concat (separator : Char) (cs : List Char) :
    afterLast separator (cs ++ [separator]) = [] := by
  simp [afterLast]

/-! ## Slashes at the end -/

theorem dropSlashes_append_slashes (cs : List Char) (count : Nat) :
    dropSlashes (cs ++ slashes count) = dropSlashes cs := by
  have dropped : ∀ c ∈ (slashes count).reverse, (c == '/') = true := by
    intro c member
    rw [List.mem_reverse] at member
    rw [List.eq_of_mem_replicate member]
    rfl
  rw [dropSlashes, List.reverse_append, List.dropWhile_append_of_pos dropped]
  rfl

theorem exists_dropSlashes_append (cs : List Char) :
    ∃ count, cs = dropSlashes cs ++ slashes count := by
  have taken : ∀ c ∈ cs.rtakeWhile (· == '/'), c = '/' := by
    intro c member
    exact beq_iff_eq.1 (List.mem_rtakeWhile_imp (p := (· == '/')) member)
  refine ⟨(cs.rtakeWhile (· == '/')).length, ?_⟩
  rw [slashes, ← List.eq_replicate_iff.2 ⟨rfl, taken⟩]
  exact List.rdropWhile_append_rtakeWhile.symm

theorem getLast?_dropSlashes_ne (cs : List Char) : (dropSlashes cs).getLast? ≠ some '/' := by
  intro last
  change (cs.rdropWhile (· == '/')).getLast? = some '/' at last
  cases Text.of_getLast?_rdropWhile last

theorem dropSlashes_of_getLast?_ne (unslashed : cs.getLast? ≠ some '/') : dropSlashes cs = cs := by
  apply List.rdropWhile_eq_self_iff.2
  intro some dropped
  rw [List.getLast?_eq_some_getLast some] at unslashed
  exact unslashed (congrArg Option.some (beq_iff_eq.1 dropped))

/-! ## The last part -/

/-- What the three cuts leave of a source. -/
def lastPart (source : List Char) : List Char :=
  afterLast ':' (afterLast '/' (dropSlashes source))

/-- The three cuts find the last part of every source. -/
theorem isLastPart_lastPart (source : List Char) : IsLastPart source (lastPart source) := by
  obtain ⟨count, ended⟩ := exists_dropSlashes_append source
  obtain ⟨first, split, firstEnds⟩ := exists_append_afterLast '/' (dropSlashes source)
  obtain ⟨second, splitToo, secondEnds⟩ :=
    exists_append_afterLast ':' (afterLast '/' (dropSlashes source))
  have cut : dropSlashes source = first ++ second ++ lastPart source := by
    rw [lastPart, List.append_assoc, ← splitToo, ← split]
  constructor
  · rintro c member (rfl | rfl)
    · apply notMem_afterLast '/' (dropSlashes source)
      rw [splitToo]
      exact List.mem_append_right second member
    · exact notMem_afterLast ':' _ member
  · refine ⟨first ++ second, count, ?_, ?_, ?_⟩
    · rw [← cut]
      exact ended
    · intro c last
      rw [List.getLast?_append] at last
      cases secondLast : second.getLast? with
      | none =>
          rw [secondLast] at last
          exact .inl (firstEnds c last)
      | some other =>
          rw [secondLast] at last
          cases last
          exact .inr (secondEnds c secondLast)
    · rw [← cut]
      exact getLast?_dropSlashes_ne source

/-- What they find is the only one. -/
theorem IsLastPart.lastPart_eq (part : IsLastPart source tail) : lastPart source = tail := by
  obtain ⟨before, count, rfl, divided, unslashed⟩ := part.placed
  have noSlash : '/' ∉ tail := fun member => part.undivided _ member (.inl rfl)
  have noColon : ':' ∉ tail := fun member => part.undivided _ member (.inr rfl)
  rw [lastPart, dropSlashes_append_slashes, dropSlashes_of_getLast?_ne unslashed,
    afterLast_append noSlash, afterLast_append noColon]
  obtain rfl | ⟨above, last, rfl⟩ := List.eq_nil_or_concat' before
  · rfl
  · obtain rfl | rfl := divided last List.getLast?_concat
    · rw [afterLast_concat]
      rfl
    -- a colon is no slash, so the first cut leaves it
    · rw [afterLast_append (by decide), afterLast_concat]
      rfl

/-- What follows a separator, and has nothing but slashes after it, is the last part. -/
theorem isLastPart_append {before : List Char} (divides : IsSeparator separator)
    (undivided : ∀ c ∈ tail, ¬IsSeparator c) (some : tail ≠ []) (count : Nat) :
    IsLastPart (before ++ [separator] ++ tail ++ slashes count) tail where
  undivided := undivided
  placed := by
    refine ⟨before ++ [separator], count, rfl, ?_, ?_⟩
    · intro c last
      rw [List.getLast?_concat] at last
      cases last
      exact divides
    · intro last
      rw [List.getLast?_append_of_ne_nil _ some] at last
      exact undivided '/' (List.mem_of_getLast? last) (.inl rfl)

/-! ## The ending of a bare repository -/

theorem dropGit_append (name : List Char) : dropGit (name ++ gitEnding) = name := by
  rw [dropGit, if_pos (by simp), List.length_append, Nat.add_sub_cancel, List.take_left]

theorem dropGit_of_not_isSuffix (other : ¬gitEnding <:+ tail) : dropGit tail = tail := by
  rw [dropGit, if_neg (by rwa [List.isSuffixOf_iff_suffix])]

theorem dropGit_cases (tail : List Char) :
    tail = dropGit tail ++ gitEnding ∨ tail = dropGit tail ∧ ¬gitEnding <:+ tail := by
  by_cases ending : gitEnding <:+ tail
  · obtain ⟨name, rfl⟩ := ending
    left
    rw [dropGit_append]
  · exact .inr ⟨(dropGit_of_not_isSuffix ending).symm, ending⟩

theorem not_isSeparator_of_mem_gitEnding : ∀ c ∈ gitEnding, ¬IsSeparator c := by
  simp [gitEnding, IsSeparator]

/-! ## The name -/

theorem IsLastPart.ofChars_eq (part : IsLastPart source tail) : ofChars source = dropGit tail := by
  rw [← part.lastPart_eq, lastPart, ofChars]

theorem lastPart_cases (source : List Char) : lastPart source = ofChars source ++ gitEnding ∨
    lastPart source = ofChars source ∧ ¬gitEnding <:+ ofChars source := by
  rw [(isLastPart_lastPart source).ofChars_eq]
  obtain dropped | ⟨same, other⟩ := dropGit_cases (lastPart source)
  · exact .inl dropped
  · exact .inr ⟨same, same ▸ other⟩

theorem ofChars_append_slashes (source : List Char) (count : Nat) :
    ofChars (source ++ slashes count) = ofChars source := by
  rw [ofChars, dropSlashes_append_slashes, ofChars]

/-- A source with slashes after it. -/
def followed (source : String) (count : Nat) : String := source ++ String.ofList (slashes count)

theorem toList_followed (source : String) (count : Nat) :
    (followed source count).toList = source.toList ++ slashes count := by
  rw [followed, String.toList_append, String.toList_ofList]

/-- A source that ends with a name, which a separator divides from what comes before. -/
theorem ofSource_of_append {before tail : String} (divides : IsSeparator separator)
    (undivided : ∀ c ∈ tail.toList, ¬IsSeparator c) (some : tail.toList ≠ []) (count : Nat) :
    ofSource (followed (before ++ separator.toString ++ tail) count) =
      String.ofList (dropGit tail.toList) := by
  have part : IsLastPart (before.toList ++ [separator] ++ tail.toList ++ slashes count)
      tail.toList := isLastPart_append divides undivided some count
  rw [ofSource, toList_followed, String.toList_append, String.toList_append,
    Char.toString_eq_singleton, String.toList_singleton, part.ofChars_eq]

/-- What the name of a clone is like, whatever its source. -/
structure Named (source : String) : Prop where
  undivided : ∀ c ∈ (ofSource source).toList, ¬IsSeparator c
  unmoved : ∀ count, ofSource (followed source count) = ofSource source
  /-- The name ends what is left without slashes, or did so before its ending was dropped. -/
  ends : ∃ trimmed count, source = followed trimmed count ∧ trimmed.toList.getLast? ≠ some '/' ∧
    ((ofSource source).toList <:+ trimmed.toList ∧ ¬gitEnding <:+ (ofSource source).toList ∨
      (ofSource source).toList ++ gitEnding <:+ trimmed.toList)

theorem named (source : String) : Named source where
  undivided := by
    rw [ofSource, String.toList_ofList]
    intro c member
    apply (isLastPart_lastPart source.toList).undivided
    obtain dropped | ⟨same, _⟩ := lastPart_cases source.toList
    · rw [dropped]
      exact List.mem_append_left gitEnding member
    · rwa [same]
  unmoved := by
    intro count
    rw [ofSource, toList_followed, ofChars_append_slashes, ofSource]
  ends := by
    obtain ⟨before, count, whole, _, unslashed⟩ := (isLastPart_lastPart source.toList).placed
    rw [ofSource, String.toList_ofList]
    refine ⟨String.ofList (before ++ lastPart source.toList), count, ?_, ?_, ?_⟩
    · rw [← String.toList_inj, toList_followed, String.toList_ofList]
      exact whole
    · rwa [String.toList_ofList]
    · rw [String.toList_ofList]
      obtain dropped | ⟨same, other⟩ := lastPart_cases source.toList
      · right
        rw [← dropped]
        exact List.suffix_append before _
      · left
        rw [← same]
        exact ⟨List.suffix_append before _, same ▸ other⟩

/-- A source gives its clone the name that it ends with, with the ending of a bare repository
and without it, whatever comes before and however many slashes follow; and this is what the
name of a clone is like for every source. -/
theorem ofSource_named :
    (∀ (before name : String) (separator : Char) (count : Nat), IsSeparator separator →
      name ≠ "" → (∀ c ∈ name.toList, ¬IsSeparator c) →
      ofSource (followed (before ++ separator.toString ++ (name ++ ".git")) count) = name ∧
        (¬gitEnding <:+ name.toList →
          ofSource (followed (before ++ separator.toString ++ name) count) = name)) ∧
    ∀ source, Named source := by
  refine ⟨?_, named⟩
  intro before name separator count divides notEmpty undivided
  have some : name.toList ≠ [] := by
    rwa [ne_eq, String.toList_eq_nil_iff]
  have bare : (name ++ ".git").toList = name.toList ++ gitEnding := String.toList_append
  constructor
  · rw [ofSource_of_append divides _ _ count, bare, dropGit_append, String.ofList_toList]
    · rw [bare, List.forall_mem_append]
      exact ⟨undivided, not_isSeparator_of_mem_gitEnding⟩
    · rw [bare]
      exact List.append_ne_nil_of_left_ne_nil some gitEnding
  · intro other
    rw [ofSource_of_append divides undivided some count, dropGit_of_not_isSuffix other,
      String.ofList_toList]

/-- Of a source in the short form, with a dotted name that is written with the ending twice, and
slashes after it; and of a source without the ending. -/
theorem ofSource_named_dotted :
    ofSource (followed ("git@example.test" ++ ':'.toString ++ ("v1.git" ++ ".git")) 2) = "v1.git" ∧
      ofSource (followed ("https://example.test" ++ '/'.toString ++ "v1.2") 1) = "v1.2" ∧
      Named "git@example.test:v1.git.git//" :=
  ⟨(ofSource_named.1 "git@example.test" "v1.git" ':' 2 (.inr rfl) (by decide)
      (by simp [IsSeparator])).1,
    (ofSource_named.1 "https://example.test" "v1.2" '/' 1 (.inl rfl) (by decide)
      (by simp [IsSeparator])).2 (by decide),
    ofSource_named.2 _⟩

end Toolset.CloneName
