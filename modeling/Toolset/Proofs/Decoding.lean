import Mathlib.Algebra.Group.Nat.Defs
import Toolset.Text.Utf8

/-!
# Decoding line by line

A character that is begun goes on with bytes beyond ASCII only, and is itself beyond
ASCII.  So a line feed always ends what was begun, and nothing but a line feed is read as
one.  Hence bytes may be cut at their line feeds and decoded piece by piece: the pieces,
joined again, are the bytes decoded whole.
-/

namespace Toolset.Text

/-! ## Characters that are begun -/

/-- The least code point that a character begun can still come to. -/
def Partial.least (held : Partial) : Nat :=
  (held.bits * 64 + (held.low.toNat - 0x80)) * 64 ^ (held.owed - 1)

/-- What is held between two bytes of a character: neither the next byte nor the character
is one of ASCII. -/
structure Partial.IsBegun (held : Partial) : Prop where
  low_ge : 0x80 ≤ held.low.toNat
  least_ge : 0x80 ≤ held.least

theorem isBegun_of_lead {b : UInt8} {start : Partial} (begins : lead b = .begins start) :
    start.IsBegun := by
  revert begins
  fun_cases lead b
  all_goals
    intro begins
    cases begins
  all_goals
    constructor
    · dsimp only
      decide
    · simp only [Partial.least, UInt8.reduceToNat, UInt8.lt_iff_toNat_lt, UInt8.le_iff_toNat_le,
        beq_iff_eq, ← UInt8.toNat_inj] at *
      omega

theorem isBegun_of_fresh {b : UInt8} {start : Partial} (begins : (fresh b).2 = some start) :
    start.IsBegun := by
  rw [fresh] at begins
  cases leads : lead b with
  | character c => simp [leads] at begins
  | refused => simp [leads] at begins
  | begins other =>
      simp only [leads, Option.some.injEq] at begins
      subst begins
      exact isBegun_of_lead leads

/-- Each byte of a character brings it no further down. -/
theorem least_le (held : Partial) {b : UInt8} (inRange : held.low ≤ b) :
    held.least ≤ (held.bits * 64 + (b.toNat - 0x80)) * 64 ^ (held.owed - 1) := by
  apply Nat.mul_le_mul_right
  have least := UInt8.le_iff_toNat_le.1 inRange
  omega

/-- What is held after a byte is a character begun, if what was held before was one. -/
theorem isBegun_of_accept {held : Option Partial} {b : UInt8} {next : Partial}
    (begun : ∀ start ∈ held, start.IsBegun) (holds : (accept held b).2 = some next) :
    next.IsBegun := by
  cases held with
  | none => exact isBegun_of_fresh holds
  | some start =>
      have isBegun := begun start rfl
      rw [accept] at holds
      split at holds
      · rename_i inRange
        have least := least_le start inRange.1
        split at holds
        · cases holds
        · rename_i owes
          simp only [Option.some.injEq] at holds
          subst holds
          have more : start.owed - 1 = start.owed - 1 - 1 + 1 := by omega
          constructor
          · dsimp only
            decide
          · calc 0x80 ≤ start.least := isBegun.least_ge
              _ ≤ (start.bits * 64 + (b.toNat - 0x80)) * 64 ^ (start.owed - 1) := least
              _ = (start.bits * 64 + (b.toNat - 0x80)) * 64 * 64 ^ (start.owed - 1 - 1) := by
                rw [more, Nat.pow_succ', Nat.mul_assoc, Nat.add_sub_cancel]
              _ = Partial.least _ := by simp [Partial.least]
      · exact isBegun_of_fresh holds

/-! ## Line feeds -/

theorem decodeFrom_cons (held : Option Partial) (b : UInt8) (rest : List UInt8) :
    decodeFrom held (b :: rest) = (accept held b).1 ++ decodeFrom (accept held b).2 rest := by
  cases held <;> rfl

theorem ofNat_ne_newline {code : Nat} (notLineFeed : code ≠ 10) : Char.ofNat code ≠ '\n' := by
  intro equal
  have same := congrArg Char.toNat equal
  rw [Char.ofNat] at same
  by_cases valid : code.isValidChar
  · rw [dif_pos valid] at same
    exact notLineFeed same
  · rw [dif_neg valid] at same
    cases same

theorem newline_notMem_fresh {b : UInt8} (notLineFeed : b ≠ 10) : '\n' ∉ (fresh b).1 := by
  have code : b.toNat ≠ 10 := fun equal => notLineFeed (UInt8.toNat_inj.1 equal)
  rw [fresh]
  fun_cases lead b <;> simp [replacement, (ofNat_ne_newline code).symm]

/-- Only a line feed is read as one. -/
theorem newline_notMem_accept {held : Option Partial} {b : UInt8}
    (begun : ∀ start ∈ held, start.IsBegun) (notLineFeed : b ≠ 10) :
    '\n' ∉ (accept held b).1 := by
  cases held with
  | none => exact newline_notMem_fresh notLineFeed
  | some start =>
      rw [accept]
      split
      · rename_i inRange
        split
        · rename_i last
          have beyond := Nat.le_trans (begun start rfl).least_ge (least_le start inRange.1)
          have single : start.owed - 1 = 0 := by omega
          rw [single, Nat.pow_zero, Nat.mul_one] at beyond
          have code : start.bits * 64 + (b.toNat - 0x80) ≠ 10 := by omega
          simp [(ofNat_ne_newline code).symm]
        · simp
      · have fresh := newline_notMem_fresh notLineFeed
        simp [replacement, fresh]

theorem newline_notMem_decodeFrom {held : Option Partial} {bytes : List UInt8}
    (begun : ∀ start ∈ held, start.IsBegun) (noLineFeed : 10 ∉ bytes) :
    '\n' ∉ decodeFrom held bytes := by
  induction bytes generalizing held with
  | nil => cases held <;> simp [decodeFrom, replacement]
  | cons b rest ih =>
      rw [List.mem_cons, not_or] at noLineFeed
      have here := newline_notMem_accept begun (Ne.symm noLineFeed.1)
      have there : '\n' ∉ decodeFrom (accept held b).2 rest := ih
        (fun next holds => isBegun_of_accept begun holds) noLineFeed.2
      rw [decodeFrom_cons, List.mem_append, not_or]
      exact ⟨here, there⟩

theorem newline_notMem_decode {bytes : List UInt8} (noLineFeed : 10 ∉ bytes) :
    '\n' ∉ decode bytes :=
  newline_notMem_decodeFrom (by simp) noLineFeed

/-- A line feed ends what was begun, and what follows is decoded afresh. -/
theorem decodeFrom_append_newline {held : Option Partial} (begun : ∀ start ∈ held, start.IsBegun)
    (line rest : List UInt8) :
    decodeFrom held (line ++ 10 :: rest) = decodeFrom held line ++ '\n' :: decode rest := by
  induction line generalizing held with
  | nil =>
      cases held with
      | none => rfl
      | some start =>
          have low := (begun start rfl).low_ge
          have outside : ¬(start.low ≤ 10 ∧ 10 ≤ start.high) := by
            rw [UInt8.le_iff_toNat_le]
            intro inRange
            have least : start.low.toNat ≤ 10 := inRange.1
            omega
          rw [List.nil_append, decodeFrom_cons, accept, if_neg outside]
          rfl
  | cons b line ih =>
      have later : decodeFrom (accept held b).2 (line ++ 10 :: rest) =
          decodeFrom (accept held b).2 line ++ '\n' :: decode rest :=
        ih fun next holds => isBegun_of_accept begun holds
      rw [List.cons_append, decodeFrom_cons, decodeFrom_cons, List.append_assoc, later]

/-- Pieces that line feeds join are decoded one by one. -/
theorem decode_intercalate (pieces : List (List UInt8)) :
    decode ([10].intercalate pieces) = ['\n'].intercalate (pieces.map decode) := by
  induction pieces with
  | nil => rfl
  | cons piece others ih =>
      cases others with
      | nil => simp
      | cons next rest =>
          rw [List.map_cons, List.map_cons, List.intercalate_cons_cons,
            List.intercalate_cons_cons, ← List.map_cons, ← ih, List.append_assoc,
            List.append_assoc]
          exact decodeFrom_append_newline (by simp) _ _

/-- A byte that writes nothing begins a character or goes on with one. -/
theorem holds_of_accept {held : Option Partial} {b : UInt8} (unwritten : (accept held b).1 = []) :
    ∃ next, (accept held b).2 = some next := by
  have begins_of_fresh (unwritten : (fresh b).1 = []) : ∃ next, (fresh b).2 = some next := by
    rw [fresh] at unwritten ⊢
    cases leads : lead b with
    | character c => simp [leads] at unwritten
    | refused => simp [leads] at unwritten
    | begins start => exact ⟨start, rfl⟩
  cases held with
  | none => exact begins_of_fresh unwritten
  | some start =>
      rw [accept] at unwritten ⊢
      split
      · rename_i inRange
        rw [if_pos inRange] at unwritten
        split
        · rename_i last
          simp [last] at unwritten
        · exact ⟨_, rfl⟩
      · rename_i outside
        simp [outside] at unwritten

theorem decodeFrom_some_ne_nil (start : Partial) (bytes : List UInt8) :
    decodeFrom (some start) bytes ≠ [] := by
  induction bytes generalizing start with
  | nil => simp [decodeFrom]
  | cons b rest ih =>
      rw [decodeFrom_cons]
      intro none
      obtain ⟨unwritten, nothing⟩ := List.append_eq_nil_iff.1 none
      obtain ⟨next, holds⟩ := holds_of_accept unwritten
      rw [holds] at nothing
      exact ih next nothing

theorem decode_eq_nil_iff {bytes : List UInt8} : decode bytes = [] ↔ bytes = [] := by
  cases bytes with
  | nil => simp [decode, decodeFrom]
  | cons b rest =>
      refine iff_of_false ?_ (List.cons_ne_nil b rest)
      rw [decode, decodeFrom_cons]
      intro none
      obtain ⟨unwritten, nothing⟩ := List.append_eq_nil_iff.1 none
      obtain ⟨next, holds⟩ := holds_of_accept unwritten
      rw [holds] at nothing
      exact decodeFrom_some_ne_nil next rest nothing

/-! ## A text without its last line feed -/

/-- The characters without the line feed at their end, if there is one. -/
def chomp (cs : List Char) : List Char :=
  if cs.getLast? = some '\n' then cs.dropLast else cs

/-- Pieces without the last one, if that is empty: a line feed ends a line and begins
none. -/
def withoutEmptyLast {α : Type} : List (List α) → List (List α)
  | [] => []
  | [piece] => if piece.isEmpty then [] else [piece]
  | piece :: next :: rest => piece :: withoutEmptyLast (next :: rest)

theorem withoutEmptyLast_eq_nil_iff {α : Type} (piece : List α) (others : List (List α)) :
    withoutEmptyLast (piece :: others) = [] ↔ piece = [] ∧ others = [] := by
  cases others with
  | nil => cases piece <;> simp [withoutEmptyLast]
  | cons next rest => simp [withoutEmptyLast]

/-- Decoding tells whether the last piece is empty. -/
theorem map_decode_withoutEmptyLast (pieces : List (List UInt8)) :
    (withoutEmptyLast pieces).map decode = withoutEmptyLast (pieces.map decode) := by
  induction pieces with
  | nil => rfl
  | cons piece others ih =>
      cases others with
      | cons next rest =>
          rw [withoutEmptyLast, List.map_cons, ih]
          rfl
      | nil =>
          cases piece with
          | nil => rfl
          | cons b rest =>
              have written : (decode (b :: rest)).isEmpty = false := by
                rw [List.isEmpty_eq_false_iff, ne_eq, decode_eq_nil_iff]
                exact List.cons_ne_nil b rest
              simp [withoutEmptyLast, written]

theorem chomp_of_notMem {cs : List Char} (unbroken : '\n' ∉ cs) : chomp cs = cs := by
  rw [chomp, if_neg]
  intro last
  exact unbroken (List.mem_of_getLast? last)

theorem chomp_append {before cs : List Char} (some : cs ≠ []) :
    chomp (before ++ cs) = before ++ chomp cs := by
  obtain ⟨init, last, whole⟩ := (List.eq_nil_or_concat cs).resolve_left some
  rw [whole, List.concat_eq_append, chomp, chomp, ← List.append_assoc, List.getLast?_concat,
    List.getLast?_concat, List.dropLast_concat, List.dropLast_concat]
  split
  · rfl
  · rw [List.append_assoc]

theorem intercalate_eq_nil_iff (c : Char) (piece : List Char) (others : List (List Char)) :
    [c].intercalate (piece :: others) = [] ↔ piece = [] ∧ others = [] := by
  cases others with
  | nil => simp
  | cons next rest => simp [List.intercalate_cons_cons]

/-- Joined pieces without the line feed at their end are the lines joined. -/
theorem chomp_intercalate {pieces : List (List Char)}
    (unbroken : ∀ piece ∈ pieces, '\n' ∉ piece) :
    chomp (['\n'].intercalate pieces) = ['\n'].intercalate (withoutEmptyLast pieces) := by
  induction pieces with
  | nil => rfl
  | cons piece others ih =>
      rw [List.forall_mem_cons] at unbroken
      cases others with
      | nil =>
          rw [List.intercalate_singleton, chomp_of_notMem unbroken.1]
          cases piece <;> simp [withoutEmptyLast]
      | cons next rest =>
          have later := ih unbroken.2
          rw [List.intercalate_cons_cons, withoutEmptyLast]
          cases lines : withoutEmptyLast (next :: rest) with
          | nil =>
              -- a line feed is all that follows the piece
              obtain ⟨rfl, rfl⟩ := (withoutEmptyLast_eq_nil_iff next rest).1 lines
              simp [chomp]
          | cons line others =>
              have some : ['\n'].intercalate (next :: rest) ≠ [] := by
                rw [ne_eq, intercalate_eq_nil_iff, ← withoutEmptyLast_eq_nil_iff, lines]
                exact List.cons_ne_nil line others
              rw [List.intercalate_cons_cons, ← lines, ← later]
              exact chomp_append some

theorem notMem_of_mem_splitOn {α : Type} [BEq α] [LawfulBEq α] {separator : α}
    {whole piece : List α} (member : piece ∈ whole.splitOn separator) : separator ∉ piece := by
  induction whole generalizing piece with
  | nil =>
      rw [List.splitOn_nil, List.mem_singleton] at member
      simp [member]
  | cons first rest ih =>
      rw [List.splitOn_cons_eq_if_modifyHead] at member
      split at member
      · rcases List.mem_cons.1 member with rfl | member
        · exact List.not_mem_nil
        · exact ih member
      · rename_i other
        obtain ⟨head, tail, pieces⟩ :=
          List.exists_cons_of_ne_nil (List.splitOn_ne_nil separator rest)
        rw [pieces, List.modifyHead_cons] at member
        rw [pieces] at ih
        rcases List.mem_cons.1 member with rfl | member
        · rw [List.mem_cons, not_or]
          exact ⟨fun equal => other (beq_iff_eq.2 equal.symm), ih List.mem_cons_self⟩
        · exact ih (List.mem_cons_of_mem head member)

/-- Bytes that are cut at line feeds and decoded line by line are the bytes decoded whole,
but for the line feed at the end. -/
theorem intercalate_map_decode (bytes : List UInt8) :
    ['\n'].intercalate ((withoutEmptyLast (bytes.splitOn 10)).map decode) =
      chomp (decode bytes) := by
  have unbroken : ∀ piece ∈ (bytes.splitOn 10).map decode, '\n' ∉ piece := by
    rw [List.forall_mem_map]
    intro piece member
    exact newline_notMem_decode (notMem_of_mem_splitOn member)
  rw [map_decode_withoutEmptyLast, ← chomp_intercalate unbroken, ← decode_intercalate,
    List.intercalate_splitOn]

end Toolset.Text
