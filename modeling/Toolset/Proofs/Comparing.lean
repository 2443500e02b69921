import Mathlib.Algebra.Order.Ring.Int
import Mathlib.Data.Nat.Cast.Order.Ring
import Mathlib.Data.Prod.Lex
import Mathlib.Order.Compare
import Toolset.Decimal.Binary

/-!
# The order of numbers

Each number has a rank, and numbers compare as their ranks do.  What is not a number compares
with nothing.
-/

namespace Toolset.Decimal

open Float.Model (UnpackedFloat)

/-- The rank of a number in parts: its sign and whether it is finite, then its exponent and its
mantissa.  Both zeros have one rank. -/
def rankOf : UnpackedFloat → ℤ ×ₗ (ℤ ×ₗ ℤ)
  | .infinity .negative => toLex (-2, toLex (0, 0))
  | .finite .negative mantissa exponent _ => toLex (-1, toLex (-exponent, -mantissa))
  | .finite .positive mantissa exponent _ => toLex (1, toLex (exponent, mantissa))
  | .infinity .positive => toLex (2, toLex (0, 0))
  | .zero _ | .notANumber => toLex (0, toLex (0, 0))

/-- The rank of a number; that of what is not a number is not looked at. -/
def rank (x : Float) : ℤ ×ₗ (ℤ ×ₗ ℤ) := rankOf x.toModel.unpack

theorem compare_toLex (sign exponent exponent' mantissa mantissa' : ℤ) :
    compare (toLex (sign, toLex (exponent, mantissa)))
        (toLex (sign, toLex (exponent', mantissa'))) =
      (compare exponent exponent').then (compare mantissa mantissa') := by
  rw [Prod.Lex.compare_def, compareLex, compareOn, compareOn]
  change (compare sign sign).then (compare (toLex (exponent, mantissa)) (toLex (exponent', _))) = _
  rw [compare_eq_iff_eq.2 rfl, Prod.Lex.compare_def]
  rfl

theorem compare_natCast (m n : ℕ) : compare (m : ℤ) n = compare m n := by
  rw [← cmp_eq_compare, ← cmp_eq_compare]
  exact Nat.strictMono_cast.cmp_map_eq m n

theorem compare_neg_neg (m n : ℤ) : compare (-m) (-n) = (compare m n).swap := by
  have turns : StrictAnti (Neg.neg : ℤ → ℤ) := fun _ _ less => neg_lt_neg less
  rw [← cmp_eq_compare, ← cmp_eq_compare, cmp_swap]
  exact turns.cmp_map_eq m n

/-- Numbers compare as their ranks do. -/
theorem compare_rankOf {a b : UnpackedFloat} (isNumber : a.isNaN = false)
    (isNumber' : b.isNaN = false) : a.compare b = some (compare (rankOf a) (rankOf b)) := by
  cases a with
  | notANumber => cases isNumber
  | infinity sign =>
      cases b with
      | notANumber => cases isNumber'
      | infinity sign' => cases sign <;> cases sign' <;> rfl
      | zero => cases sign <;> rfl
      | finite sign' => cases sign <;> cases sign' <;> rfl
  | zero =>
      cases b with
      | notANumber => cases isNumber'
      | infinity sign' => cases sign' <;> rfl
      | zero => rfl
      | finite sign' => cases sign' <;> rfl
  | finite sign mantissa exponent =>
      cases b with
      | notANumber => cases isNumber'
      | infinity sign' => cases sign <;> cases sign' <;> rfl
      | zero => cases sign <;> rfl
      | finite sign' mantissa' exponent' =>
          -- of one sign the exponents decide, then the mantissas
          cases sign with
          | negative =>
              cases sign' with
              | negative =>
                  have ranks :=
                    compare_toLex (-1) (-exponent) (-exponent') (-mantissa) (-mantissa')
                  rw [compare_neg_neg, compare_neg_neg, compare_natCast, ← Ordering.swap_then]
                    at ranks
                  exact congrArg some ranks.symm
              | positive => rfl
          | positive =>
              cases sign' with
              | negative => rfl
              | positive =>
                  have ranks := compare_toLex 1 exponent exponent' mantissa mantissa'
                  rw [compare_natCast] at ranks
                  exact congrArg some ranks.symm

/-- A comparison passes a test if it is one of two numbers, and that of their ranks passes. -/
theorem any_compare_iff {a b : UnpackedFloat} {test : Ordering → Bool} :
    (a.compare b).any test = true ↔
      a.isNaN = false ∧ b.isNaN = false ∧ test (compare (rankOf a) (rankOf b)) = true := by
  cases first : a.isNaN with
  | true =>
      have nothing : a.compare b = none := by
        cases a <;> cases b <;> cases first <;> rfl
      simp [nothing]
  | false =>
      cases second : b.isNaN with
      | true =>
          have nothing : a.compare b = none := by
            cases a <;> cases b <;> cases second <;> rfl
          simp [nothing]
      | false => simp [compare_rankOf first second]

variable {x y z : Float}

theorem le_iff : x ≤ y ↔ x.isNaN = false ∧ y.isNaN = false ∧ rank x ≤ rank y := by
  change decide (Option.any _ (x.toModel.unpack.compare y.toModel.unpack) = true) = true ↔ _
  rw [decide_eq_true_eq, any_compare_iff, Ordering.isLE_iff_ne_gt, compare_gt_iff_gt, not_lt]
  rfl

theorem lt_iff : x < y ↔ x.isNaN = false ∧ y.isNaN = false ∧ rank x < rank y := by
  have below (found : Option Ordering) : (found == some .lt) = found.any (· == .lt) := by
    cases found <;> rfl
  change decide ((x.toModel.unpack.compare y.toModel.unpack == some .lt) = true) = true ↔ _
  rw [decide_eq_true_eq, below, any_compare_iff, beq_iff_eq, compare_lt_iff_lt]
  rfl

theorem le_of_le_of_le (first : x ≤ y) (second : y ≤ z) : x ≤ z := by
  rw [le_iff] at first second ⊢
  exact ⟨first.1, second.2.1, first.2.2.trans second.2.2⟩

theorem lt_iff_not_le (isNumber : y.isNaN = false) : y < x ↔ x.isNaN = false ∧ ¬x ≤ y := by
  rw [lt_iff, le_iff, ← not_le]
  simp only [isNumber]
  tauto

end Toolset.Decimal
