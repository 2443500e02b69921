import Toolset.Decimal.Fixed
import Toolset.Decimal.Literal

/-!
# A number of significant digits

A number is rounded to so many digits, wherever its point is; a half goes to the
even neighbour.  It is written with an exponent, or with its point in place if
that is near.
-/

namespace Toolset.Decimal

/-- The digits of a positive number, rounded to so many, and the exponent of
the first. -/
def Binary.significant (b : Binary) (count : Nat) : Nat × Int :=
  let top := magnitude b
  let step := top + 1 - count
  let (num, den) := b.quotient
  let n := roundDiv (num * tenTo (-step).toNat) (den * tenTo step.toNat)
  if n < tenTo count then (n, top) else (n / 10, top + 1)

def pointed : List Char → List Char
  | [] => []
  | [first] => [first]
  | first :: rest => first :: '.' :: rest

/-- A magnitude with an exponent and so many digits after the point. -/
def Binary.scientific (b : Binary) (places : Nat) : List Char :=
  let (n, e) := if b.mantissa = 0 then (0, 0) else b.significant (places + 1)
  let digits := Nat.toDigits 10 n
  pointed (List.replicate (places + 1 - digits.length) '0' ++ digits) ++ 'e' :: exponentText e

/-- Drop the zeros after the point, and the point if nothing is left there. -/
def dropEnd (cs : List Char) : List Char :=
  if cs.contains '.' then
    match cs.reverse.dropWhile (· == '0') with
    | '.' :: rest => rest.reverse
    | rest => rest.reverse
  else cs

/-- A magnitude in so many digits; the exponent decides whether it is written.
Zeros at the end are kept only if asked for. -/
def Binary.general (b : Binary) (count : Nat) (keeps : Bool) : List Char :=
  let count := max count 1
  let (_, e) := if b.mantissa = 0 then (0, 0) else b.significant count
  let trim := fun (cs : List Char) => if keeps then cs else dropEnd cs
  if -4 ≤ e ∧ e < count then
    let places := ((count : Int) - 1 - e).toNat
    trim (placed (b.units places) places)
  else
    let cs := b.scientific (count - 1)
    trim (cs.takeWhile (· != 'e')) ++ cs.dropWhile (· != 'e')

end Toolset.Decimal
