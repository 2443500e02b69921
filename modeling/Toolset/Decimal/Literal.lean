import Toolset.Decimal.Shortest

/-!
# How a number is shown

The digits are the fewest that read back.  Numbers from `0.0001` up to but not
including ten to the sixteenth are written out, with at least one digit on each
side of the point; others are written with an exponent of at least two digits.
-/

namespace Toolset.Decimal

/-- Numbers below ten to this power are written with an exponent. -/
def leastPlain : Int := -4

/-- Numbers from ten to this power on are written with an exponent. -/
def firstLarge : Int := 16

/-- An exponent: its sign, and at least two digits. -/
def exponentText (e : Int) : List Char :=
  let digits := Nat.toDigits 10 e.natAbs
  (if e < 0 then '-' else '+') :: (if digits.length < 2 then '0' :: digits else digits)

/-- Digits with the point in its place. -/
def Digits.layout (d : Digits) : List Char :=
  let e := d.point - 1
  if leastPlain ≤ e ∧ e < firstLarge then
    if d.point ≤ 0 then
      '0' :: '.' :: (List.replicate (-d.point).toNat '0' ++ d.digits)
    else
      let whole := d.digits.take d.point.toNat
      let part := d.digits.drop d.point.toNat
      whole ++ List.replicate (d.point.toNat - whole.length) '0' ++
        '.' :: (if part.isEmpty then ['0'] else part)
  else
    d.digits.take 1 ++ (if d.digits.length ≤ 1 then [] else '.' :: d.digits.drop 1) ++
      'e' :: exponentText e

/-- A number as it is shown. -/
def literal (x : Float) : String :=
  match shape x with
  | .nan => "nan"
  | .infinite negative => if negative then "-inf" else "inf"
  | .finite negative b =>
      let plain := if b.mantissa = 0 then ['0', '.', '0'] else (shortest b).layout
      String.ofList (if negative then '-' :: plain else plain)

example : literal 12.5 = "12.5" ∧ literal 600 = "600.0" ∧ literal 0.00001 = "1e-05" ∧
    literal 1e16 = "1e+16" ∧ literal (-0.0) = "-0.0" := by decide +kernel

end Toolset.Decimal
