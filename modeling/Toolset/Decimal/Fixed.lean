import Toolset.Decimal.Binary

/-!
# A fixed number of places

Durations are shown to a tenth or rounded to hundredths.  The exact value is
rounded, once, and a half goes to the even neighbour.
-/

namespace Toolset.Decimal

/-- A magnitude in units of the last of so many places, rounded. -/
def Binary.units (b : Binary) (places : Nat) : Nat :=
  let (num, den) := b.quotient
  roundDiv (num * tenTo places) den

/-- A number of units with the point so many places from the right. -/
def placed (units places : Nat) : List Char :=
  let digits := Nat.toDigits 10 units
  let padded := List.replicate (places + 1 - digits.length) '0' ++ digits
  let whole := padded.length - places
  padded.take whole ++ (if places = 0 then [] else '.' :: padded.drop whole)

/-- A number with so many places. -/
def fixed (places : Nat) (x : Float) : String :=
  match shape x with
  | .nan => "nan"
  | .infinite negative => if negative then "-inf" else "inf"
  | .finite negative b =>
      let plain := placed (b.units places) places
      String.ofList (if negative then '-' :: plain else plain)

/-- A number rounded to so many places; the nearest floating-point number to
the rounded decimal. -/
def rounded (places : Nat) (x : Float) : Float :=
  match shape x with
  | .finite negative b => nearest negative (b.units places) (-(places : Int))
  | _ => x

end Toolset.Decimal
