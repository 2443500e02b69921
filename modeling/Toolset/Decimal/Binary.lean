/-!
# Floating-point numbers as exact values

A finite floating-point number is a whole multiple of a power of two.  What is
printed of it is computed from that exact value with natural numbers alone.
-/

namespace Toolset.Decimal

/-- The exact magnitude `mantissa * 2 ^ exponent`. -/
structure Binary where
  mantissa : Nat
  exponent : Int
  deriving DecidableEq, Repr

/-- A floating-point number, seen from outside. The sign of a number that is
not a number means nothing. -/
inductive Shape where
  | nan
  | infinite (negative : Bool)
  | finite (negative : Bool) (magnitude : Binary)
  deriving DecidableEq, Repr

/-- A power of two. -/
def twoTo (n : Nat) : Nat := Nat.pow 2 n

/-- A power of ten. -/
def tenTo (n : Nat) : Nat := Nat.pow 10 n

/-- Take a floating-point number apart: one bit of sign, eleven of exponent and
fifty-two of fraction, with an implied leading bit unless the exponent is the
least one. -/
def shape (x : Float) : Shape :=
  let bits : Nat := x.toBits.toNat
  let negative := bits / twoTo 63 == 1
  let exponent : Nat := bits / twoTo 52 % twoTo 11
  let fraction : Nat := bits % twoTo 52
  if exponent = 2047 then
    if fraction = 0 then .infinite negative else .nan
  else if exponent = 0 then .finite negative ⟨fraction, -1074⟩
  else .finite negative ⟨twoTo 52 + fraction, (exponent : Int) - 1075⟩

/-- The magnitude as a quotient of two natural numbers. -/
def Binary.quotient (b : Binary) : Nat × Nat :=
  (b.mantissa * twoTo b.exponent.toNat, twoTo (-b.exponent).toNat)

/-- A quotient rounded to the nearest whole number; a half goes to the even
neighbour. -/
def roundDiv (num den : Nat) : Nat :=
  let below := num / den
  let twice := 2 * (num % den)
  if twice < den then below
  else if den < twice then below + 1
  else below + below % 2

/-- The floating-point number nearest to a quotient of powers of ten: `digits`
times ten to the `exponent`. Exponents far outside the range of floating-point
numbers give infinity and zero at once. -/
def nearest (negative : Bool) (digits : Nat) (exponent : Int) : Float :=
  let size : Int := (Nat.log2 digits : Int) * 30103 / 100000 + exponent
  let magnitude : Float :=
    if digits = 0 ∨ size < -400 then 0
    else if 400 < size then Float.ofBits 0x7FF0000000000000
    else if exponent < 0 then Float.ofScientific digits true (-exponent).toNat
    else Float.ofScientific digits false exponent.toNat
  if negative then -magnitude else magnitude

/-- The floating-point number nearest to a whole number, unless it exceeds them
all. -/
def ofWhole? (n : Int) : Option Float :=
  let x := nearest (n < 0) n.natAbs 0
  if x.isInf then none else some x

/-- The number that is not a number. -/
def nan : Float := Float.ofBits 0x7FF8000000000000

def infinity (negative : Bool) : Float :=
  Float.ofBits (if negative then 0xFFF0000000000000 else 0x7FF0000000000000)

end Toolset.Decimal
