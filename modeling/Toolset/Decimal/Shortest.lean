import Toolset.Decimal.Binary

/-!
# The fewest digits that read back

A floating-point number is printed with the fewest decimal digits from which it
is read back, and of the decimals with so many digits the nearest.  All numbers
that round to `m * 2 ^ q` form an interval, whose ends belong to it exactly if
`m` is even.  For one digit, two digits and so on, the two neighbours of the
number on that decimal grid are tested against the interval; the first grid
with a hit wins.
-/

namespace Toolset.Decimal

/-- Digits after the point: the number is `0.digits * 10 ^ point`. -/
structure Digits where
  digits : List Char
  point : Int
  deriving DecidableEq, Repr

/-- `a * 2 ^ p ≤ b * 10 ^ k`. -/
def leScaled (a : Nat) (p : Int) (b : Nat) (k : Int) : Bool :=
  a * twoTo p.toNat * tenTo (-k).toNat ≤ b * tenTo k.toNat * twoTo (-p).toNat

/-- `b * 10 ^ k ≤ a * 2 ^ p`. -/
def scaledLe (b : Nat) (k : Int) (a : Nat) (p : Int) : Bool :=
  b * tenTo k.toNat * twoTo (-p).toNat ≤ a * twoTo p.toNat * tenTo (-k).toNat

/-- The numbers that round to one floating-point number, from `low` to `high`
in units of `2 ^ power`, with or without the ends. -/
structure Interval where
  low : Nat
  high : Nat
  power : Int
  ends : Bool

/-- The interval around a number. Below the first number of a binade the
neighbour is only half as far. -/
def Interval.around (b : Binary) : Interval where
  low := if b.mantissa = twoTo 52 ∧ -1074 < b.exponent then 4 * b.mantissa - 1
    else 4 * b.mantissa - 2
  high := 4 * b.mantissa + 2
  power := b.exponent - 2
  ends := b.mantissa % 2 == 0

/-- Is `n * 10 ^ k` in the interval? -/
def Interval.holds (i : Interval) (n : Nat) (k : Int) : Bool :=
  if i.ends then leScaled i.low i.power n k && scaledLe n k i.high i.power
  else !scaledLe n k i.low i.power && !leScaled i.high i.power n k

/-- Climb to the largest `k` with `10 ^ k ≤ b`, at most `fuel` steps up. -/
def climb (b : Binary) : (fuel : Nat) → Int → Int
  | 0, k => k
  | fuel + 1, k => if scaledLe 1 (k + 1) b.mantissa b.exponent then climb b fuel (k + 1) else k

/-- The largest `k` with `10 ^ k ≤ b`. The binary size gives it up to one. -/
def magnitude (b : Binary) : Int :=
  climb b 4 (((Nat.log2 b.mantissa : Int) + b.exponent) * 30103 / 100000 - 2)

/-- The neighbours of `b` on the grid of multiples of `10 ^ k`. The third
component tells whether the lower is nearer, a tie going to the even one. -/
def neighbours (b : Binary) (k : Int) : Nat × Nat × Bool :=
  let num := b.mantissa * twoTo b.exponent.toNat * tenTo (-k).toNat
  let den := twoTo (-b.exponent).toNat * tenTo k.toNat
  let below := num / den
  (below, below + 1, roundDiv num den == below)

/-- Search the grids of `used` digits and more. Seventeen digits always
suffice. -/
def searchFrom (b : Binary) (top : Int) : (fuel used : Nat) → Nat × Int
  | 0, used => let k := top - used
      (roundDiv (b.mantissa * twoTo b.exponent.toNat * tenTo (-k).toNat)
        (twoTo (-b.exponent).toNat * tenTo k.toNat), k)
  | fuel + 1, used =>
      let k := top - used
      let (below, above, lower) := neighbours b k
      let i := Interval.around b
      match i.holds below k, i.holds above k with
      | true, true => (if lower then below else above, k)
      | true, false => (below, k)
      | false, true => (above, k)
      | false, false => searchFrom b top fuel (used + 1)

def dropZeros (digits : List Char) : List Char :=
  (digits.reverse.dropWhile (· == '0')).reverse

/-- The fewest digits of a positive number. -/
def shortest (b : Binary) : Digits :=
  let (n, k) := searchFrom b (magnitude b) 17 0
  let digits := Nat.toDigits 10 n
  ⟨dropZeros digits, (digits.length : Int) + k⟩

end Toolset.Decimal
