import Toolset.Value

/-!
# Seconds of a limit

A limit is given as a number of any kind and shown just as it was given.
-/

namespace Toolset

/-- A number of seconds, of the kind in which it was given. -/
inductive Seconds where
  | whole (n : Int)
  | real (x : Float)
  | flag (b : Bool)
  deriving DecidableEq, Repr

namespace Seconds

def value : Seconds → Value
  | .whole n => .whole n
  | .real x => .real x
  | .flag b => .flag b

/-- A limit that is over before anything starts. -/
def isOver : Seconds → Bool
  | .whole n => decide (n ≤ 0)
  | .real x => decide (x ≤ 0)
  | .flag b => !b

/-- A limit that no clock can be set to. -/
def isTooLarge : Seconds → Bool
  | .whole n => (Decimal.ofWhole? n).isNone
  | _ => false

/-- A limit that is over as soon as work has started: one that is no number, or
shorter than any work. -/
def isMomentary : Seconds → Bool
  | .real x => x.isNaN || decide (x < 0.000001)
  | _ => false

/-- The value of a limit or of none. -/
def optional : Option Seconds → Value
  | none => .null
  | some limit => limit.value

def shown (limit : Option Seconds) : String := (optional limit).display

end Seconds

end Toolset
