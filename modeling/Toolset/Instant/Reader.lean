import Toolset.Check
import Toolset.Decimal.Numeral
import Toolset.Instant

/-!
# Reading points in time

A moment is given as text or as a number.  A text is a date, or a date and a
time of day with an optional fraction and an optional distance from universal
time.  A number, also one in a text, counts seconds from the start of 1970, or
milliseconds if it is too large for seconds.
-/

namespace Toolset.Instant

open Toolset.Text Toolset.Decimal

def two? : List Char → Option (Nat × List Char)
  | a :: b :: rest =>
      if isAsciiDigit a && isAsciiDigit b then some (digitsValue [a, b], rest) else none
  | _ => none

def date? (cs : List Char) : Except MomentFault (Instant × List Char) :=
  if (String.ofList cs).utf8ByteSize < 10 then .error .tooShort
  else
    let year := cs.take 4
    if !(year.all isAsciiDigit && year.length == 4) then .error .badYear
    else
      match cs.drop 4 with
      | '-' :: rest =>
          match two? rest with
          | none => .error .badMonth
          | some (month, '-' :: rest) =>
              match two? rest with
              | none => .error .badDay
              | some (day, rest) =>
                  let year := digitsValue year
                  if monthDays year month = 0 then .error .monthOutside
                  else if day < 1 ∨ monthDays year month < day then .error .dayOutside
                  else .ok ({ year, month, day }, rest)
          | some _ => .error .badSeparator
      | _ => .error .badSeparator

/-- A date and nothing else. -/
def dateOnly? (cs : List Char) : Except MomentFault Instant := do
  match ← date? cs with
  | (date, []) => .ok date
  | _ => .error .extraCharacters

/-- The seconds after the minutes, if there are any. -/
def takeSeconds? : List Char → Option (Nat × List Char)
  | ':' :: rest => (two? rest).bind fun (second, rest) =>
      if second < 60 then some (second, rest) else none
  | rest => some (0, rest)

/-- The microseconds after the seconds, if there are any; digits after the sixth
are dropped. -/
def takeFraction? : List Char → Option (Nat × List Char)
  | c :: rest =>
      if c = '.' ∨ c = ',' then
        let (digits, rest) := rest.span isAsciiDigit
        if digits.isEmpty then none
        else
          let six := digits.take 6
          some (digitsValue six * Decimal.tenTo (6 - six.length), rest)
      else some (0, c :: rest)
  | [] => some (0, [])

/-- The distance from universal time in hours and minutes, to the end. -/
def offset? (cs : List Char) : Option Int := do
  let (hours, rest) ← two? cs
  let (minutes, rest) ← match rest with
    | ':' :: rest => two? rest
    | rest => two? rest
  if !rest.isEmpty || 60 ≤ minutes || 24 ≤ hours then none
  else some (hours * 3600 + minutes * 60)

def zone? : List Char → Option (Option Int)
  | [] => some none
  | ['Z'] => some (some 0)
  | ['z'] => some (some 0)
  | '+' :: rest => (offset? rest).map some
  | '-' :: rest => (offset? rest).map fun seconds => some (-seconds)
  | '−' :: rest => (offset? rest).map fun seconds => some (-seconds)
  | _ => none

def dateTime? (cs : List Char) : Option Instant := do
  let (date, rest) ← (date? cs).toOption
  match rest with
  | separator :: rest =>
      if separator ∉ ['T', 't', ' ', '_'] then none
      let (hour, rest) ← two? rest
      match rest with
      | ':' :: rest =>
          let (minute, rest) ← two? rest
          let hasSeconds := rest.head? == some ':'
          let (second, rest) ← takeSeconds? rest
          let (microsecond, rest) ← if hasSeconds then takeFraction? rest else some (0, rest)
          let offset ← zone? rest
          if 23 < hour || 59 < minute then none
          else some { date with hour, minute, second, microsecond, offset }
      | _ => none
  | [] => none

/-- The largest number of seconds; larger numbers count milliseconds. -/
def mostSeconds : Nat := 20000000000

/-- The instant so many seconds after the start of 1970, and microseconds on
top, of which there may be a million and more. Only the years from 0 to 9999
have one. -/
def ofSeconds? (seconds : Int) (microseconds : Nat) : Except MomentFault Instant :=
  let seconds := seconds + (microseconds / 1000000 : Nat)
  if seconds < -62167219200 then .error .tooEarly
  else if 253402300799 < seconds then .error .tooLate
  else .ok (ofUnix seconds (microseconds % 1000000))

/-- The instant of a number of milliseconds, and microseconds on top. -/
def ofMilliseconds? (n : Int) (microseconds : Nat) : Except MomentFault Instant :=
  ofSeconds? (n.fdiv 1000) ((n.fmod 1000).toNat * 1000 + microseconds)

/-- The instant of a whole number. -/
def ofNumber? (n : Int) : Except MomentFault Instant :=
  if mostSeconds < n.natAbs then ofMilliseconds? n 0 else ofSeconds? n 0

/-- What a number exceeds the whole number below it by, in parts of which so
many are one, to the nearest part. -/
def partsAbove (parts : Float) (x : Float) : Nat :=
  ((x - x.floor) * parts).round.toUInt64.toNat

/-- The instant of a number with a fraction: that of the whole number below it,
and microseconds on top. -/
def ofReal? (x : Float) : Except MomentFault Instant :=
  match shape x with
  | .nan => .error .notNumber
  | .infinite negative => .error (if negative then .tooEarly else .tooLate)
  | .finite negative b =>
      let (num, den) := b.quotient
      let below : Int :=
        if negative then -(((num + den - 1) / den : Nat) : Int) else (num / den : Nat)
      if mostSeconds * den < num then ofMilliseconds? below (partsAbove 1000 x)
      else ofSeconds? below (partsAbove 1000000 x)

/-- The whole numbers that are read as they are; larger ones count as numbers
with a fraction. -/
def isWord (n : Int) : Bool := -(twoTo 63 : Nat) ≤ n && n < (twoTo 63 : Nat)

/-- A number in a text: digits with an optional sign, and after a point a
fraction and an exponent. A number with a point that has no instant is no number
in a text. -/
def ofDigits? (cs : List Char) : Option (Except MomentFault Instant) :=
  let (negative, rest) := takeSign cs
  let (whole, rest) := rest.span isAsciiDigit
  if whole.isEmpty then none
  else
    match rest with
    | [] =>
        let size : Int := digitsValue whole
        let n := if negative then -size else size
        if isWord n then some (ofNumber? n) else none
    | '.' :: _ => (number? cs).bind fun x => (ofReal? x).toOption.map .ok
    | _ => none

/-- The instant of a text: a date and a time of day, or a number, or a date. -/
def ofText? (s : String) : Except MomentFault Instant :=
  let cs := s.toList
  match dateTime? cs with
  | some t => .ok t
  | none => (ofDigits? cs).getD (dateOnly? cs)

/-- An instant that can be told: there is no year 0. -/
def tellable (t : Instant) : Checked Instant :=
  if t.year = 0 then Checked.reject (.momentOutside .yearZero) else .ok t

/-- The instant of a number; that there is none is a fault of its own. -/
def ofReading : Except MomentFault Instant → Checked Instant
  | .ok t => tellable t
  | .error fault => Checked.reject (.momentOutside fault)

/-- The instant that a value stands for. -/
def check : Value → Checked Instant
  | .text s =>
      match ofText? s with
      | .ok t => tellable t
      | .error fault => Checked.reject (.momentUnreadable fault)
  | .whole n =>
      if isWord n then ofReading (ofNumber? n)
      else
        match ofWhole? n with
        | some x => ofReading (ofReal? x)
        | none => Checked.reject .momentExpected
  | .real x => ofReading (ofReal? x)
  | _ => Checked.reject .momentExpected

end Toolset.Instant
