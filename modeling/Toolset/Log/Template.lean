import Toolset.Decimal.Significant
import Toolset.Log
import Toolset.Text.Digit

/-!
# Messages with places for values

A message may have places for values, which are filled in order, or by name if
the only value is a record.  A place starts with a percent sign, and its last
letter tells how the value is written; flags, a width and a precision may stand
between.  A percent sign itself is written twice.
-/

namespace Toolset.Log

/-- Why a message cannot be filled. -/
inductive Misfit where
  | tooFewValues
  | tooManyValues
  | incomplete
  | incompleteName
  /-- The letter at an index means nothing. -/
  | unknownLetter (c : Char) (index : Nat)
  | noRecord
  | noField (name : String)
  | noWidth
  | widthTooLarge
  | precisionTooLarge
  /-- A number of the place does not fit into a word of this kind. -/
  | wordTooLarge (word : String)
  /-- So many digits cannot be written. -/
  | tooManyDigits
  /-- No memory holds a text so wide. -/
  | noMemory
  | numberExpected (letter : Char) (kind : String)
  | wholeExpected (letter : Char) (kind : String)
  | realExpected (kind : String)
  | characterExpected
  | characterTooLarge
  | noNumber
  | infinite
  | tooLarge
  deriving DecidableEq, Repr

/-- The kind of a misfit and what is said of it. -/
def Misfit.trouble : Misfit → Trouble
  | .tooFewValues => ⟨"TypeError", "not enough arguments for format string"⟩
  | .tooManyValues => ⟨"TypeError", "not all arguments converted during string formatting"⟩
  | .incomplete => ⟨"ValueError", "incomplete format"⟩
  | .incompleteName => ⟨"ValueError", "incomplete format key"⟩
  | .unknownLetter c index =>
      ⟨"ValueError", "unsupported format character '" ++
        (if ' ' ≤ c ∧ c.toNat < 0x7F then String.singleton c else "?") ++ "' (0x" ++
        String.ofList (Nat.toDigits 16 c.toNat) ++ ") at index " ++ toString index⟩
  | .noRecord => ⟨"TypeError", "format requires a mapping"⟩
  | .noField name => ⟨"KeyError", Text.quoted name⟩
  | .noWidth => ⟨"TypeError", "* wants int"⟩
  | .widthTooLarge => ⟨"ValueError", "width too big"⟩
  | .precisionTooLarge => ⟨"ValueError", "precision too big"⟩
  | .wordTooLarge word => ⟨"OverflowError", "Python int too large to convert to C " ++ word⟩
  | .tooManyDigits => ⟨"OverflowError", "precision too large"⟩
  | .noMemory => ⟨"MemoryError", ""⟩
  | .numberExpected letter kind =>
      ⟨"TypeError",
        "%" ++ String.singleton letter ++ " format: a real number is required, not " ++ kind⟩
  | .wholeExpected letter kind =>
      ⟨"TypeError",
        "%" ++ String.singleton letter ++ " format: an integer is required, not " ++ kind⟩
  | .realExpected kind => ⟨"TypeError", "must be real number, not " ++ kind⟩
  | .characterExpected => ⟨"TypeError", "%c requires int or char"⟩
  | .characterTooLarge => ⟨"OverflowError", "%c arg not in range(0x110000)"⟩
  | .noNumber => ⟨"ValueError", "cannot convert float NaN to integer"⟩
  | .infinite => ⟨"OverflowError", "cannot convert float infinity to integer"⟩
  | .tooLarge => ⟨"OverflowError", "int too large to convert to float"⟩

namespace Template

/-- How a place is filled. -/
structure Place where
  /-- The flags: `-` puts a value to the left, `0` fills with zeros, `+` and a
  space show the sign of what is not negative, `#` shows the base. -/
  flags : List Char := []
  width : Nat := 0
  precision : Option Nat := none
  letter : Char

/-- The values that are left, and the record that gives values by name. -/
structure Supply where
  values : List Value
  record : Option (List Field) := none

def Supply.next (supply : Supply) : Except Misfit (Value × Supply) :=
  match supply.values with
  | value :: values => .ok (value, { supply with values })
  | [] => .error .tooFewValues

/-- A value as a whole number; a fraction is cut off. -/
def whole (letter : Char) : Value → Except Misfit Int
  | .whole n => .ok n
  | .flag b => .ok (if b then 1 else 0)
  | .real x =>
      match Decimal.shape x with
      | .nan => .error .noNumber
      | .infinite _ => .error .infinite
      | .finite negative b =>
          let (num, den) := b.quotient
          .ok (if negative then -((num / den : Nat) : Int) else (num / den : Nat))
  | value => .error (.numberExpected letter value.kindName)

/-- A value that is a whole number. -/
def exactWhole (letter : Char) : Value → Except Misfit Int
  | .whole n => .ok n
  | .flag b => .ok (if b then 1 else 0)
  | value => .error (.wholeExpected letter value.kindName)

/-- A value as a floating-point number. -/
def real : Value → Except Misfit Float
  | .real x => .ok x
  | .flag b => .ok (if b then 1 else 0)
  | .whole n =>
      match Decimal.ofWhole? n with
      | some x => .ok x
      | none => .error .tooLarge
  | value => .error (.realExpected value.kindName)

namespace Place

/-- Whether a flag is set. -/
def has (place : Place) (flag : Char) : Bool := place.flags.contains flag

/-- Fill a text up with spaces. -/
def pad (place : Place) (cs : List Char) : List Char :=
  let missing := List.replicate (place.width - cs.length) ' '
  if place.has '-' then cs ++ missing else missing ++ cs

/-- A number with its sign and what stands before its digits, filled up. -/
def number (place : Place) (negative : Bool) (start digits : List Char) : List Char :=
  let sign := if negative then ['-'] else if place.has '+' then ['+']
    else if place.has ' ' then [' '] else []
  let start := sign ++ start
  if place.has '0' && !place.has '-' then
    start ++ List.replicate (place.width - start.length - digits.length) '0' ++ digits
  else place.pad (start ++ digits)

/-- The most digits that a whole number is written with. -/
def mostDigits : Nat := 2147483644

/-- The widest text that there is memory for. -/
def mostColumns : Nat := 1000000000

/-- More digits than any floating-point number has. -/
def allDigits : Nat := 800

/-- A whole number in a base. -/
def wholeText (place : Place) (base : Nat) (start : List Char) (n : Int) : List Char :=
  let digits := Nat.toDigits base n.natAbs
  let digits := List.replicate (place.precision.getD 0 - digits.length) '0' ++ digits
  let start := if place.has '#' then start else []
  if place.letter = 'X' then
    place.number (n < 0) (start.map Char.toUpper) (digits.map Char.toUpper)
  else place.number (n < 0) start digits

/-- A floating-point number. -/
def realText (place : Place) (x : Float) : List Char :=
  let precision := place.precision.getD 6
  let (negative, digits) := match Decimal.shape x with
    | .nan => (false, "nan".toList)
    | .infinite negative => (negative, "inf".toList)
    | .finite negative b =>
        (negative, match place.letter.toLower with
          | 'f' => Decimal.placed (b.units precision) precision ++
              (if place.has '#' && precision == 0 then ['.'] else [])
          | 'e' => b.scientific precision
          | _ =>
              if place.has '#' then b.general precision true
              else b.general (min precision allDigits) false)
  place.number negative [] (if place.letter.isUpper then digits.map Char.toUpper else digits)

def textText (place : Place) (s : String) : List Char :=
  place.pad (match place.precision with
    | some n => s.toList.take n
    | none => s.toList)

def character (place : Place) : Value → Except Misfit (List Char)
  | .text s =>
      match s.toList with
      | [c] => .ok (place.pad [c])
      | _ => .error .characterExpected
  | .whole n =>
      if n < 0 ∨ 0x110000 ≤ n then .error .characterTooLarge
      else if Text.isFirstHalf n.toNat || Text.isSecondHalf n.toNat then
        -- half a pair takes the room of one character
        .ok ((place.pad [Text.halfMark]).flatMap fun c =>
          if c == Text.halfMark then Text.half n.toNat else [c])
      else .ok (place.pad [Char.ofNat n.toNat])
  | .flag b => .ok (place.pad [if b then '\x01' else '\x00'])
  | _ => .error .characterExpected

/-- The misfit of a precision with which a whole number cannot be written. -/
def digitsMisfit? (place : Place) : Option Misfit :=
  let digits := place.precision.getD 0
  if mostDigits < digits then some .tooManyDigits
  else if mostColumns < digits then some .noMemory
  else none

/-- The misfit of a precision with which a floating-point number cannot be
written. -/
def fractionMisfit? (place : Place) : Option Misfit :=
  let isShort := place.letter.toLower == 'g' && !place.has '#'
  if mostColumns < place.precision.getD 0 && !isShort then some .noMemory else none

/-- A text, unless there is a misfit. -/
def allowing (misfit : Option Misfit) (written : Unit → List Char) : Except Misfit (List Char) :=
  match misfit with
  | some misfit => .error misfit
  | none => .ok (written ())

/-- A value as it is written in a place of moderate width; the index is that of
its letter. -/
def writeValue (place : Place) (index : Nat) (value : Value) : Except Misfit (List Char) := do
  let letter := place.letter
  if letter = 's' then return place.textText value.display
  else if letter = 'r' then return place.textText value.spell
  else if letter = 'a' then return place.textText (Text.spelledOut value.spell)
  else if letter = 'd' ∨ letter = 'i' ∨ letter = 'u' then
    let n ← whole letter value
    allowing place.digitsMisfit? fun _ => place.wholeText 10 [] n
  else if letter = 'o' then
    let n ← exactWhole letter value
    allowing place.digitsMisfit? fun _ => place.wholeText 8 ['0', 'o'] n
  else if letter = 'x' ∨ letter = 'X' then
    let n ← exactWhole letter value
    allowing place.digitsMisfit? fun _ => place.wholeText 16 ['0', 'x'] n
  else if ['e', 'f', 'g'].contains letter.toLower then
    let x ← real value
    allowing place.fractionMisfit? fun _ => place.realText x
  else if letter = 'c' then place.character value
  else throw (.unknownLetter letter index)

/-- A value as it is written in a place; the index is that of its letter. -/
def write (place : Place) (index : Nat) (value : Value) : Except Misfit (List Char) :=
  if mostColumns < place.width then
    match { place with width := 0 }.writeValue index value with
    | .ok _ => .error .noMemory
    | .error misfit => .error misfit
  else place.writeValue index value

end Place

/-- A name in parentheses, up to the one that closes it. -/
def nameIn (depth : Nat) : List Char → Except Misfit (List Char × List Char)
  | [] => .error .incompleteName
  | ')' :: rest =>
      if depth = 0 then .ok ([], rest)
      else do
        let (name, rest) ← nameIn (depth - 1) rest
        return (')' :: name, rest)
  | c :: rest => do
      let (name, rest) ← nameIn (if c = '(' then depth + 1 else depth) rest
      return (c :: name, rest)

/-- A number of a place is kept in a word. -/
structure Word where
  /-- How a word is called into which a value does not fit. -/
  name : String
  /-- How many of the numbers from zero on fit into the word. -/
  size : Nat
  /-- What is said of digits whose number does not fit. -/
  excess : Misfit

def widthWord : Word := ⟨"ssize_t", Decimal.twoTo 63, .widthTooLarge⟩

def precisionWord : Word := ⟨"int", Decimal.twoTo 31, .precisionTooLarge⟩

/-- A number that a value gives, if it fits into a word. -/
def Word.hold (word : Word) (n : Int) : Except Misfit Int :=
  if -(word.size : Int) ≤ n ∧ n < word.size then .ok n else .error (.wordTooLarge word.name)

/-- A number of the place: given by digits, or by the next value. -/
def count (word : Word) (supply : Supply) :
    List Char → Except Misfit (Option Int × List Char × Supply)
  | '*' :: rest => do
      let (value, supply) ← supply.next
      match value with
      | .whole n => return (some (← word.hold n), rest, supply)
      | .flag b => return (some (if b then 1 else 0), rest, supply)
      | _ => throw .noWidth
  | cs =>
      let (digits, rest) := cs.span Char.isDigit
      let n := Text.digitsValue digits
      if word.size ≤ n then .error word.excess
      else .ok (if digits.isEmpty then none else some n, rest, supply)

/-- The place after a percent sign, its value by name if it has one, and the
rest. -/
def place (supply : Supply) (cs : List Char) :
    Except Misfit (Place × List Char × Supply) := do
  let (supply, cs) ← match cs with
    | '(' :: rest => do
        let some fields := supply.record | throw .noRecord
        let (name, rest) ← nameIn 0 rest
        let name := String.ofList name
        let some value := field? fields name | throw (.noField name)
        pure ({ supply with values := [value] }, rest)
    | cs => pure (supply, cs)
  let (flags, cs) := cs.span (['-', '+', ' ', '#', '0'].contains ·)
  let (width, cs, supply) ← count widthWord supply cs
  let (precision, cs, supply) ← match cs with
    | '.' :: rest => do
        let (precision, cs, supply) ← count precisionWord supply rest
        pure (some (precision.getD 0).toNat, cs, supply)
    | cs => pure (none, cs, supply)
  let cs := match cs with
    | c :: rest => if c = 'h' ∨ c = 'l' ∨ c = 'L' then rest else c :: rest
    | [] => []
  let flags := if width.any (· < 0) then '-' :: flags else flags
  match cs with
  | [] => throw .incomplete
  | letter :: rest =>
      return ({ flags, width := (width.getD 0).natAbs, precision, letter }, rest, supply)

/-- Fill the places of a message of a given length. It fails if values are
missing or left over. -/
def fill (length : Nat) : (fuel : Nat) → Supply → List Char → Except Misfit (List Char)
  | 0, _, _ => .ok []
  | _, supply, [] =>
      if supply.values.isEmpty || supply.record.isSome then .ok [] else .error .tooManyValues
  | fuel + 1, supply, '%' :: '%' :: rest => do
      return '%' :: (← fill length fuel supply rest)
  | fuel + 1, supply, '%' :: rest => do
      let (place, rest, supply) ← place supply rest
      let (value, supply) ← supply.next
      let written ← place.write (length - rest.length - 1) value
      return written ++ (← fill length fuel supply rest)
  | fuel + 1, supply, c :: rest => do
      return c :: (← fill length fuel supply rest)

/-- The supply that values make: a single record gives its fields by name. -/
def Supply.ofValues : List Value → Supply
  | [.record (field :: fields)] =>
      { values := [.record (field :: fields)], record := some (field :: fields) }
  | values => { values }

/-- A message with its values; without values it is taken as it is. -/
def message (template : String) (values : List Value) : Except Misfit String :=
  if values.isEmpty then .ok template
  else
    let cs := template.toList
    (fill cs.length (cs.length + 1) (.ofValues values) cs).map String.ofList

end Template

end Toolset.Log
