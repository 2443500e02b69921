/-!
# Reading UTF-8 with replacement

What a program writes is read as UTF-8, and what is no UTF-8 is replaced and
never refused.  The reader is a machine over single bytes.  Between characters
it holds nothing; inside one it knows how many bytes are still owed and the
range of the next.  A byte outside that range gives up the character begun,
which is written as one replacement character, and the byte is read afresh.
Hence each longest beginning of a character that cannot be completed becomes
exactly one replacement character.
-/

namespace Toolset.Text

/-- The character that stands for bytes which encode none. -/
def replacement : Char := '\uFFFD'

/-- A character whose first bytes have been read: the number of bytes still
owed, the range of the next one, and the bits so far. -/
structure Partial where
  owed : Nat
  low : UInt8
  high : UInt8
  bits : Nat
  deriving DecidableEq, Repr

/-- What a byte means between two characters. -/
inductive Lead where
  | character (c : Char)
  | begins (start : Partial)
  | refused
  deriving DecidableEq, Repr

/-- Read the first byte of a character. The ranges of the second byte leave out
overlong forms, surrogates and everything above the last code point. -/
def lead (b : UInt8) : Lead :=
  if b ≤ 0x7F then .character (Char.ofNat b.toNat)
  else if b < 0xC2 then .refused
  else if b ≤ 0xDF then .begins ⟨1, 0x80, 0xBF, b.toNat - 0xC0⟩
  else if b == 0xE0 then .begins ⟨2, 0xA0, 0xBF, 0⟩
  else if b == 0xED then .begins ⟨2, 0x80, 0x9F, 13⟩
  else if b ≤ 0xEF then .begins ⟨2, 0x80, 0xBF, b.toNat - 0xE0⟩
  else if b == 0xF0 then .begins ⟨3, 0x90, 0xBF, 0⟩
  else if b ≤ 0xF3 then .begins ⟨3, 0x80, 0xBF, b.toNat - 0xF0⟩
  else if b == 0xF4 then .begins ⟨3, 0x80, 0x8F, 4⟩
  else .refused

/-- Read a byte between two characters: what it writes, and what is held after
it. -/
def fresh (b : UInt8) : List Char × Option Partial :=
  match lead b with
  | .character c => ([c], none)
  | .begins start => ([], some start)
  | .refused => ([replacement], none)

/-- Read a byte in any state. -/
def accept : Option Partial → UInt8 → List Char × Option Partial
  | none, b => fresh b
  | some held, b =>
      if held.low ≤ b ∧ b ≤ held.high then
        let bits := held.bits * 64 + (b.toNat - 0x80)
        if held.owed ≤ 1 then
          ([Char.ofNat bits], none)
        else
          ([], some ⟨held.owed - 1, 0x80, 0xBF, bits⟩)
      else
        let (written, next) := fresh b
        (replacement :: written, next)

/-- Read all bytes from a state; a character begun and not ended is replaced. -/
def decodeFrom : Option Partial → List UInt8 → List Char
  | none, [] => []
  | some _, [] => [replacement]
  | held, b :: rest =>
      let (written, next) := accept held b
      written ++ decodeFrom next rest

/-- The characters of a sequence of bytes. -/
def decode (bytes : List UInt8) : List Char := decodeFrom none bytes

/-- The text of a sequence of bytes. -/
def decodeText (bytes : List UInt8) : String := String.ofList (decode bytes)

/-- The bytes of a text. -/
def encodeText (s : String) : List UInt8 := s.toUTF8.toList

end Toolset.Text
