/-!
# Text out of any bytes

Bytes that are not UTF-8 can still be shown as text: what cannot be read shows as the replacement
character.

## Main Definitions

* `Pending` — a character of which not all bytes are read
* `decodeStep` — reads one byte
* `decodeLossy` — reads all bytes

## Design Notes

One replacement character stands for the longest start of a character that can be read, or for one
byte that starts none. The bounds of the second byte rule out everything that has a shorter spelling
or is no code point.
-/

namespace RuntimeLauncher.Text

/-- What is shown for bytes that cannot be read. -/
def replacement : Char := '\ufffd'

/-- A character of which not all bytes are read. -/
structure Pending where
  /-- How many bytes are owed. -/
  owed : Nat
  /-- The least that the next byte may be. -/
  low : Nat
  /-- The greatest that the next byte may be. -/
  high : Nat
  /-- The bits read so far. -/
  value : Nat

/-- The character that a first byte announces. -/
def pendingOf? (b : Nat) : Option Pending :=
  if b = 0xe0 then some ⟨2, 0xa0, 0xbf, 0⟩
  else if b = 0xed then some ⟨2, 0x80, 0x9f, 0xd⟩
  else if b = 0xf0 then some ⟨3, 0x90, 0xbf, 0⟩
  else if b = 0xf4 then some ⟨3, 0x80, 0x8f, 4⟩
  else if 0xc2 ≤ b ∧ b ≤ 0xdf then some ⟨1, 0x80, 0xbf, b - 0xc0⟩
  else if 0xe1 ≤ b ∧ b ≤ 0xef then some ⟨2, 0x80, 0xbf, b - 0xe0⟩
  else if 0xf1 ≤ b ∧ b ≤ 0xf3 then some ⟨3, 0x80, 0xbf, b - 0xf0⟩
  else none

/-- Reads the first byte of a character. -/
def decodeFirst (b : Nat) : List Char × Option Pending :=
  if b < 0x80 then ([Char.ofNat b], none)
  else
    match pendingOf? b with
    | some pending => ([], some pending)
    | none => ([replacement], none)

/-- Reads one byte: the characters that are now known, and the one on the way. -/
def decodeStep (b : Nat) : Option Pending → List Char × Option Pending
  | none => decodeFirst b
  | some pending =>
    if pending.low ≤ b ∧ b ≤ pending.high then
      let value := 64 * pending.value + (b - 0x80)
      if pending.owed ≤ 1 then ([Char.ofNat value], none)
      else ([], some ⟨pending.owed - 1, 0x80, 0xbf, value⟩)
    else
      let (found, next) := decodeFirst b
      (replacement :: found, next)

/-- Reads all bytes after a character on the way. -/
def decodeFrom : Option Pending → List UInt8 → List Char
  | none, [] => []
  | some _, [] => [replacement]
  | pending, b :: bytes =>
    let (found, next) := decodeStep b.toNat pending
    found ++ decodeFrom next bytes

/-- Bytes as text. -/
def decodeLossy (bytes : List UInt8) : String := String.ofList (decodeFrom none bytes)

end RuntimeLauncher.Text
