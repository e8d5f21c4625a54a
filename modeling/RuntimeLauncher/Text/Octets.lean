import RuntimeLauncher.Text.Utf8

/-!
# Byte strings that are mostly text

File names, file contents and the tags of a document are byte strings. Nearly all of them are UTF-8,
and only those can be named in settings or read as text.

## Main Definitions

* `Octets` — a byte string, held as text where it is text
* `Octets.ofBytes` — decides which of the two it is
* `Octets.bytes`, `Octets.size` — the bytes and their number
* `Octets.append` — joins two byte strings
* `Octets.text?`, `Octets.shown` — the text, strictly or with replacements
-/

namespace RuntimeLauncher

/-- A byte string. `raw` is for byte strings that are not UTF-8. -/
inductive Octets where
  | text (s : String)
  | raw (bytes : List UInt8)
deriving DecidableEq

namespace Octets

/-- Holds bytes as text if they are UTF-8. -/
def ofBytes (bytes : List UInt8) : Octets :=
  match String.fromUTF8? ⟨bytes.toArray⟩ with
  | some s => .text s
  | none => .raw bytes

/-- The number of bytes. -/
def size : Octets → Nat
  | .text s => s.utf8ByteSize
  | .raw bs => bs.length

/-- The bytes themselves. -/
def bytes : Octets → List UInt8
  | .text s => s.toUTF8.toList
  | .raw bs => bs

/-- One byte string after another. -/
def append : Octets → Octets → Octets
  | .text a, .text b => .text (a ++ b)
  | a, b => .ofBytes (a.bytes ++ b.bytes)

/-- The text of a byte string that is text. -/
def text? : Octets → Option String
  | .text s => some s
  | .raw _ => none

/-- A byte string as text, with replacements for what is no text. -/
def shown : Octets → String
  | .text s => s
  | .raw bytes => Text.decodeLossy bytes

end Octets

end RuntimeLauncher
