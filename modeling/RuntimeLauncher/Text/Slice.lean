import RuntimeLauncher.Text.Character

/-!
# Parts of a text by byte positions

A part of a text can be named by two byte positions. A position inside a character does not
divide the text, so there is no such part.

## Main Definitions

* `around?` — the character that a position is inside of
* `Slip` — a position that does not divide a text, and `Slip.message`, its wording
* `slice` — the part between two positions

## Design Notes

Of two positions that do not divide the text, the first one is reported.
-/

namespace RuntimeLauncher.Text

/-- The character that a position is inside of, and where that character starts. The text itself
starts at `start`. -/
def around? (position start : Nat) : List Char → Option (Char × Nat)
  | [] => none
  | c :: cs =>
    if position ≤ start then none
    else if position < start + c.utf8Size then some (c, start)
    else around? position (start + c.utf8Size) cs

/-- The characters from one position up to another. The text itself starts at `start`. -/
def between (first stop start : Nat) : List Char → List Char
  | [] => []
  | c :: cs =>
    let rest := between first stop (start + c.utf8Size) cs
    if first ≤ start && start < stop then c :: rest else rest

/-- An end of a part. -/
inductive Bound where
  | start
  | stop
deriving DecidableEq

/-- The name of an end. -/
def Bound.name : Bound → String
  | .start => "start"
  | .stop => "end"

/-- A position that does not divide a text. -/
structure Slip where
  /-- Which end of a part the position was meant to be. -/
  bound : Bound
  position : Nat
  /-- The character that the position is inside of. -/
  char : Char
  /-- Where that character starts. -/
  start : Nat
deriving DecidableEq

/-- The wording of a slip. -/
def Slip.message (slip : Slip) : String :=
  slip.bound.name ++ " byte index " ++ toString slip.position ++
    " is not a char boundary; it is inside '" ++ String.ofList (escapeChar slip.char) ++
    "' (bytes " ++ toString slip.start ++ ".." ++ toString (slip.start + slip.char.utf8Size) ++
    " of string)"

/-- The part of a text between two byte positions. -/
def slice (text : List Char) (first stop : Nat) : Except Slip (List Char) :=
  match around? first 0 text, around? stop 0 text with
  | some (c, start), _ => .error ⟨.start, first, c, start⟩
  | none, some (c, start) => .error ⟨.stop, stop, c, start⟩
  | none, none => .ok (between first stop 0 text)

/-- The number of bytes of a text. -/
def byteSize (cs : List Char) : Nat := (cs.map Char.utf8Size).foldr (· + ·) 0

end RuntimeLauncher.Text
