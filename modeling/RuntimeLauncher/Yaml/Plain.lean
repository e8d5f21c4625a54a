import RuntimeLauncher.Decimal.Binary
import RuntimeLauncher.Text.Character

/-!
# What a plain scalar stands for

A scalar without quotes may be nothing, a truth value, an integer, a number or a text. The rules
here decide by its characters alone.

## Main Definitions

* `Plain.isNull`, `Plain.bool?`, `Plain.integer?`, `Plain.float?` — the readings of a plain scalar
* `Plain.Integer` — an integer with the width that it needs

## Design Notes

Integers may be written in bases 16, 8 and 2 after `0x`, `0o` and `0b`. A run of digits that starts
with a superfluous zero is a text, so that codes like `007` survive. An integer is tried before a
number, and a number too large for a double stays a text. Integers beyond 64 bits are told apart,
since no target can hold them.
-/

namespace RuntimeLauncher.Yaml.Plain

/-- The words for nothing. -/
def isNull (s : String) : Bool := s == "null" || s == "Null" || s == "NULL" || s == "~"

/-- The words for truth values. -/
def bool? (s : String) : Option Bool :=
  if s == "true" || s == "True" || s == "TRUE" then some true
  else if s == "false" || s == "False" || s == "FALSE" then some false
  else none

/-- An integer with the width that it needs. -/
inductive Integer where
  /-- Fits a machine word, with or without sign. -/
  | word (n : Int)
  /-- Needs up to 128 bits without sign. -/
  | wideUnsigned (n : Int)
  /-- Needs up to 128 bits with sign. -/
  | wideSigned (n : Int)
deriving DecidableEq

/-- The value of digits read after a number. -/
def digitsFrom (base value : Nat) : List Char → Option Nat
  | [] => some value
  | c :: cs =>
    match Text.digitValue? c with
    | some d => if d < base then digitsFrom base (base * value + d) cs else none
    | none => none

/-- The value of one digit or more in a base. -/
def digits? (base : Nat) (cs : List Char) : Option Nat :=
  if cs.isEmpty then none else digitsFrom base 0 cs

/-- The digits in a base, if their value is below a bound. -/
def below? (base bound : Nat) (cs : List Char) : Option Nat :=
  (digits? base cs).filter (· < bound)

/-- What follows a text's beginning. -/
def after? (start : String) (cs : List Char) : Option (List Char) :=
  if start.toList.isPrefixOf cs then some (cs.drop start.length) else none

/-- The first character is a sign. -/
def isSigned (cs : List Char) : Bool := cs.head? == some '+' || cs.head? == some '-'

/-- Two digits or more with a zero in front, after at most one sign. -/
def hasSpareZero (cs : List Char) : Bool :=
  let ds := if isSigned cs then cs.drop 1 else cs
  ds.length > 1 && ds.head? == some '0' && ds.all fun c => '0' ≤ c && c ≤ '9'

/-- The bases with a mark of their own. -/
def markedBases : List (String × Nat) := [("0x", 16), ("0o", 8), ("0b", 2)]

/-- An unsigned integer below a bound. -/
def unsigned? (bound : Nat) (cs : List Char) : Option Nat :=
  let rest := if cs.head? == some '+' then cs.drop 1 else cs
  let marked := markedBases.filterMap fun m => (after? m.1 rest).map fun ds => (m.2, ds)
  if marked.any fun m => isSigned m.2 then none
  else
    match marked.findSome? fun m => below? m.1 bound m.2 with
    | some n => some n
    | none =>
      if isSigned rest || hasSpareZero cs then none else below? 10 bound rest

/-- A negative integer not below the bound's negative. -/
def negative? (bound : Nat) (cs : List Char) : Option Int :=
  let marked := markedBases.filterMap fun m => (after? ("-" ++ m.1) cs).map fun ds => (m.2, ds)
  match marked.findSome? fun m => below? m.1 (bound + 1) m.2 with
  | some n => some (-n)
  | none =>
    if hasSpareZero cs then none
    else
      match after? "-" cs with
      | some ds => (below? 10 (bound + 1) ds).map fun n => -n
      | none => none

/-- A plain scalar as an integer. -/
def integer? (s : String) : Option Integer :=
  let cs := s.toList
  match unsigned? (Nat.pow 2 64) cs with
  | some n => some (.word n)
  | none =>
    match negative? (Nat.pow 2 63) cs with
    | some n => some (.word n)
    | none =>
      match unsigned? (Nat.pow 2 128) cs with
      | some n => some (.wideUnsigned n)
      | none => (negative? (Nat.pow 2 127) cs).map .wideSigned

/-- An exponent: nothing, or a mark and digits with at most one sign. -/
def exponent? : List Char → Option Int
  | [] => some 0
  | c :: cs =>
    if c = 'e' || c = 'E' then
      match cs with
      | '-' :: ds => (digits? 10 ds).map fun n => -n
      | '+' :: ds => (digits? 10 ds).map Int.ofNat
      | ds => (digits? 10 ds).map Int.ofNat
    else none

/-- A decimal: digits with at most one point, and an exponent. -/
def decimal? (negative : Bool) (cs : List Char) : Option Binary64 :=
  let isDigit := fun c : Char => '0' ≤ c && c ≤ '9'
  let whole := cs.takeWhile isDigit
  let tail := cs.dropWhile isDigit
  let fraction := if tail.head? == some '.' then (tail.drop 1).takeWhile isDigit else []
  let rest := if tail.head? == some '.' then (tail.drop 1).dropWhile isDigit else tail
  match digits? 10 (whole ++ fraction), exponent? rest with
  | some n, some e => some (Binary64.ofDecimal negative n (e - fraction.length))
  | _, _ => none

/-- A plain scalar as a number. -/
def float? (s : String) : Option Binary64 :=
  let cs := s.toList
  let plus := cs.head? == some '+'
  let rest := if plus then cs.drop 1 else cs
  if plus && isSigned rest then none
  else
    let bare := String.ofList rest
    if bare == ".inf" || bare == ".Inf" || bare == ".INF" then some (Binary64.infinity false)
    else if s == "-.inf" || s == "-.Inf" || s == "-.INF" then some (Binary64.infinity true)
    else if s == ".nan" || s == ".NaN" || s == ".NAN" then some Binary64.nan
    else
      let found :=
        match rest with
        | '-' :: ds => decimal? true ds
        | ds => decimal? false ds
      found.filter Binary64.isFinite

end RuntimeLauncher.Yaml.Plain
