import RuntimeLauncher.Decimal.Binary

/-!
# The shortest decimal of a binary number

A diagnostic shows a number by the fewest decimal digits that still name it: no other binary number
lies nearer to the decimal shown.

## Main Definitions

* `shortest` — digits and decimal exponent of a positive finite number
* `Binary64.positional` — the number in positional notation, always with a point

## Design Notes

The decimals that name `m * 2 ^ q` form an interval around it, with its ends if `m` is even. For one
digit, two digits and so on, the number has two neighbours on the grid of decimals with that many
digits. The first grid with a neighbour inside the interval gives the digits, and the nearer
neighbour if both are inside. Seventeen digits always suffice.
-/

namespace RuntimeLauncher

namespace Binary64

/-- A fraction of naturals. -/
structure Fraction where
  num : Nat
  den : Nat

/-- `n * 2 ^ q` as a fraction. -/
def Fraction.scaled (n : Nat) (q : Int) : Fraction :=
  if q < 0 then ⟨n, Nat.pow 2 q.natAbs⟩ else ⟨n * Nat.pow 2 q.toNat, 1⟩

/-- `n * 10 ^ e` as a fraction. -/
def Fraction.decimal (n : Nat) (e : Int) : Fraction :=
  if e < 0 then ⟨n, Nat.pow 10 e.natAbs⟩ else ⟨n * Nat.pow 10 e.toNat, 1⟩

/-- The order of fractions. -/
def Fraction.le (a b : Fraction) : Bool := a.num * b.den ≤ b.num * a.den

/-- The strict order of fractions. -/
def Fraction.lt (a b : Fraction) : Bool := a.num * b.den < b.num * a.den

/-- The exponent of the first decimal digit of a positive `m * 2 ^ q`. -/
def leadingExponent (m : Nat) (q : Int) : Int :=
  let v := Fraction.scaled m q
  let guess := Int.fdiv (((Nat.log2 m : Int) + q) * 1233) 4096
  if Fraction.le (Fraction.decimal 1 (guess + 1)) v then guess + 1
  else if Fraction.lt v (Fraction.decimal 1 guess) then guess - 1
  else guess

/-- The digits of a positive number on the grid with `n` digits, if one of its neighbours there
names it. -/
def onGrid? (m : Nat) (q : Int) (n : Nat) : Option (Nat × Int) :=
  let unit := leadingExponent m q - (n - 1 : Nat)
  let v := Fraction.scaled m q
  let step := Fraction.decimal 1 unit
  let below := (v.num * step.den) / (v.den * step.num)
  let upper := Fraction.scaled (2 * m + 1) (q - 1)
  let lower :=
    if m = Nat.pow 2 52 && q > -1074 then Fraction.scaled (4 * m - 1) (q - 2)
    else Fraction.scaled (2 * m - 1) (q - 1)
  let inside (d : Nat) : Bool :=
    let x := Fraction.decimal d unit
    if m % 2 = 0 then Fraction.le lower x && Fraction.le x upper
    else Fraction.lt lower x && Fraction.lt x upper
  let twice := Fraction.decimal (2 * below + 1) unit
  let nearerAbove := Fraction.lt twice ⟨2 * v.num, v.den⟩
  match inside below && below != 0, inside (below + 1) with
  | true, true => some (if nearerAbove then below + 1 else below, unit)
  | true, false => some (below, unit)
  | false, true => some (below + 1, unit)
  | false, false => none

/-- Digits and exponent of the shortest decimal that names a positive `m * 2 ^ q`. -/
def shortest (m : Nat) (q : Int) : Nat × Int :=
  ((List.range 17).findSome? fun i => onGrid? m q (i + 1)).getD (m, q)

/-- `digits * 10 ^ exponent` in positional notation, with a point and a digit after it. -/
def positionalText (digits : Nat) (exponent : Int) : List Char :=
  let ds := Nat.toDigits 10 digits
  if exponent ≥ 0 then ds ++ List.replicate exponent.toNat '0' ++ ['.', '0']
  else
    let places := exponent.natAbs
    if ds.length > places then
      ds.take (ds.length - places) ++ '.' :: ds.drop (ds.length - places)
    else '0' :: '.' :: List.replicate (places - ds.length) '0' ++ ds

/-- A decimal without zeros at the end of its digits. -/
def trimmed : Nat → Nat → Int → Nat × Int
  | 0, digits, exponent => (digits, exponent)
  | fuel + 1, digits, exponent =>
    if digits ≠ 0 && digits % 10 = 0 then trimmed fuel (digits / 10) (exponent + 1)
    else (digits, exponent)

/-- A number in positional notation by its shortest decimal. -/
def positional (x : Binary64) : String :=
  let sign := if x.isNegative && !x.isNaN then "-" else ""
  match x.parts? with
  | none => if x.isNaN then "NaN" else sign ++ "inf"
  | some (m, q) =>
    if m = 0 then sign ++ "0.0"
    else
      let (digits, exponent) := shortest m q
      let (digits, exponent) := trimmed 17 digits exponent
      sign ++ String.ofList (positionalText digits exponent)

end Binary64

end RuntimeLauncher
