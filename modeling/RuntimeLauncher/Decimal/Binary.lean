/-!
# Binary numbers of double precision

A number in a settings file is written in decimal and held as the nearest number with a 53-bit
significand. The conversion is exact arithmetic on naturals, so it can be reasoned about.

## Main Definitions

* `Binary64` — a number by its 64 bits
* `Binary64.ofDecimal` — the nearest number to a decimal, ties to the even significand
* `Binary64.parts?` — significand and exponent of a finite number

## Design Notes

A finite number is `m * 2 ^ q` with `m < 2 ^ 53` and `q ≥ -1074`. Numbers with `m < 2 ^ 52` have
`q = -1074`, so adding the exponent's field to the significand encodes both kinds, and a
significand that rounds up to `2 ^ 53` carries into the exponent by itself.
-/

namespace RuntimeLauncher

/-- A number of double precision by its bits: sign, eleven bits of exponent, 52 of significand. -/
structure Binary64 where
  bits : Nat
deriving DecidableEq

namespace Binary64

/-- The bit of the sign. -/
def signBit : Nat := Nat.pow 2 63

/-- The bits of positive infinity. -/
def infinityBits : Nat := 0x7ff * Nat.pow 2 52

/-- Infinity with a sign. -/
def infinity (negative : Bool) : Binary64 := ⟨infinityBits + if negative then signBit else 0⟩

/-- The value that is no number. -/
def nan : Binary64 := ⟨infinityBits + Nat.pow 2 51⟩

/-- The number is negative, or negative zero. -/
def isNegative (x : Binary64) : Bool := x.bits ≥ signBit

/-- The bits without the sign. -/
def magnitude (x : Binary64) : Nat := x.bits % signBit

/-- The value is no number. -/
def isNaN (x : Binary64) : Bool := x.magnitude > infinityBits

/-- The value is a number other than the infinities. -/
def isFinite (x : Binary64) : Bool := x.magnitude < infinityBits

/-- Equality of values: both zeros are one value, and there is one value that is no number. -/
def sameValue (x y : Binary64) : Bool :=
  if x.isNaN || y.isNaN then x.isNaN && y.isNaN
  else x.bits == y.bits || (x.magnitude == 0 && y.magnitude == 0)

/-- The quotient rounded to the nearest natural, a tie to the even one. -/
def roundDiv (num den : Nat) : Nat :=
  let quotient := num / den
  let rest := num % den
  if 2 * rest > den || (2 * rest == den && quotient % 2 == 1) then quotient + 1 else quotient

/-- The bits of the number nearest to `num / den`, for a positive quotient. -/
def magnitudeOfQuotient (num den : Nat) : Nat :=
  let guess : Int := (Nat.log2 num : Int) - (Nat.log2 den : Int) - 53
  let least : Int := -1074
  let scaled (q : Int) : Nat × Nat :=
    if q < 0 then (num * Nat.pow 2 q.natAbs, den) else (num, den * Nat.pow 2 q.toNat)
  let low := max guess least
  let first := scaled low
  let q := if first.1 / first.2 ≥ Nat.pow 2 53 then low + 1 else low
  let exact := scaled q
  let m := roundDiv exact.1 exact.2
  if m < Nat.pow 2 52 then m else (q + 1075).toNat * Nat.pow 2 52 + (m - Nat.pow 2 52)

/-- The number of decimal digits of a natural. -/
def digitCount (n : Nat) : Nat := (Nat.toDigits 10 n).length

/-- The number nearest to `digits * 10 ^ exponent`, infinity if it is too large. -/
def ofDecimal (negative : Bool) (digits : Nat) (exponent : Int) : Binary64 :=
  let sign := if negative then signBit else 0
  let top := (digitCount digits : Int) + exponent
  if digits = 0 || top < -330 then ⟨sign⟩
  else if top > 310 then infinity negative
  else
    let magnitude :=
      if exponent < 0 then magnitudeOfQuotient digits (Nat.pow 10 exponent.natAbs)
      else magnitudeOfQuotient (digits * Nat.pow 10 exponent.toNat) 1
    if magnitude ≥ infinityBits then infinity negative else ⟨magnitude + sign⟩

/-- Significand and exponent of a finite number: its magnitude is `m * 2 ^ q`. -/
def parts? (x : Binary64) : Option (Nat × Int) :=
  if !x.isFinite then none
  else
    let field : Nat := x.magnitude / Nat.pow 2 52
    let fraction : Nat := x.magnitude % Nat.pow 2 52
    if field = 0 then some (fraction, -1074)
    else some (fraction + Nat.pow 2 52, (field : Int) - 1075)

end Binary64

end RuntimeLauncher
