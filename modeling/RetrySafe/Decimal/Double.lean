import RetrySafe.Decimal.Digits

/-!
# Doubles

A 64-bit float is held as its bits, and every operation is exact integer arithmetic followed by one
rounding to the nearest double, ties to the even significand.

## Main definitions

* `Double` — the bits of a double; `Double.significand` and `Double.exponent` give its size as
  `m * 2 ^ q`.
* `nearest?`, `nearestDecimal?` — the double nearest to a quotient or a decimal, unless it is too
  large.
* `Double.ofScientific?` — the double written as `significand * 10 ^ exponent`, in two roundings.
-/

namespace RetrySafe.Decimal

/-- A 64-bit float, as its bits. -/
structure Double where
  bits : UInt64
  deriving DecidableEq, Repr

/-- Round `num / den` to a whole number, a tie to the even one. -/
def roundDiv (num den : Nat) : Nat :=
  let quotient := num / den
  let rest := 2 * (num % den)
  if rest < den then quotient
  else if den < rest then quotient + 1
  else quotient + quotient % 2

/-- A power of ten. -/
def tenTo (k : Nat) : Nat := Nat.pow 10 k

/-- The exponent `k` with `2 ^ k ≤ num / den < 2 ^ (k + 1)`, for positive `num` and `den`. -/
def binaryExponent (num den : Nat) : Int :=
  let k : Int := (num.log2 : Int) - den.log2
  if den <<< k.toNat ≤ num <<< (-k).toNat then k else k - 1

/-- How many doubles there are from a power of two to the next one, `2 ^ 52`. -/
def binade : Nat := 0x10000000000000

/-- The bits of infinity. -/
def infinityBits : Nat := 2047 * binade

/-- The bits of the double nearest to `num / den`, or none where that is at least `2 ^ 1024`. -/
def nearest? (num den : Nat) : Option Nat :=
  if num = 0 then some 0
  else
    let q := max (binaryExponent num den - 52) (-1074)
    let m := roundDiv (num <<< (-q).toNat) (den <<< q.toNat)
    let bits := (q + 1074).toNat * binade + m
    if bits < infinityBits then some bits else none

/-- The bits of the double nearest to `digits * 10 ^ exponent`, or none where that is at least
`2 ^ 1024`. Beyond 400 places it is zero or too large. -/
def nearestDecimal? (digits : List Char) (exponent : Int) : Option Nat :=
  let n := value digits
  let top := digits.length + exponent
  if n = 0 ∨ top < -400 then some 0
  else if 400 + digits.length < top then none
  else nearest? (n * tenTo exponent.toNat) (tenTo (-exponent).toNat)

namespace Double

/-- Whether the sign bit is set. -/
def isNegative (x : Double) : Bool := x.bits ≥ 0x8000000000000000

/-- The bits without the sign. -/
def magnitude (x : Double) : Nat := x.bits.toNat % 0x8000000000000000

/-- The whole number `m` of the size `m * 2 ^ q` that some magnitude bits stand for. -/
def significandOf (bits : Nat) : Nat :=
  if bits / binade = 0 then bits else binade + bits % binade

/-- The exponent `q` of the size `m * 2 ^ q` that some magnitude bits stand for. -/
def exponentOf (bits : Nat) : Int := max (bits / binade : Nat) 1 - 1075

/-- The whole number that some magnitude bits stand for, if they stand for one. -/
def whole? (bits : Nat) : Option Nat :=
  let m := significandOf bits
  let q := exponentOf bits
  if 0 ≤ q then some (m <<< q.toNat)
  else if m % Nat.pow 2 (-q).toNat = 0 then some (m >>> (-q).toNat)
  else none

/-- The double with the given sign and magnitude bits. -/
def ofMagnitude (negative : Bool) (bits : Nat) : Double :=
  ⟨UInt64.ofNat (if negative then 0x8000000000000000 + bits else bits)⟩

/-- Zero. -/
def zero : Double := ⟨0⟩

/-- The double nearest to a whole number of 64 bits. -/
def ofInt (n : Int) : Double := ofMagnitude (n < 0) ((nearest? n.natAbs 1).getD 0)

/-- The size of `bits` times or divided by a power of ten that is itself rounded to a double. -/
def scale? (bits : Nat) (power : Nat) (up : Bool) : Option Nat := do
  let ten ← nearest? (tenTo power) 1
  let m := significandOf bits
  let q := exponentOf bits
  let n := significandOf ten
  let p := exponentOf ten
  if up then nearest? ((m * n) <<< (q + p).toNat) (1 <<< (-(q + p)).toNat)
  else nearest? (m <<< (q - p).toNat) (n <<< (p - q).toNat)

/-- Scale by a power of ten in steps of at most `10 ^ 308`, stopping at zero. A step up beyond
`10 ^ 308` is refused. -/
def scaleSteps? : Nat → Nat → Int → Option Nat
  | 0, _, _ => some 0
  | steps + 1, bits, exponent =>
    if exponent.natAbs ≤ 308 then scale? bits exponent.natAbs (0 ≤ exponent)
    else if bits = 0 then some 0
    else if 0 ≤ exponent then none
    else do scaleSteps? steps (← scale? bits 308 false) (exponent + 308)

/-- The double written as `significand * 10 ^ exponent` for a significand of 64 bits: the
significand and the power of ten are rounded first, their product or quotient once more. None where
the result is too large. -/
def ofScientific? (negative : Bool) (significand : Nat) (exponent : Int) : Option Double := do
  let bits ← nearest? significand 1
  let scaled ← scaleSteps? (exponent.natAbs / 308 + 1) bits exponent
  return ofMagnitude negative scaled

end Double

end RetrySafe.Decimal
