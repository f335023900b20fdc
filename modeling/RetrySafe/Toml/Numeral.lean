import RetrySafe.Decimal.Double
import RetrySafe.Json.Reader

/-!
# TOML numbers

An integer has 64 bits; it is decimal with an optional sign, or hexadecimal, octal or binary without
one. Single underscores may stand between digits. A float has a fraction, an exponent or both, or is
infinite or no number; a finite one that is too large to write is refused unless it is negative.

## Main definitions

* `grouped` — digits with underscores between them.
* `integer`, `float` — the two kinds of numbers.
-/

namespace RetrySafe.Toml

open RetrySafe.Decimal (Double sign)

/-- More digits of a number, an underscore before any of them. -/
def groupedRest (isDigit : Char → Bool) : List Char → List Char × List Char
  | [] => ([], [])
  | '_' :: c :: cs =>
    if isDigit c then
      let (digits, rest) := groupedRest isDigit cs
      (c :: digits, rest)
    else ([], '_' :: c :: cs)
  | c :: cs =>
    if isDigit c then
      let (digits, rest) := groupedRest isDigit cs
      (c :: digits, rest)
    else ([], c :: cs)

/-- Digits, single underscores between them. -/
def grouped (isDigit : Char → Bool) : List Char → Option (List Char × List Char)
  | [] => none
  | c :: cs => if isDigit c then some (groupedRest isDigit (c :: cs)) else none

/-- The digits of a decimal whole number: zero, or digits that do not start with zero. -/
def whole : List Char → Option (List Char × List Char)
  | '0' :: cs => some (['0'], cs)
  | cs => grouped Char.isDigit cs

/-! ## Integers -/

/-- An integer in 64 bits. -/
def inRange? (n : Int) : Option Int :=
  if -0x8000000000000000 ≤ n ∧ n < 0x8000000000000000 then some n else none

/-- Whether a character is a digit of a base up to sixteen. -/
def isDigitOf (base : Nat) (c : Char) : Bool := (Json.hexDigit? c).any (· < base)

/-- A number of a base, after its mark. -/
def based (base : Nat) (cs : List Char) : Option (Int × List Char) := do
  let (digits, cs) ← grouped (isDigitOf base) cs
  let n := digits.foldl (fun n c => n * base + (Json.hexDigit? c).getD 0) 0
  return (← inRange? n, cs)

/-- An integer. -/
def integer : List Char → Option (Int × List Char)
  | '0' :: 'x' :: cs => based 16 cs
  | '0' :: 'o' :: cs => based 8 cs
  | '0' :: 'b' :: cs => based 2 cs
  | cs => do
    let (negative, cs) := sign cs
    let (digits, cs) ← whole cs
    let n : Int := Decimal.value digits
    return (← inRange? (if negative then -n else n), cs)

/-! ## Floats -/

/-- The double with the size of the bits that infinity has. -/
def infinite (negative : Bool) : Double := .ofMagnitude negative Decimal.infinityBits

/-- The double that stands for no number. -/
def noNumber (negative : Bool) : Double :=
  .ofMagnitude negative (Decimal.infinityBits + Decimal.binade / 2)

/-- The double nearest to `digits * 10 ^ exponent`. A negative one that is too large is infinite. -/
def decimal? (negative : Bool) (digits : List Char) (exponent : Int) : Option Double :=
  match Decimal.nearestDecimal? digits exponent with
  | some bits => some (.ofMagnitude negative bits)
  | none => if negative then some (infinite true) else none

/-- An exponent, after its letter. -/
def exponent (cs : List Char) : Option (Int × List Char) := do
  let (negative, cs) := sign cs
  let (digits, cs) ← grouped Char.isDigit cs
  let n : Int := Decimal.value digits
  return (if negative then -n else n, cs)

/-- The exponent of a float, if it has one. -/
def exponent? : List Char → Option (Option Int × List Char)
  | 'e' :: cs | 'E' :: cs => (exponent cs).map fun (n, cs) => (some n, cs)
  | cs => some (none, cs)

/-- The digits after the point of a float, if it has one. -/
def fraction? : List Char → Option (Option (List Char) × List Char)
  | '.' :: cs => (grouped Char.isDigit cs).map fun (digits, cs) => (some digits, cs)
  | cs => some (none, cs)

/-- A float. -/
def float (cs : List Char) : Option (Double × List Char) :=
  match sign cs with
  | (negative, 'i' :: 'n' :: 'f' :: cs) => some (infinite negative, cs)
  | (negative, 'n' :: 'a' :: 'n' :: cs) => some (noNumber negative, cs)
  | (negative, cs) => do
    let (digits, cs) ← whole cs
    let (fraction, cs) ← fraction? cs
    let (exponent, cs) ← exponent? cs
    if fraction.isNone ∧ exponent.isNone then none
    let fraction := fraction.getD []
    return (← decimal? negative (digits ++ fraction) (exponent.getD 0 - fraction.length), cs)

end RetrySafe.Toml
