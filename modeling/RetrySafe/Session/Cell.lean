import RetrySafe.Decimal.Double
import RetrySafe.Session.Error

/-!
# What a column of numbers holds

A column of numbers holds whole numbers of 64 bits unless something else is put into it. A text
that is a number becomes that number: a whole one if it is whole and fits, or else the nearest
double. Any other text stays what it is. Reading a field looks at the type first.

## Main definitions

* `Session.Cell` — a whole number, a double or a text.
* `Cell.ofText` — what a column of numbers makes of a text.
* `Cell.whole?` — the whole number in the column of an index.
-/

namespace RetrySafe.Session

open RetrySafe.Decimal (Double)

/-- What a column of numbers holds. -/
inductive Cell
  | whole (n : Int)
  | real (x : Double)
  | text (t : String)
  deriving DecidableEq, Repr

namespace Cell

/-- The largest whole number. -/
def maxWhole : Int := 0x7FFFFFFFFFFFFFFF

/-- A whole number fits. -/
def Fits (n : Int) : Prop := -maxWhole - 1 ≤ n ∧ n ≤ maxWhole

instance (n : Int) : Decidable (Fits n) := inferInstanceAs (Decidable (_ ∧ _))

/-- The blanks that may stand around a number. -/
def isSpace (c : Char) : Bool := c = ' ' || ('\t' ≤ c && c ≤ '\x0d')

/-- A number as it is written: its sign, its digits, the exponent of the last one, and whether it
has neither a point nor an exponent. -/
structure Numeral where
  negative : Bool
  digits : List Char
  exponent : Int
  isPlain : Bool

/-- An exponent, if there is one; after its letter there has to be a digit. -/
def exponent? (cs : List Char) : Option (Option Int × List Char) :=
  match cs with
  | 'e' :: rest | 'E' :: rest =>
    let (negative, rest) := Decimal.sign rest
    match Decimal.spanDigits rest with
    | ([], _) => none
    | (digits, rest) =>
      let n : Int := Decimal.value digits
      some (some (if negative then -n else n), rest)
  | cs => some (none, cs)

/-- The digits after a point, if there is one. -/
def fraction (cs : List Char) : Option (List Char) × List Char :=
  match cs with
  | '.' :: rest => ((Decimal.spanDigits rest).1, (Decimal.spanDigits rest).2)
  | cs => (none, cs)

/-- The number that makes up a text, apart from blanks around it. -/
def numeral? (text : String) : Option Numeral := do
  let (negative, cs) := Decimal.sign (text.toList.dropWhile isSpace)
  let (digits, cs) := Decimal.spanDigits cs
  let (places, cs) := fraction cs
  let digits := digits ++ places.getD []
  if digits = [] then none
  let (exponent, cs) ← exponent? cs
  if !cs.all isSpace then none
  return { negative, digits, exponent := exponent.getD 0 - (places.getD []).length,
           isPlain := places.isNone && exponent.isNone }

/-- With a sign. -/
def signed (negative : Bool) (n : Nat) : Int := if negative then -n else n

/-- What is held of a number that is not a whole one that fits as it is written: the nearest double,
which is held as a whole number if it is a smaller one. -/
def nearest (numeral : Numeral) : Cell :=
  let bits := (Decimal.nearestDecimal? numeral.digits numeral.exponent).getD Decimal.infinityBits
  match Double.whole? bits with
  | some n =>
    if n ≤ maxWhole ∧ bits ≠ Decimal.infinityBits then whole (signed numeral.negative n)
    else real (.ofMagnitude numeral.negative bits)
  | none => real (.ofMagnitude numeral.negative bits)

/-- What is held of a number. -/
def ofNumeral (numeral : Numeral) : Cell :=
  let n := signed numeral.negative (Decimal.value numeral.digits)
  if numeral.isPlain ∧ Fits n then whole n else nearest numeral

/-- What a column of numbers makes of a text. -/
def ofText (t : String) : Cell :=
  match numeral? t with
  | some numeral => ofNumeral numeral
  | none => text t

/-- The name of the type. -/
def type : Cell → String
  | whole _ => "Integer"
  | real _ => "Real"
  | text _ => "Text"

/-- The whole number in the column of an index. -/
def whole? (cell : Cell) (index : Nat) (column : String) : Except StoreFault Int :=
  match cell with
  | whole n => .ok n
  | cell => .error (.wrongType cell.type index column)

/-- The whole number, or nothing, in the column of an index. -/
def optionalWhole? (cell : Option Cell) (index : Nat) (column : String) :
    Except StoreFault (Option Int) :=
  match cell with
  | none => .ok none
  | some cell => (cell.whole? index column).map some

end Cell

end RetrySafe.Session
