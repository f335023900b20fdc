/-!
# Decimal digits

Whole numbers as decimal text: plain, signed, and padded on the left to a width.

## Main definitions

* `ofNat`, `ofInt` — the text of a number.
* `padded` — the text of a natural number with zeros in front up to a width.
* `takeDigits`, `spanDigits` — the digits that a text starts with, at most so many or all.
* `sign` — the sign that a text starts with.
-/

namespace RetrySafe.Decimal

/-- The decimal digits of a natural number. -/
def ofNat (n : Nat) : List Char := Nat.toDigits 10 n

/-- A whole number, with a minus sign in front of a negative one. -/
def ofInt (n : Int) : List Char :=
  if n < 0 then '-' :: ofNat n.natAbs else ofNat n.natAbs

/-- The digits of a natural number with zeros in front up to `width`. -/
def padded (width n : Nat) : List Char :=
  List.replicate (width - (ofNat n).length) '0' ++ ofNat n

/-- The value of a text of decimal digits. -/
def value (digits : List Char) : Nat := Nat.ofDigitChars 10 digits 0

/-- The digits a text starts with, at most `limit` of them, and what follows. -/
def takeDigits : Nat → List Char → List Char × List Char
  | limit + 1, c :: cs =>
    if c.isDigit then ((c :: (takeDigits limit cs).1), (takeDigits limit cs).2) else ([], c :: cs)
  | _, cs => ([], cs)

/-- All digits a text starts with, and what follows. -/
def spanDigits (cs : List Char) : List Char × List Char :=
  (cs.takeWhile Char.isDigit, cs.dropWhile Char.isDigit)

/-- A sign, if a text starts with one: whether it is a minus, and what follows. -/
def sign : List Char → Bool × List Char
  | '+' :: cs => (false, cs)
  | '-' :: cs => (true, cs)
  | cs => (false, cs)

theorem value_ofNat (n : Nat) : value (ofNat n) = n :=
  Nat.ofDigitChars_toDigits (by decide) (by decide)

end RetrySafe.Decimal
