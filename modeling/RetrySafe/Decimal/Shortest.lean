import RetrySafe.Decimal.Double

/-!
# The shortest decimal of a double

A double is written with the fewest decimal digits that read back to it; of several such decimals
the one nearest to its exact value is taken. The search is exact integer arithmetic: for one digit,
two digits and so on, the two neighbours of the value on that decimal grid are tried.

## Main definitions

* `readsBack` — whether a decimal lies among the reals that round to a double.
* `shortest` — the fewest digits and their power of ten.
* `Double.text` — the written form: positional from `10 ^ -5` up to below `10 ^ 16`, with at least
  one digit after the point, and scientific outside.
-/

namespace RetrySafe.Decimal

/-- A decimal, `digits * 10 ^ exponent`. -/
structure Scientific where
  digits : Nat
  exponent : Int
  deriving DecidableEq, Repr

/-- Compare `a * 10 ^ i` with `n * 2 ^ j`. -/
def compareScaled (a : Nat) (i : Int) (n : Nat) (j : Int) : Ordering :=
  compare ((a * tenTo i.toNat) <<< (-j).toNat) ((n * tenTo (-i).toNat) <<< j.toNat)

/-- Whether a decimal lies among the reals that round to the size of `bits`. The interval ends half
way to the neighbours; the ends belong to it when the significand is even, and below a power of two
the lower half is half as wide. -/
def readsBack (bits : Nat) (d : Scientific) : Bool :=
  let m := Double.significandOf bits
  let q := Double.exponentOf bits
  let low := if bits % binade = 0 && 1 < bits / binade then 4 * m - 1 else 4 * m - 2
  let below := compareScaled d.digits d.exponent low (q - 2)
  let above := compareScaled d.digits d.exponent (4 * m + 2) (q - 2)
  let closed := m % 2 = 0
  (below == .gt || (closed && below == .eq)) && (above == .lt || (closed && above == .eq))

/-- The least `k` with `m * 2 ^ q < 10 ^ k`, for positive `m`, found upward from `k`. -/
def pointPosition (m : Nat) (q : Int) : Nat → Int → Int
  | 0, k => k
  | steps + 1, k =>
    if compareScaled 1 k m q == .gt then k else pointPosition m q steps (k + 1)

/-- The decimal nearest to `bits` on the grid of `10 ^ exponent`, if one of the two neighbours of
the value on that grid reads back. -/
def onGrid? (bits : Nat) (exponent : Int) : Option Scientific :=
  let m := Double.significandOf bits
  let q := Double.exponentOf bits
  let num := (m * tenTo (-exponent).toNat) <<< q.toNat
  let den := tenTo exponent.toNat <<< (-q).toNat
  let floor : Scientific := ⟨num / den, exponent⟩
  let ceiling : Scientific := ⟨num / den + 1, exponent⟩
  match readsBack bits floor, readsBack bits ceiling with
  | true, true => some ⟨roundDiv num den, exponent⟩
  | true, false => some floor
  | false, true => some ceiling
  | false, false => none

/-- The fewest digits that read back to the size of `bits`, which is not zero. Seventeen digits
always suffice; the exact value stands at the end of the search. -/
def shortest (bits : Nat) : Scientific :=
  let m := Double.significandOf bits
  let q := Double.exponentOf bits
  let start := ((m.log2 : Int) + q) * 30103 / 100000
  let point := pointPosition m q 4 start
  match (List.range 17).findSome? fun (n : Nat) => onGrid? bits (point - (n + 1)) with
  | some found => found
  | none => ⟨(m * Nat.pow 5 (-q).toNat) <<< q.toNat, -(-q).toNat⟩

/-- Move up to `steps` zeros at the end of the digits into the exponent. -/
def stripZeros : Nat → Scientific → Scientific
  | 0, d => d
  | steps + 1, d =>
    if d.digits % 10 = 0 then stripZeros steps ⟨d.digits / 10, d.exponent + 1⟩ else d

/-- The layout of a decimal: positional while the point stands from five places before the first
digit to sixteen after it, scientific otherwise. -/
def Scientific.text (d : Scientific) : List Char :=
  let digits := ofNat d.digits
  let point := digits.length + d.exponent
  if 0 < point ∧ point ≤ 16 then
    if 0 ≤ d.exponent then digits ++ List.replicate d.exponent.toNat '0' ++ ['.', '0']
    else digits.take point.toNat ++ '.' :: digits.drop point.toNat
  else if -5 < point ∧ point ≤ 0 then
    '0' :: '.' :: (List.replicate (-point).toNat '0' ++ digits)
  else
    let sign := if 0 ≤ point - 1 then '+' else '-'
    let mark := 'e' :: sign :: ofNat (point - 1).natAbs
    match digits with
    | [digit] => digit :: mark
    | digit :: rest => digit :: '.' :: (rest ++ mark)
    | [] => mark

/-- The written form of a double. -/
def Double.text (x : Double) : List Char :=
  let sign := if x.isNegative then ['-'] else []
  if x.magnitude = 0 then sign ++ ['0', '.', '0']
  else sign ++ (stripZeros 20 (shortest x.magnitude)).text

end RetrySafe.Decimal
