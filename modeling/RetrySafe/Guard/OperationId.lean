import RetrySafe.Text.Separated

/-!
# Operation ids

Ids of the shape of random ones, version 4: 32 hexadecimal digits in five groups, a fixed digit at
the start of the third group and one of four at the start of the fourth. They are drawn by number,
so that no two are the same.

## Main definitions

* `OperationIds.draw` — the next id.
* `isOperationId` — the texts of that shape.
-/

namespace RetrySafe

/-- The number of ids drawn so far. -/
structure OperationIds where
  drawn : Nat := 0

/-- The id of a number. -/
def operationId (n : Nat) : String :=
  let digits := Nat.toDigits 16 n
  "00000000-0000-4000-8000-" ++
    String.ofList (List.replicate (12 - digits.length) '0' ++ digits)

/-- Draw the next id. -/
def OperationIds.draw {m : Type → Type} [Monad m] [MonadStateOf OperationIds m] : m String := do
  let ids ← getThe OperationIds
  set (OperationIds.mk (ids.drawn + 1))
  return operationId ids.drawn

/-- A hexadecimal digit in lower case. -/
def isHexDigit (c : Char) : Bool := c.isDigit || ('a' ≤ c && c ≤ 'f')

/-- A text that has the shape of a random id. -/
def isOperationId (text : String) : Bool :=
  match Text.split '-' text.toList with
  | [a, b, c, d, e] =>
    [a, b, c, d, e].all (·.all isHexDigit) && [a, b, c, d, e].map List.length = [8, 4, 4, 4, 12] &&
      c.head? = some '4' && ['8', '9', 'a', 'b'].contains (d.headD '0')
  | _ => false

end RetrySafe
