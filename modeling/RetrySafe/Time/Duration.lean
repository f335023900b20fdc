import RetrySafe.Decimal.Digits

/-!
# Durations

A duration is a number of nanoseconds of at most `2 ^ 64 - 1` whole seconds and a fraction.

## Main definitions

* `Duration` — a bounded number of nanoseconds; `secs` and `subsecNanos` are its two parts.
* `Duration.doubled` — twice as long, or the longest duration.
* `Duration.timer` — the whole milliseconds after which a timer of this duration fires.
* `Duration.text` — the duration in the largest unit of which it holds one.
-/

namespace RetrySafe.Time

/-- A duration in nanoseconds. -/
structure Duration where
  nanos : Nat
  nanos_le : nanos ≤ 18446744073709551615999999999 := by decide
  deriving DecidableEq

namespace Duration

/-- The longest duration. -/
def longest : Duration := ⟨18446744073709551615999999999, Nat.le_refl _⟩

/-- A number of nanoseconds, cut to the longest duration. -/
def ofNanos (nanos : Nat) : Duration := ⟨min nanos longest.nanos, Nat.min_le_right _ _⟩

/-- A number of seconds, cut to the longest duration. -/
def ofSecs (secs : Nat) : Duration := ofNanos (secs * 1000000000)

/-- No time at all. -/
def zero : Duration := ⟨0, by decide⟩

/-- The whole seconds. -/
def secs (d : Duration) : Nat := d.nanos / 1000000000

/-- The nanoseconds beside the whole seconds. -/
def subsecNanos (d : Duration) : Nat := d.nanos % 1000000000

instance : LE Duration := ⟨fun a b => a.nanos ≤ b.nanos⟩

instance (a b : Duration) : Decidable (a ≤ b) := inferInstanceAs (Decidable (a.nanos ≤ b.nanos))

/-- The longer of two durations. -/
protected def max (a b : Duration) : Duration := if a ≤ b then b else a

/-- The shorter of two durations. -/
protected def min (a b : Duration) : Duration := if a ≤ b then a else b

/-- Twice as long, or the longest duration where that is too long. -/
def doubled (d : Duration) : Duration := ofNanos (2 * d.nanos)

/-- The longest time that a timer runs: the milliseconds of thirty years of 365 days. -/
def longestTimer : Nat := 946080000000

/-- The milliseconds after which a timer of this duration fires: the first whole number of them not
before the duration is over, unless that is longer than a timer runs. -/
def timer (d : Duration) : Nat := min ((d.nanos + 999999) / 1000000) longestTimer

/-- The digits after the point: `nanos` counted in a unit of `unit` nanoseconds, with `places`
places and without the zeros at the end. -/
def fractionText (places rest : Nat) : List Char :=
  match ((Decimal.padded places rest).reverse.dropWhile (· == '0')).reverse with
  | [] => []
  | digits => '.' :: digits

/-- The duration in the largest of seconds, milliseconds, microseconds and nanoseconds of which it
holds one, with the fraction it needs. -/
def text (d : Duration) : String :=
  let inUnit (unit places : Nat) (name : String) : String :=
    String.ofList (Decimal.ofNat (d.nanos / unit) ++ fractionText places (d.nanos % unit)) ++ name
  if 1000000000 ≤ d.nanos then inUnit 1000000000 9 "s"
  else if 1000000 ≤ d.nanos then inUnit 1000000 6 "ms"
  else if 1000 ≤ d.nanos then inUnit 1000 3 "µs"
  else inUnit 1 0 "ns"

theorem le_max_right (a b : Duration) : b ≤ a.max b := by
  unfold Duration.max
  split
  · exact Nat.le_refl _
  · next h => exact Nat.le_of_lt (Nat.lt_of_not_le h)

end Duration

end RetrySafe.Time
