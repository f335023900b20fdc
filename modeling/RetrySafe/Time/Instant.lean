import RetrySafe.Time.Date
import RetrySafe.Time.Duration

/-!
# Instants

An instant is a number of whole seconds since 1970-01-01T00:00:00Z and a number of nanoseconds. A
leap second is the second before it with ten to the nine nanoseconds or more, so nanoseconds reach
up to two seconds in the last second of a minute. Instants are ordered by their seconds, then by
their nanoseconds.

## Main definitions

* `Instant` — seconds and nanoseconds.
* `Instant.InCalendar` — the year is one that instants can have.
* `Instant.truncated` — without what is below a microsecond.
* `Instant.minus?` — earlier by a duration, inside the calendar.
* `Clock` — the readings of a clock, an input of everything that is dated.
-/

namespace RetrySafe.Time

/-- A moment in time. -/
structure Instant where
  seconds : Int
  nanos : Nat
  nanos_lt : nanos < 2000000000
  leap : 1000000000 ≤ nanos → seconds % 60 = 59
  deriving DecidableEq

namespace Instant

/-- A whole second. -/
def ofSeconds (seconds : Int) : Instant :=
  ⟨seconds, 0, by decide, fun h => absurd h (by decide)⟩

/-- The instant of some seconds and nanoseconds, if they are one. -/
def of? (seconds : Int) (nanos : Nat) : Option Instant :=
  if h : nanos < 2000000000 ∧ (1000000000 ≤ nanos → seconds % 60 = 59) then
    some ⟨seconds, nanos, h.1, h.2⟩
  else none

/-- Ordered by seconds, then by nanoseconds. -/
instance : LT Instant :=
  ⟨fun a b => a.seconds < b.seconds ∨ a.seconds = b.seconds ∧ a.nanos < b.nanos⟩

instance : LE Instant :=
  ⟨fun a b => a.seconds < b.seconds ∨ a.seconds = b.seconds ∧ a.nanos ≤ b.nanos⟩

instance (a b : Instant) : Decidable (a < b) :=
  inferInstanceAs (Decidable (a.seconds < b.seconds ∨ a.seconds = b.seconds ∧ a.nanos < b.nanos))

instance (a b : Instant) : Decidable (a ≤ b) :=
  inferInstanceAs (Decidable (a.seconds < b.seconds ∨ a.seconds = b.seconds ∧ a.nanos ≤ b.nanos))

/-- The date of an instant. -/
def date (t : Instant) : Date := Date.ofDays (t.seconds / 86400)

/-- The second of the day. -/
def secondOfDay (t : Instant) : Nat := (t.seconds % 86400).toNat

/-- The years of the calendar. -/
def InCalendar (t : Instant) : Prop := -262143 ≤ t.date.year ∧ t.date.year ≤ 262142

instance (t : Instant) : Decidable t.InCalendar := by unfold InCalendar; infer_instance

/-- No part of a second beside the whole seconds. -/
def IsWholeSecond (t : Instant) : Prop := t.nanos = 0

instance (t : Instant) : Decidable t.IsWholeSecond := by unfold IsWholeSecond; infer_instance

/-- Without what is below a microsecond. -/
def truncated (t : Instant) : Instant :=
  ⟨t.seconds, t.nanos - t.nanos % 1000, Nat.lt_of_le_of_lt (Nat.sub_le _ _) t.nanos_lt,
    fun h => t.leap (Nat.le_trans h (Nat.sub_le _ _))⟩

/-- The nanoseconds since 1970, leap seconds counted as the second before them. -/
def totalNanos (t : Instant) : Int := t.seconds * 1000000000 + t.nanos

/-- The instant so many nanoseconds after 1970. -/
def ofTotalNanos (total : Int) : Instant :=
  ⟨total / 1000000000, (total % 1000000000).toNat, by omega, by omega⟩

/-- Earlier by some nanoseconds, if that is in the calendar. Inside a leap second the time can move
without leaving it; from there back to an ordinary second the leap second counts for nothing. -/
def minus? (t : Instant) (nanos : Nat) : Option Instant :=
  let earlier : Instant :=
    if h : 1000000000 ≤ t.nanos ∧ nanos ≤ t.nanos - 1000000000 then
      ⟨t.seconds, t.nanos - nanos, Nat.lt_of_le_of_lt (Nat.sub_le _ _) t.nanos_lt,
        fun _ => t.leap h.1⟩
    else ofTotalNanos (t.totalNanos - nanos)
  if earlier.InCalendar then some earlier else none

end Instant

/-- The readings of a clock: the `n`-th time anyone asks, the answer is `reading n`. Nothing else is
assumed of them. -/
structure Clock where
  reading : Nat → Instant
  taken : Nat := 0

namespace Clock

/-- The next reading. -/
def now (clock : Clock) : Instant := clock.reading clock.taken

/-- The clock after one reading. -/
def advanced (clock : Clock) : Clock := { clock with taken := clock.taken + 1 }

end Clock

end RetrySafe.Time
