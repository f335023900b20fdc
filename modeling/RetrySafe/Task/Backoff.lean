import RetrySafe.Defaults
import RetrySafe.Task.Error

/-!
# Polling intervals

A back-off hands out intervals from its floor on, each twice the one before and none above its
ceiling. The interval to hand out next is kept in the state of the task, in whole seconds.

## Main definitions

* `Backoff`, `Backoff.of` — a state member, a floor and a ceiling.
* `Backoff.interval` — the interval that a state stands for.
* `Backoff.next` — that interval, and the state with the next one.
-/

namespace RetrySafe.Task

open RetrySafe.Time (Duration)

/-- The bounds of polling intervals and the member that holds the next one. The floor is at least a
second, because intervals are kept as whole seconds and one of none would never grow. -/
structure Backoff where
  key : String
  floor : Duration
  ceiling : Duration
  second_le : Duration.ofSecs 1 ≤ floor
  floor_le : floor ≤ ceiling

namespace Backoff

/-- The back-off with the given bounds; a floor below a second and a ceiling below the floor are
raised. -/
def of (key : String) (floor ceiling : Duration) : Backoff where
  key := key
  floor := floor.max (.ofSecs 1)
  ceiling := ceiling.max (floor.max (.ofSecs 1))
  second_le := Duration.le_max_right _ _
  floor_le := Duration.le_max_right _ _

/-- The back-off that holds where nothing else is configured. -/
def standard : Backoff := of Defaults.pollKey Defaults.initialPoll Defaults.maxPoll

/-- A duration moved into the bounds. -/
def clamp (backoff : Backoff) (d : Duration) : Duration := (d.max backoff.floor).min backoff.ceiling

/-- The interval that a state stands for: the stored one inside the bounds, or the floor. -/
def interval (backoff : Backoff) (state : Members) : Except TaskError Duration := do
  match ← state.read? backoff.key (Json.natural .u64) with
  | some secs => return backoff.clamp (.ofSecs secs)
  | none => return backoff.clamp backoff.floor

/-- The interval that a state stands for, and the state with the one after it. -/
def next (backoff : Backoff) (state : Members) : Except TaskError (Duration × Members) := do
  let current ← backoff.interval state
  let later := current.doubled.min backoff.ceiling
  return (current, state.set backoff.key (.nat later.secs))

/-- The state without an interval. -/
def reset (backoff : Backoff) (state : Members) : Members := state.erase backoff.key

end Backoff

end RetrySafe.Task
