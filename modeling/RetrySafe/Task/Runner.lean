import RetrySafe.Journal
import RetrySafe.Task.Round
import RetrySafe.Task.Store

/-!
# Running tasks

A runner loads the state of a task, lets it do a round, and saves the state it suspends with or
clears the state it ends with. Time is counted in milliseconds since the run began. A run is
cancelled at an instant; that is seen only before a round and while waiting for the next one.

## Main definitions

* `Runner.step` — one round.
* `Runner.run` — rounds until the task ends, is cancelled or has had as many rounds as it may have.
* `Report` — how a run ended, and its rounds.
-/

namespace RetrySafe.Task

/-- How a run ended. -/
inductive Ending
  | completed (result : Json)
  | failed (error : TaskError)
  | cancelled

/-- A round that was begun: when, and from which state. -/
structure Begun where
  start : Nat
  state : Members

/-- What a step did: its outcome, the milliseconds it took, and the state the round was given unless
that could not be loaded. -/
structure StepReport where
  outcome : Outcome
  elapsed : Nat
  given : Option Members

/-- What a run did: its ending, the number of rounds started, the milliseconds it took, and the
rounds that were begun. -/
structure Report where
  ending : Ending
  rounds : Nat
  elapsed : Nat
  begun : List Begun

/-- A store, the longest time of a round and the largest number of rounds. -/
structure Runner (m : Type → Type) where
  store : StateStore m
  roundTimeout : Option Time.Duration := none
  maxRounds : Option Nat := none

namespace Runner

variable {m : Type → Type} [Monad m]

/-- The outcome of a round that took some milliseconds, and the milliseconds until it ended: a round
that takes too long ends when its time is over. -/
def inTime (runner : Runner m) (outcome : Outcome) (elapsed : Nat) : Outcome × Nat :=
  match runner.roundTimeout with
  | some limit =>
    if limit.timer < elapsed then (.failed (.timedOut limit), limit.timer)
    else (outcome, elapsed)
  | none => (outcome, elapsed)

/-- Keep what an outcome says. If that fails, so does the round. -/
def persist (runner : Runner m) (key : String) (outcome : Outcome) : m Outcome := do
  let kept ←
    match outcome with
    | .suspend _ state => runner.store.save key state
    | _ => runner.store.clear key
  match kept with
  | .ok () => return outcome
  | .error error => return .failed (.state error.message)

/-- One round from the stored state. -/
def step (runner : Runner m) (key : String) (task : Task m) (params : Members) :
    m StepReport := do
  match ← runner.store.load key with
  | .error error => return ⟨.failed error, 0, none⟩
  | .ok stored =>
    let state := stored.getD []
    let (outcome, elapsed) ← task params state
    let (outcome, elapsed) := runner.inTime outcome elapsed
    let outcome ← runner.persist key outcome
    return ⟨outcome, elapsed, some state⟩

/-- The cancellation is not later than an instant. -/
def cancelledBy (cancel : Option Nat) (now : Nat) : Bool :=
  match cancel with
  | some instant => instant ≤ now
  | none => false

variable [MonadWarn m]

/-- Give a task up that has had all its rounds. -/
def giveUp (runner : Runner m) (key : String) : m Unit := do
  warn "Task exceeded round limit"
  match ← runner.store.clear key with
  | .ok () => return
  | .error _ => warn "Failed to clear task state"

/-- Go on at an instant, after some rounds, with the given number of rounds to go at most. -/
def runFrom (runner : Runner m) (key : String) (task : Task m) (params : Members)
    (cancel : Option Nat) : Nat → Nat → Nat → List Begun → m (Option Report)
  | 0, _, _, _ => return none
  | fuel + 1, rounds, now, begun => do
    if cancelledBy cancel now then return some ⟨.cancelled, rounds, now, begun⟩
    if let some limit := runner.maxRounds then
      if limit ≤ rounds then
        runner.giveUp key
        return some ⟨.failed (.roundLimit limit), rounds, now, begun⟩
    let round ← runner.step key task params
    let begun := begun ++ (round.given.map (Begun.mk now)).toList
    let rounds := rounds + 1
    let now := now + round.elapsed
    match round.outcome with
    | .done result => return some ⟨.completed result, rounds, now, begun⟩
    | .failed error =>
      warn "Task failed"
      return some ⟨.failed error, rounds, now, begun⟩
    | .suspend delay _ =>
      let later := now + delay.timer
      if cancelledBy cancel later then
        return some ⟨.cancelled, rounds, max now (cancel.getD now), begun⟩
      runFrom runner key task params cancel fuel rounds later begun

/-- Rounds until the task ends or is cancelled. None if the number of rounds no longer fits into 32
bits, which takes a task that suspends four billion times without a limit. -/
def run (runner : Runner m) (key : String) (task : Task m) (params : Members)
    (cancel : Option Nat) : m (Option Report) :=
  runner.runFrom key task params cancel 0x100000000 0 0 []

end Runner

end RetrySafe.Task
