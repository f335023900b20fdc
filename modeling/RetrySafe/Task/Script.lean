import RetrySafe.Task.Backoff
import RetrySafe.Task.Round

/-!
# Scripted tasks

A scripted task does in each round what its script says: it takes some time, changes its state, may
count up to a goal, and ends as told. Its last round repeats.

## Main definitions

* `Script.Round` — what to do in a round.
* `Script.task` — the task that follows the rounds of a script.
-/

namespace RetrySafe.Task

namespace Script

/-- How a scripted round ends. -/
inductive Finish
  | done (result : Json)
  | doneState
  | doneParams
  | fail (message : String)
  | suspend (delay : Time.Duration)
  | checkpoint
  | backoff

/-- What to do in a round. -/
structure Round where
  sleep : Nat := 0
  set : Members := []
  remove : List String := []
  reset : Bool := false
  countTo : Option Nat := none
  finish : Finish

/-- The count after this one, kept under `n`; at the goal it is the result. -/
def count (goal : Nat) (state : Members) : Except TaskError (Nat × Option Members) := do
  let n := (← state.read? "n" (Json.natural .u64)).getD 0 + 1
  return (n, if goal ≤ n then none else some (state.set "n" (.nat n)))

/-- How a round ends in a state. -/
def Finish.outcome (finish : Finish) (backoff : Backoff) (params state : Members) :
    Except TaskError Outcome :=
  match finish with
  | done result => .ok (.done result)
  | doneState => .ok (.done (.obj state))
  | doneParams => .ok (.done (.obj params))
  | fail message => .ok (.failed (.failed message))
  | suspend delay => .ok (.suspend delay state)
  | checkpoint => .ok (.checkpoint state)
  | Finish.backoff => do
    let (delay, state) ← backoff.next state
    return .suspend delay state

/-- What a round does with a state. -/
def Round.outcome (round : Round) (backoff : Backoff) (params state : Members) :
    Except TaskError Outcome := do
  let state := round.set.foldl (fun s member => s.set member.1 member.2) state
  let state := round.remove.foldl Members.erase state
  let state := if round.reset then backoff.reset state else state
  match round.countTo with
  | none => round.finish.outcome backoff params state
  | some goal =>
    match ← count goal state with
    | (n, none) => return .done (.obj [("count", .nat n)])
    | (_, some state) => round.finish.outcome backoff params state

/-- How many rounds of a script are done. -/
structure Position where
  done : Nat := 0

variable {m : Type → Type} [Monad m] [MonadStateOf Position m]

/-- The task that follows a script. A script without rounds fails. -/
def task (rounds : List Round) (backoff : Backoff) : Task m := fun params state => do
  let position ← getThe Position
  set (Position.mk (position.done + 1))
  match rounds[min position.done (rounds.length - 1)]? with
  | none => return (.failed (.failed "no round left"), 0)
  | some round =>
    return (.ofExcept (round.outcome backoff params state),
      min round.sleep Time.Duration.longestTimer)

end Script

end RetrySafe.Task
