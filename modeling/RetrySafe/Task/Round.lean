import RetrySafe.Task.Error

/-!
# Rounds

A task works in rounds. A round is given the parameters of the task and the state it kept last time,
takes some time, and ends the task or suspends it with a new state.

## Main definitions

* `Outcome` — what a round decided.
* `Task` — the rounds of a task, with effects.
-/

namespace RetrySafe.Task

/-- What a round decided. -/
inductive Outcome
  /-- The task is finished, with a result. -/
  | done (result : Json)
  /-- Another round, from a state, after a delay. -/
  | suspend (delay : Time.Duration) (state : Members)
  /-- The task has failed. -/
  | failed (error : TaskError)

namespace Outcome

/-- Another round from a state at once. -/
def checkpoint (state : Members) : Outcome := suspend .zero state

/-- No further round. -/
def isTerminal : Outcome → Bool
  | suspend _ _ => false
  | _ => true

/-- The outcome of a round that may end in an error. -/
def ofExcept : Except TaskError Outcome → Outcome
  | .ok outcome => outcome
  | .error error => failed error

end Outcome

end Task

/-- The rounds of a task: from parameters and a state to an outcome and the milliseconds it took. -/
abbrev Task (m : Type → Type) := Members → Members → m (Task.Outcome × Nat)

end RetrySafe
