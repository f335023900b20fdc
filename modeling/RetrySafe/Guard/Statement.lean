import RetrySafe.Guard.Basic
import RetrySafe.Task.Backoff
import RetrySafe.Task.Round

/-!
# Guarded statements

A guarded statement is a task that runs one statement under a guard. Its first round only draws an
operation id and keeps it in the state, so that the id outlives a crash before anything is done.
Later rounds run the statement under that id; a lock conflict suspends the task for an interval that
doubles each time.

## Main definitions

* `GuardedStatement.of` — the task's parts; connects once to learn what the target can do.
* `GuardedStatement.round` — a round.
-/

namespace RetrySafe

/-- A statement under a guard. -/
structure GuardedStatement (m : Type → Type) where
  connector : Connector m
  guard : Guard
  backoff : Task.Backoff

namespace GuardedStatement

variable {m : Type → Type} [Monad m] [MonadWarn m]

/-- Connect to learn what the target can do, and choose the guard. -/
def of (connector : Connector m) (settings : Config.Guard) (backoff : Task.Backoff) :
    m (Except GuardError (GuardedStatement m)) := do
  match ← connector with
  | .error error => return .error error
  | .ok connection =>
    let guard ← Guard.ofSettings settings connection.target.capabilities
    connection.close
    return guard.map fun guard => ⟨connector, guard, backoff⟩

/-- Run a statement under an operation id on a connection that is set up. -/
def executeGuarded (task : GuardedStatement m) (target : Target m) (statement operation : String) :
    m (Except GuardError Execution) := do
  match ← task.guard.prepare target with
  | .error error => return .error error
  | .ok () =>
    let action : m (Except GuardError Unit) := do
      return (← target.execute statement).map fun _ => ()
    task.guard.execute target operation action

/-- Run a statement under an operation id on a connection, and clean up if that went well. -/
def executeOn (task : GuardedStatement m) (target : Target m) (statement operation : String) :
    ExceptT OutOfCalendar m (Except GuardError Execution) := do
  let result ← ExceptT.lift (task.executeGuarded target statement operation)
  if result matches .ok _ then task.guard.cleanupBestEffort target
  return result

/-- Run a statement under an operation id on a connection of its own. -/
def execute (task : GuardedStatement m) (statement operation : String) :
    ExceptT OutOfCalendar m (Except GuardError Execution) :=
  ExceptT.mk do
    match ← task.connector with
    | .error error => return .ok (.error error)
    | .ok connection =>
      let result ← (task.executeOn connection.target statement operation).run
      connection.close
      return result

/-- How the round of an execution ends. -/
def outcome (task : GuardedStatement m) (operation : String) (state : Members) :
    Except GuardError Execution → Task.Outcome
  | .ok execution =>
    .done (.obj [("applied", .bool (execution = .applied)), ("operation_id", .str operation)])
  | .error (.lockConflict _) =>
    .ofExcept ((task.backoff.next state).map fun (delay, state) => .suspend delay state)
  | .error error => .failed (.failed error.message)

/-- A round: draw an operation id if there is none, or else run the statement. -/
def round (task : GuardedStatement m) (freshId : m String) : Task (ExceptT OutOfCalendar m) :=
  fun params state => do
    match params.get? Defaults.statementKey with
    | some (.str statement) =>
      match state.read? Defaults.operationKey Json.string? with
      | .error error => return (.failed error, 0)
      | .ok none =>
        let operation ← freshId
        return (.checkpoint (state.set Defaults.operationKey (.str operation)), 0)
      | .ok (some operation) =>
        return (task.outcome operation state (← task.execute statement operation), 0)
    | _ => return (.failed (.failed ("missing '" ++ Defaults.statementKey ++ "' parameter")), 0)

end GuardedStatement

end RetrySafe
