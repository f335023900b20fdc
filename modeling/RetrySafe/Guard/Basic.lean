import RetrySafe.Config.Basic
import RetrySafe.Journal
import RetrySafe.Target.Basic

/-!
# Guarding an action

A strict guard registers an operation, begins a transaction, locks the row of the operation and runs
the action only if the row does not say that it was completed. Completion is recorded in the same
transaction. Whatever fails after the transaction has begun ends in a rollback. A guard that is not
strict just runs the action.

## Main definitions

* `Guard` — the two kinds of guards.
* `Guard.execute` — an action under a guard.
* `Guard.cleanup` — delete the status rows that are older than the retention.
* `Guard.ofSettings` — the guard for some settings and a target.
-/

namespace RetrySafe

open RetrySafe.Time (Duration Instant)

/-- Whether an action ran in this call. -/
inductive Execution
  | applied
  /-- An earlier call completed it. -/
  | alreadyApplied
  deriving DecidableEq, Repr

/-- How actions are guarded. -/
inductive Guard
  /-- At most once for each operation id, as recorded in a table whose rows are kept for a while. -/
  | strict (table : StatusTable) (retention : Duration)
  /-- In every call. -/
  | nonStrict

/-- The cutoff of a cleanup lies outside the calendar. -/
structure OutOfCalendar where
  deriving DecidableEq, Repr

namespace Guard

variable {m : Type → Type} [Monad m] [MonadWarn m]

/-- The error for an action that was applied for good without being recorded. -/
def notRecorded (operation : String) (cause : GuardError) : m GuardError := do
  warn "Guarded action applied but its completion was not recorded"
  return .notRecorded operation cause.message

/-- Inside the transaction: run the action unless the row says that it was completed, and record its
completion. -/
def runLocked (target : Target m) (table : StatusTable) (operation : String)
    (action : m (Except GuardError Unit)) : m (Except GuardError Execution) := do
  match ← target.lock table operation with
  | .error error => return .error error
  | .ok (some _) => return .ok .alreadyApplied
  | .ok none =>
    match ← action with
    | .error error => return .error error.ofAction
    | .ok () =>
      match ← target.mark table operation with
      | .ok () => return .ok .applied
      | .error error =>
        if target.capabilities.transactional then return .error error
        else return .error (← notRecorded operation error)

/-- Take back what a transaction did, with a warning if that fails. -/
def takeBack (target : Target m) (occasion : String) : m Unit := do
  match ← target.rollback with
  | .ok () => return
  | .error _ => warn ("Rollback after failed " ++ occasion ++ " failed")

/-- End the transaction of an execution. -/
def conclude (target : Target m) (operation : String) (execution : Execution) :
    m (Except GuardError Execution) := do
  match ← target.commit with
  | .ok () => return .ok execution
  | .error error =>
    takeBack target "commit"
    if execution = .applied ∧ !target.capabilities.transactional then
      return .error (← notRecorded operation error)
    else return .error (error.namedFor operation)

/-- An action under a strict guard. -/
def executeStrict (target : Target m) (table : StatusTable) (operation : String)
    (action : m (Except GuardError Unit)) : m (Except GuardError Execution) := do
  match ← target.register table operation with
  | .error error => return .error (error.namedFor operation)
  | .ok () =>
    match ← target.start with
    | .error error => return .error (error.namedFor operation)
    | .ok () =>
      match ← runLocked target table operation action with
      | .ok execution => conclude target operation execution
      | .error error =>
        takeBack target "guarded action"
        return .error (error.namedFor operation)

/-- Set up what a guard needs. -/
def prepare (guard : Guard) (target : Target m) : m (Except GuardError Unit) :=
  match guard with
  | strict table _ => target.createTable table
  | nonStrict => return .ok ()

/-- An action under a guard. -/
def execute (guard : Guard) (target : Target m) (operation : String)
    (action : m (Except GuardError Unit)) : m (Except GuardError Execution) :=
  match guard with
  | strict table _ => executeStrict target table operation action
  | nonStrict => do
    match ← action with
    | .ok () => return .ok .applied
    | .error error => return .error error.ofAction

/-- The longest retention: 2 ^ 63 - 1 milliseconds. -/
def longestRetention : Nat := 9223372036854775807000000

/-- Delete the rows that were registered longer ago than the retention. -/
def cleanup (guard : Guard) (target : Target m) :
    ExceptT OutOfCalendar m (Except GuardError Nat) := do
  match guard with
  | nonStrict => return .ok 0
  | strict table retention =>
    if longestRetention < retention.nanos then
      return .error (.database
        "invalid retention: Source duration value is out of range for the target type")
    else
      let now ← target.now
      match now.minus? retention.nanos with
      | none => throw {}
      | some cutoff => target.purge table cutoff

/-- A cleanup whose errors are only warned of. -/
def cleanupBestEffort (guard : Guard) (target : Target m) : ExceptT OutOfCalendar m Unit := do
  match ← guard.cleanup target with
  | .ok _ => return
  | .error _ => warn "Status table cleanup failed; ignoring"

/-- The guard for some settings and a target with some capabilities, with a warning if it is not
strict. -/
def ofSettings (settings : Config.Guard) (capabilities : Capabilities) :
    m (Except GuardError Guard) := do
  if !settings.strict then
    warn ("Exactly-once guard disabled by configuration; " ++
      "protected statements run again on every retry")
    return .ok nonStrict
  else if !capabilities.rowLocking then
    warn ("Target does not support row locking; downgrading exactly-once guard " ++
      "to non-strict mode, protected statements run again on every retry")
    return .ok nonStrict
  else
    return (StatusTable.of settings.statusTable).map fun table =>
      strict table (.ofSecs settings.cleanupSecs)

end Guard

end RetrySafe
