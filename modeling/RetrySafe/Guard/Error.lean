/-!
# Errors of guarded execution

## Main definitions

* `GuardError` — why a guarded action was not applied, or not recorded.
-/

namespace RetrySafe

/-- Why a guarded action was not applied, or not recorded. -/
inductive GuardError
  /-- Someone else holds the lock; trying again later may help. -/
  | lockConflict (resource : String)
  /-- The target failed. -/
  | database (message : String)
  /-- The action failed, and what it did was rolled back. -/
  | action (reason : String)
  /-- The action was applied for good, but that could not be recorded. -/
  | notRecorded (operation reason : String)
  /-- A status table cannot have this name. -/
  | invalidTable (name : String)
  deriving DecidableEq, Repr

namespace GuardError

/-- The sentence for an error. -/
def message : GuardError → String
  | lockConflict resource => "Lock conflict on '" ++ resource ++ "'"
  | database message => "Database error: " ++ message
  | action reason => "Guarded action failed: " ++ reason
  | notRecorded operation reason =>
    "Operation '" ++ operation ++ "' was applied but not recorded as completed: " ++ reason
  | invalidTable name => "Invalid status table name: '" ++ name ++ "'"

/-- Someone else holds the lock. -/
def isLockConflict : GuardError → Bool
  | lockConflict _ => true
  | _ => false

/-- The error of an action as the guard reports it: a lock conflict stays one. -/
def ofAction : GuardError → GuardError
  | lockConflict resource => lockConflict resource
  | other => action other.message

/-- A lock conflict is reported under the id of the operation. -/
def namedFor (operation : String) : GuardError → GuardError
  | lockConflict _ => lockConflict operation
  | other => other

end GuardError

end RetrySafe
