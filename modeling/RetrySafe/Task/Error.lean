import RetrySafe.Json.Typed
import RetrySafe.Time.Duration

/-!
# Errors of tasks

## Main definitions

* `TaskError` — why a task ends without a result.
-/

namespace RetrySafe

/-- Why a task ends without a result. -/
inductive TaskError
  /-- The task said so. -/
  | failed (message : String)
  /-- A round took longer than rounds may take. -/
  | timedOut (limit : Time.Duration)
  /-- The task kept suspending. -/
  | roundLimit (limit : Nat)
  /-- The state could not be loaded, saved or cleared. -/
  | state (message : String)
  /-- A state or one of its members could not be read. -/
  | unreadable (reason : Unreadable)

/-- The sentence for an error. -/
def TaskError.message : TaskError → String
  | failed message => "Task failed: " ++ message
  | timedOut limit => "Round timed out after " ++ limit.text
  | roundLimit limit => "Task exceeded " ++ String.ofList (Decimal.ofNat limit) ++ " rounds"
  | state message => "Task state error: " ++ message
  | unreadable reason => "Serialization error: " ++ reason.message

/-- Read a member of a state, none where it is absent. -/
def Members.read? {α : Type} (state : Members) (key : String) (reader : Json.Typed α) :
    Except TaskError (Option α) :=
  match state.get? key with
  | none => .ok none
  | some value =>
    match reader value with
    | .ok a => .ok (some a)
    | .error mismatch => .error (.unreadable (.shape mismatch))

end RetrySafe
