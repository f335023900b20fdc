import RetrySafe.Guard.Basic

/-!
# Scripted actions

An action that runs statements, gives up, controls transactions or runs another action under the
same guard, one step after the other until one fails.

## Main definitions

* `ActionStep` — a step of an action.
* `ActionStep.runAll` — the action with some steps.
-/

namespace RetrySafe

/-- A step of an action. -/
inductive ActionStep
  | run (statement : String)
  | fail (error : GuardError)
  | start
  | commit
  | rollback
  | nested (operation : String) (steps : List ActionStep)
  deriving Inhabited

namespace ActionStep

variable {m : Type → Type} [Monad m] [MonadWarn m]

mutual

/-- Do a step on a connection. -/
def runOne (guard : Guard) (target : Target m) : ActionStep → m (Except GuardError Unit)
  | run statement => do return (← target.execute statement).map fun _ => ()
  | fail error => return .error error
  | start => target.start
  | commit => target.commit
  | rollback => target.rollback
  | nested operation steps => do
    return (← guard.execute target operation (runAll guard target steps)).map fun _ => ()

/-- Do steps on a connection until one fails. -/
def runAll (guard : Guard) (target : Target m) : List ActionStep → m (Except GuardError Unit)
  | [] => return .ok ()
  | step :: steps => do
    match ← runOne guard target step with
    | .ok () => runAll guard target steps
    | .error error => return .error error

end

end ActionStep

end RetrySafe
