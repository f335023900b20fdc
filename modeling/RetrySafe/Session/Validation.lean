import RetrySafe.Json.Writer
import RetrySafe.Session.Error

/-!
# Well-formed requests

## Main definitions

* `Session.Request.validate` — the first rule that a request violates.
* `Session.checkTime` — the rule for session times, which are whole seconds.
-/

namespace RetrySafe.Session

/-- Refuse unless a condition holds. -/
def insist (condition : Bool) (reason : Invalid) : Except Invalid Unit :=
  if condition then .ok () else .error reason

/-- Sessions are told apart by whole seconds, so their times have no fraction. -/
def checkTime (time : Time.Instant) : Except Invalid Unit :=
  insist (decide time.IsWholeSecond) (.fractionalTime time)

/-- The rules for a retry name. -/
def checkRetryName (name : String) : Except Invalid Unit := do
  insist (name ≠ "") .noRetryName
  insist (name.toList.length ≤ Defaults.maxNameLength) .longRetryName
  insist (Text.trim name.toList = name.toList) .untrimmedRetryName
  insist (!name.toList.any Text.isControl) .controlInRetryName

/-- Refuse a malformed request, for the first rule that it violates. -/
def Request.validate (request : Request) (maxParamsBytes : Nat) : Except Invalid Unit := do
  insist (request.workflow ≠ "") .noWorkflow
  insist (request.workflow.toList.length ≤ Defaults.maxNameLength) .longWorkflow
  checkTime request.time
  match request.retryName with
  | some name => checkRetryName name
  | none => .ok ()
  insist (!(Text.trim request.timeZone.toList).isEmpty) .noTimeZone
  let size := (Json.obj request.params).byteSize
  insist (size ≤ maxParamsBytes) (.largeParams size maxParamsBytes)

end RetrySafe.Session
