import RetrySafe.Config.Basic
import RetrySafe.Journal
import RetrySafe.Session.Store
import RetrySafe.Session.Validation

/-!
# Submitting attempts

A manager creates attempts for a site, at most one for each session and retry name. A submission
that finds its attempt taken is answered with the one that is stored.

## Main definitions

* `Session.submit` — create an attempt.
* `Session.find` — the attempt of a session.
* `Session.submitWarned` — create an attempt, with a warning when the limit is reached.
-/

namespace RetrySafe.Session

/-- The limits that hold for a manager. -/
abbrev Limits := Config.Attempts

namespace Store

/-- The project of a request, which has to be live and of the site. -/
def liveProject (site id : Int) : StoreM (Except StoreError Project) := do
  match ← project id with
  | .error error => return .error error
  | .ok p =>
    if p.isDeleted ∨ p.site ≠ site then return .error (.notFound (.project id))
    else return .ok p

/-- Inside a transaction: look the project up, find or add the session, and insert the attempt. -/
def insertRequested (site : Int) (request : Request) (dependent : Option Int) :
    StoreM (Except StoreError AttemptWithSession) := do
  match ← liveProject site request.project with
  | .error error => return .error error
  | .ok _ =>
    match ← lockSession request.key with
    | .error error => return .error error
    | .ok session =>
      match ← insertAttempt site session request.spec dependent with
      | .error error => return .error error
      | .ok attempt =>
        return .ok ⟨site, { session with lastAttempt := some attempt.id }, attempt⟩

end Store

/-- Create the attempt of a request. The limit is checked before anything is written. -/
def submit (limits : Limits) (request : Request) (dependent : Option Int) :
    StoreM (Except AttemptError AttemptWithSession) := do
  match request.validate limits.maxParamsBytes with
  | .error reason => return .error (.invalid reason)
  | .ok () =>
    let active ← Store.countActive limits.site
    if limits.maxActive < active + 1 then return .error (.limitExceeded limits.maxActive active)
    else
      match ← Store.transaction (Store.insertRequested limits.site request dependent) with
      | .ok created => return .ok created
      | .error (.conflict _ _) =>
        match ← Store.attemptOf limits.site request.key request.retryName with
        | .ok existing => return .error (.alreadyExists existing)
        | .error error => return .error (.ofStore error)
      | .error error => return .error (.ofStore error)

/-- The attempt of a session: the one with a retry name, or the last one. -/
def find (limits : Limits) (key : Key) (retryName : Option String) :
    StoreM (Except AttemptError AttemptWithSession) := do
  match checkTime key.time with
  | .error reason => return .error (.invalid reason)
  | .ok () => return (← Store.attemptOf limits.site key retryName).mapError .ofStore

/-- Create the attempt of a request, and warn when the limit is reached. -/
def submitWarned {m : Type → Type} [Monad m] [MonadWarn m] [MonadStateOf Store m]
    (limits : Limits) (request : Request) (dependent : Option Int) :
    m (Except AttemptError AttemptWithSession) := do
  let result ← modifyGetThe Store (submit limits request dependent).run
  if let .error (.limitExceeded _ _) := result then
    warn "Refusing attempt: active attempt limit reached"
  return result

end RetrySafe.Session
