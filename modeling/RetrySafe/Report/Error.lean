import RetrySafe.Guard.Error
import RetrySafe.Secret.Error
import RetrySafe.Session.Error
import RetrySafe.Task.Error

/-!
# Errors as documents

An error is reported by its kind and its message, followed by what a caller may ask of it. The place
in a text that a message ends in is left out.

## Main definitions

* `Report.unplaced` — a message without the place at its end.
* `Report.secretError`, `Report.taskError`, … — the documents of errors.
-/

namespace RetrySafe.Report

/-- What follows a word, if a text starts with it. -/
def afterWord? (word cs : List Char) : Option (List Char) :=
  if word.isPrefixOf cs then some (cs.drop word.length) else none

/-- What follows a number, if a text starts with one. -/
def afterNumber? (cs : List Char) : Option (List Char) :=
  match Decimal.spanDigits cs with
  | ([], _) => none
  | (_, rest) => some rest

/-- A message without the place at its end: the last words may be a line and a column. -/
def unplaced (message : String) : String :=
  let shorter : Option (List Char) := do
    let cs ← afterNumber? message.toList.reverse
    let cs ← afterWord? " column ".toList.reverse cs
    let cs ← afterNumber? cs
    afterWord? " at line ".toList.reverse cs
  match shorter with
  | some cs => String.ofList cs.reverse
  | none => message

/-- The document of an error. -/
def error (kind message : String) (more : Members := []) : Json :=
  .obj ([("error", .str kind), ("message", .str message)] ++ more)

/-- A text that is no value of the type that was asked for. -/
def unread (message : String) : Json := error "Deserialize" (unplaced message)

/-- An error of secret access. -/
def secretError (e : Secret.Error) : Json :=
  let kind := match e with
    | .illegal .. => "Validation"
    | .filtered _ => "AccessFiltered"
    | .denied _ => "AccessDenied"
    | .notFound _ => "NotFound"
    | .invalidGrant .. => "InvalidGrant"
    | .store _ => "Store"
  error kind e.message [("refusal", .bool e.isRefusal)]

/-- An error of a task. -/
def taskError (e : TaskError) : Json :=
  let kind := match e with
    | .failed _ => "Failed"
    | .timedOut _ => "TimedOut"
    | .roundLimit _ => "RoundLimitExceeded"
    | .state _ => "State"
    | .unreadable _ => "Serialization"
  error kind (unplaced e.message)

/-- An error of guarded execution. -/
def guardError (e : GuardError) : Json :=
  let kind := match e with
    | .lockConflict _ => "LockConflict"
    | .database _ => "Database"
    | .action _ => "Action"
    | .notRecorded .. => "CompletionNotRecorded"
    | .invalidTable _ => "InvalidTableName"
  error kind e.message [("lock_conflict", .bool e.isLockConflict)]

/-- An error of the session store. -/
def storeError (e : Session.StoreError) : Json :=
  let kind := match e with
    | .conflict .. => "Conflict"
    | .notFound _ => "NotFound"
    | .database _ => "Database"
    | .migration _ => "Migration"
  error kind (unplaced e.message)

/-- An error of a submission, with the attempt that is in the way. -/
def attemptError (e : Session.AttemptError) : Json :=
  let kind := match e with
    | .invalid _ => "Validation"
    | .limitExceeded .. => "LimitExceeded"
    | .alreadyExists _ => "AlreadyExists"
    | .notFound _ => "NotFound"
    | .storage _ => "Storage"
  error kind (unplaced e.message)
    [("conflict", .bool e.isConflict),
      ("existing", .ofOption Session.AttemptWithSession.toJson e.existing?)]

/-- A result or the document of its error. -/
def orError {ε α : Type} (onError : ε → Json) (onOk : α → Json) : Except ε α → Json
  | .ok a => onOk a
  | .error e => onError e

end RetrySafe.Report
