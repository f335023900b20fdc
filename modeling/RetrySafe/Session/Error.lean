import RetrySafe.Defaults
import RetrySafe.Session.Model

/-!
# Errors of submissions and of the store

## Main definitions

* `Session.Invalid` — why a request is malformed.
* `Session.Missing` — what was not found.
* `Session.OpeningFault`, `Session.StoreFault` — failures of the database.
* `Session.StoreError`, `Session.AttemptError` — errors of the store and of the manager.
-/

namespace RetrySafe.Session

open RetrySafe.Time (Instant)
open RetrySafe.Decimal (ofNat ofInt)

/-- A whole number in a sentence. -/
def intText (n : Int) : String := String.ofList (ofInt n)

/-- A natural number in a sentence. -/
def natText (n : Nat) : String := String.ofList (ofNat n)

/-- Why a request is malformed. -/
inductive Invalid
  | noWorkflow
  | longWorkflow
  | fractionalTime (time : Instant)
  | noRetryName
  | longRetryName
  | untrimmedRetryName
  | controlInRetryName
  | noTimeZone
  | largeParams (size limit : Nat)
  deriving DecidableEq

/-- The phrase for a malformed request. -/
def Invalid.reason : Invalid → String
  | noWorkflow => "workflow name must not be empty"
  | longWorkflow =>
    "workflow name is longer than " ++ natText Defaults.maxNameLength ++ " characters"
  | fractionalTime time => "session time " ++ time.display ++ " has a fractional second"
  | noRetryName => "retry attempt name must not be empty"
  | longRetryName =>
    "retry attempt name is longer than " ++ natText Defaults.maxNameLength ++ " characters"
  | untrimmedRetryName => "retry attempt name must not start or end with whitespace"
  | controlInRetryName => "retry attempt name must not contain control characters"
  | noTimeZone => "time zone must not be empty"
  | largeParams size limit =>
    "session params are " ++ natText size ++ " bytes, larger than the " ++ natText limit ++
      " byte limit"

/-- What was not found. -/
inductive Missing
  | project (id : Int)
  | attempt (id : Int)
  | attemptOf (workflow : String) (time : Instant) (retryName : Option String)
  deriving DecidableEq

/-- The phrase for what was not found. -/
def Missing.what : Missing → String
  | project id => "project id=" ++ intText id
  | attempt id => "session attempt id=" ++ intText id
  | attemptOf workflow time retryName =>
    "session attempt of " ++ workflow ++ " at " ++ time.display ++
      (match retryName with | some name => " named '" ++ name ++ "'" | none => "")

/-- Why a store cannot be opened. -/
inductive OpeningFault
  /-- The text that names the store has a zero byte at a place. -/
  | holdsNul (place : Nat)
  /-- The store lies on another machine. -/
  | authority (host : String)
  | noSuchMode (kind word : String)
  | accessNotAllowed (word : String)
  | noSuchSystem (name : String)
  | cannotOpen (text : String)
  /-- The file beside that of the store cannot be opened. -/
  | cannotOpenJournal
  /-- The file holds something else. -/
  | notADatabase
  | malformed
  | unsupportedFormat
  | readOnly
  | diskError
  deriving DecidableEq

/-- The sentence for a store that cannot be opened. -/
def OpeningFault.message : OpeningFault → String
  | holdsNul place => "nul byte found in provided data at position: " ++ natText place
  | authority host => "invalid uri authority: " ++ host
  | noSuchMode kind word => "no such " ++ kind ++ " mode: " ++ word
  | accessNotAllowed word => "access mode not allowed: " ++ word
  | noSuchSystem name => "no such vfs: " ++ name
  | cannotOpen text => "unable to open database file: " ++ text
  | cannotOpenJournal => "unable to open database file"
  | notADatabase => "file is not a database"
  | malformed => "database disk image is malformed"
  | unsupportedFormat => "unsupported file format"
  | readOnly => "attempt to write a readonly database"
  | diskError => "disk I/O error"

/-- A failure of the database itself. -/
inductive StoreFault
  /-- A reference to a row that does not exist. -/
  | foreignKey
  /-- A column of text that does not stand for a value. -/
  | conversion (index : Nat) (detail : String)
  /-- A column with a number that does not stand for a value. -/
  | outOfRange (index : Nat) (value : Int)
  /-- A column that holds a value of another type than that of its field. -/
  | wrongType (type : String) (index : Nat) (column : String)
  /-- There is no id left for a new row. -/
  | full
  | opening (fault : OpeningFault)
  deriving DecidableEq

/-- The sentence for a failure of the database. -/
def StoreFault.message : StoreFault → String
  | foreignKey => "FOREIGN KEY constraint failed"
  | conversion index detail =>
    "Conversion error from type Text at index: " ++ natText index ++ ", " ++ detail
  | outOfRange index value =>
    "Integer " ++ intText value ++ " out of range at index " ++ natText index
  | wrongType type index column =>
    "Invalid column type " ++ type ++ " at index: " ++ natText index ++ ", name: " ++ column
  | full => "database or disk is full"
  | opening fault => fault.message

/-- An error of the store. -/
inductive StoreError
  /-- The session has an attempt of this name already. -/
  | conflict (retryName : Option String) (session : Int)
  | notFound (missing : Missing)
  | database (fault : StoreFault)
  /-- The tables cannot be made. -/
  | migration (fault : OpeningFault)
  deriving DecidableEq

/-- The store cannot be opened. -/
def StoreError.opening (fault : OpeningFault) : StoreError := database (.opening fault)

/-- The sentence for an error of the store. -/
def StoreError.message : StoreError → String
  | conflict retryName session =>
    "Resource conflict: attempt " ++
      (match retryName with | some name => "'" ++ name ++ "'" | none => "(default)") ++
      " of session id=" ++ intText session ++ " already exists"
  | notFound missing => "Resource not found: " ++ missing.what
  | database fault => "Database error: " ++ fault.message
  | migration fault =>
    "Migration error: `error asserting migrations table`, `" ++ fault.message ++ "`"

/-- An error of the manager. -/
inductive AttemptError
  | invalid (reason : Invalid)
  | limitExceeded (limit active : Nat)
  | alreadyExists (existing : AttemptWithSession)
  | notFound (missing : Missing)
  | storage (error : StoreError)

namespace AttemptError

/-- The sentence for an error of the manager. -/
def message : AttemptError → String
  | invalid reason => "Invalid attempt request: " ++ reason.reason
  | limitExceeded limit active =>
    "Too many attempts running. Limit: " ++ natText limit ++ ", Current: " ++ natText active
  | alreadyExists existing =>
    "Session attempt already exists (attempt id " ++ intText existing.attempt.id ++ ")"
  | notFound missing => "Not found: " ++ missing.what
  | storage error => "Storage error: " ++ error.message

/-- The attempt that is in the way. -/
def existing? : AttemptError → Option AttemptWithSession
  | alreadyExists existing => some existing
  | _ => none

/-- An attempt is in the way. -/
def isConflict (error : AttemptError) : Bool := error.existing?.isSome

/-- An error of the store as the manager reports it. -/
def ofStore : StoreError → AttemptError
  | .notFound missing => notFound missing
  | error => storage error

end AttemptError

end RetrySafe.Session
