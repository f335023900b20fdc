import RetrySafe.Time.Duration

/-!
# Defaults

The values that hold where nothing else is configured.
-/

namespace RetrySafe.Defaults

/-- The site of attempts. -/
def site : Int := 0

/-- How many attempts of a site may be unfinished. -/
def maxActiveAttempts : Nat := 100000

/-- The longest text of session parameters, in bytes. -/
def maxParamsBytes : Nat := 1048576

/-- The longest workflow name or retry name, in characters. -/
def maxNameLength : Nat := 255

/-- The name of the status table. -/
def statusTable : String := "__drover_status"

/-- How long status rows are kept. -/
def retention : Time.Duration := .ofSecs 86400

/-- The first polling interval. -/
def initialPoll : Time.Duration := .ofSecs 1

/-- The longest polling interval. -/
def maxPoll : Time.Duration := .ofSecs 1200

/-- The state member that holds the polling interval. -/
def pollKey : String := "poll_interval"

/-- The state member that holds the operation id of a guarded statement. -/
def operationKey : String := "operation_id"

/-- The parameter that holds the text of a guarded statement. -/
def statementKey : String := "statement"

end RetrySafe.Defaults
