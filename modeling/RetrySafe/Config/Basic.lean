import RetrySafe.Defaults

/-!
# Configuration

A configuration has seven sections, each of which may be absent; what an absent section would say is
given by its defaults. A later configuration overrides an earlier one section by section.

## Main definitions

* `Config` and its sections.
* `Config.attemptLimits`, … — what holds for a section, present or not.
* `Config.overriddenBy` — one configuration on top of another.
-/

namespace RetrySafe

namespace Config

/-- Where sessions are kept. -/
structure Database where
  /-- The file, or none to keep them in memory. -/
  path : Option String := none
  deriving DecidableEq

/-- What submissions have to keep to. -/
structure Attempts where
  site : Int := Defaults.site
  maxActive : Nat := Defaults.maxActiveAttempts
  maxParamsBytes : Nat := Defaults.maxParamsBytes
  deriving DecidableEq

/-- How protected actions are guarded. -/
structure Guard where
  strict : Bool := true
  statusTable : String := Defaults.statusTable
  cleanupSecs : Nat := 86400
  deriving DecidableEq

/-- The polling intervals after lock conflicts. -/
structure Backoff where
  initialSecs : Nat := 1
  maxSecs : Nat := 1200
  deriving DecidableEq

/-- The keys that every task may read. -/
structure Secrets where
  defaultAccess : List String := []
  deriving DecidableEq

/-- What rounds have to keep to; a limit of 0 is none. -/
structure Task where
  roundTimeoutSecs : Nat := 0
  maxRounds : Nat := 0
  deriving DecidableEq

/-- What is logged, and where. -/
structure Logging where
  level : String := "info"
  jsonDir : Option String := none
  deriving DecidableEq

end Config

/-- A configuration. -/
structure Config where
  database : Option Config.Database := none
  attempts : Option Config.Attempts := none
  guard : Option Config.Guard := none
  backoff : Option Config.Backoff := none
  secrets : Option Config.Secrets := none
  task : Option Config.Task := none
  logging : Option Config.Logging := none
  deriving DecidableEq

namespace Config

/-- No section at all. -/
def empty : Config := {}

/-- What holds for submissions. -/
def attemptLimits (config : Config) : Attempts := config.attempts.getD {}

/-- What holds for guards. -/
def guardSettings (config : Config) : Guard := config.guard.getD {}

/-- What holds for polling. -/
def backoffBounds (config : Config) : Backoff := config.backoff.getD {}

/-- What holds for secrets. -/
def secretAccess (config : Config) : Secrets := config.secrets.getD {}

/-- What holds for rounds. -/
def roundLimits (config : Config) : Task := config.task.getD {}

/-- What holds for logs. -/
def logSettings (config : Config) : Logging := config.logging.getD {}

/-- A configuration with the sections of another on top. -/
def overriddenBy (config other : Config) : Config where
  database := other.database <|> config.database
  attempts := other.attempts <|> config.attempts
  guard := other.guard <|> config.guard
  backoff := other.backoff <|> config.backoff
  secrets := other.secrets <|> config.secrets
  task := other.task <|> config.task
  logging := other.logging <|> config.logging

end Config

end RetrySafe
