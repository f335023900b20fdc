import RetrySafe.Config.Basic
import RetrySafe.Decimal.Digits
import RetrySafe.Text.Identifier

/-!
# Valid configurations

Some attempt has to be allowed, polling starts at a second at least and does not go down from there,
and the status table has a plain name. Sections that are absent are checked by their defaults.

## Main definitions

* `Config.Flaw` — what is wrong with a configuration.
* `Config.validate` — the first flaw, in the order above.
-/

namespace RetrySafe.Config

/-- What is wrong with a configuration. -/
inductive Flaw
  /-- No attempt may be active. -/
  | noAttempts
  /-- Polling starts at once. -/
  | noInterval
  /-- The longest polling interval is shorter than the first one. -/
  | shrinkingInterval (initial : Nat)
  /-- The status table has no plain name. -/
  | tableName (name : String)
  deriving DecidableEq, Repr

namespace Flaw

/-- The field that is wrong. -/
def field : Flaw → String
  | noAttempts => "attempts.max_active_attempts"
  | noInterval => "backoff.initial_interval_secs"
  | shrinkingInterval _ => "backoff.max_interval_secs"
  | tableName _ => "guard.status_table"

/-- What is wrong with the field. -/
def reason : Flaw → String
  | noAttempts => "must be at least 1"
  | noInterval => "must be at least 1"
  | shrinkingInterval initial =>
    "must not be smaller than initial_interval_secs (" ++
      String.ofList (Decimal.ofNat initial) ++ ")"
  | tableName name => "'" ++ name ++ "' is not a plain table identifier"

/-- The sentence for a flaw. -/
def message (flaw : Flaw) : String :=
  "invalid value for '" ++ flaw.field ++ "': " ++ flaw.reason

end Flaw

/-- The first flaw of a configuration. -/
def validate (config : Config) : Except Flaw Unit := do
  if config.attemptLimits.maxActive = 0 then throw .noAttempts
  let polling := config.backoffBounds
  if polling.initialSecs = 0 then throw .noInterval
  if polling.maxSecs < polling.initialSecs then throw (.shrinkingInterval polling.initialSecs)
  let table := config.guardSettings.statusTable
  if ¬ Text.IsPlainIdentifier table then throw (.tableName table)

end RetrySafe.Config
