import RetrySafe.Config.Basic
import RetrySafe.Json.Typed

/-!
# Configurations as documents

A document is an object with a member for each section that is present; absent members of a section
have their defaults.

## Main definitions

* `Config.ofJson` — the configuration of a document.
* `Config.sectionsJson`, `Config.effectiveJson` — a configuration as it is, and as it holds.
-/

namespace RetrySafe.Config

open RetrySafe.Json (Typed RecordType Field IntegerType)

/-! ## Reading -/

/-- A record type whose fields may all be missing. -/
def sectionType (name : String) (fields : List Field) : RecordType :=
  { name, fields, defaulted := true }

namespace Database

/-- A path to a file. -/
def path? : Typed (Option String) := Json.optional (Json.textAs "path string")

/-- Read the section. -/
def ofJson : Typed Database := fun v => do
  let m ← Json.record (sectionType "DatabaseConfig" [.of "path" path?]) v
  return { path := ← m.withDefault "path" path? none }

/-- The members of the section. -/
def members (s : Database) : Members := [("path", .optionStr s.path)]

end Database

namespace Attempts

/-- Read the section. -/
def ofJson : Typed Attempts := fun v => do
  let site := Json.integer .i32
  let active := Json.natural .u64
  let bytes := Json.natural .usize
  let m ← Json.record (sectionType "AttemptsConfig"
    [.of "site_id" site, .of "max_active_attempts" active, .of "max_params_bytes" bytes]) v
  let standard : Attempts := {}
  return { site := ← m.withDefault "site_id" site standard.site
           maxActive := ← m.withDefault "max_active_attempts" active standard.maxActive
           maxParamsBytes := ← m.withDefault "max_params_bytes" bytes standard.maxParamsBytes }

/-- The members of the section. -/
def members (s : Attempts) : Members :=
  [("site_id", .int s.site), ("max_active_attempts", .nat s.maxActive),
    ("max_params_bytes", .nat s.maxParamsBytes)]

end Attempts

namespace Guard

/-- Read the section. -/
def ofJson : Typed Guard := fun v => do
  let secs := Json.natural .u64
  let m ← Json.record (sectionType "GuardConfig"
    [.of "strict" Json.boolean, .of "status_table" Json.string?,
      .of "status_table_cleanup_secs" secs]) v
  let standard : Guard := {}
  return { strict := ← m.withDefault "strict" Json.boolean standard.strict
           statusTable := ← m.withDefault "status_table" Json.string? standard.statusTable
           cleanupSecs := ← m.withDefault "status_table_cleanup_secs" secs standard.cleanupSecs }

/-- The members of the section. -/
def members (s : Guard) : Members :=
  [("strict", .bool s.strict), ("status_table", .str s.statusTable),
    ("status_table_cleanup_secs", .nat s.cleanupSecs)]

end Guard

namespace Backoff

/-- Read the section. -/
def ofJson : Typed Backoff := fun v => do
  let secs := Json.natural .u64
  let m ← Json.record (sectionType "BackoffConfig"
    [.of "initial_interval_secs" secs, .of "max_interval_secs" secs]) v
  let standard : Backoff := {}
  return { initialSecs := ← m.withDefault "initial_interval_secs" secs standard.initialSecs
           maxSecs := ← m.withDefault "max_interval_secs" secs standard.maxSecs }

/-- The members of the section. -/
def members (s : Backoff) : Members :=
  [("initial_interval_secs", .nat s.initialSecs), ("max_interval_secs", .nat s.maxSecs)]

end Backoff

namespace Secrets

/-- Read the section. -/
def ofJson : Typed Secrets := fun v => do
  let keys := Json.list Json.string?
  let m ← Json.record (sectionType "SecretsConfig" [.of "default_access" keys]) v
  return { defaultAccess := ← m.withDefault "default_access" keys [] }

/-- The members of the section. -/
def members (s : Secrets) : Members := [("default_access", .arr (s.defaultAccess.map .str))]

end Secrets

namespace Task

/-- Read the section. -/
def ofJson : Typed Task := fun v => do
  let secs := Json.natural .u64
  let rounds := Json.natural .u32
  let m ← Json.record (sectionType "TaskConfig"
    [.of "round_timeout_secs" secs, .of "max_rounds" rounds]) v
  let standard : Task := {}
  return { roundTimeoutSecs := ← m.withDefault "round_timeout_secs" secs standard.roundTimeoutSecs
           maxRounds := ← m.withDefault "max_rounds" rounds standard.maxRounds }

/-- The members of the section. -/
def members (s : Task) : Members :=
  [("round_timeout_secs", .nat s.roundTimeoutSecs), ("max_rounds", .nat s.maxRounds)]

end Task

namespace Logging

/-- Read the section. -/
def ofJson : Typed Logging := fun v => do
  let m ← Json.record (sectionType "LoggingConfig"
    [.of "level" Json.string?, .of "json_dir" Database.path?]) v
  let standard : Logging := {}
  return { level := ← m.withDefault "level" Json.string? standard.level
           jsonDir := ← m.withDefault "json_dir" Database.path? none }

/-- The members of the section. -/
def members (s : Logging) : Members :=
  [("level", .str s.level), ("json_dir", .optionStr s.jsonDir)]

end Logging

/-- Read a configuration. -/
def ofJson : Typed Config := fun v => do
  let m ← Json.record (sectionType "DroverConfig"
    [.of "database" (Json.optional Database.ofJson), .of "attempts" (Json.optional Attempts.ofJson),
      .of "guard" (Json.optional Guard.ofJson), .of "backoff" (Json.optional Backoff.ofJson),
      .of "secrets" (Json.optional Secrets.ofJson), .of "task" (Json.optional Task.ofJson),
      .of "logging" (Json.optional Logging.ofJson)]) v
  return { database := ← m.optional "database" Database.ofJson
           attempts := ← m.optional "attempts" Attempts.ofJson
           guard := ← m.optional "guard" Guard.ofJson
           backoff := ← m.optional "backoff" Backoff.ofJson
           secrets := ← m.optional "secrets" Secrets.ofJson
           task := ← m.optional "task" Task.ofJson
           logging := ← m.optional "logging" Logging.ofJson }

/-! ## Writing -/

/-- The sections of a configuration, null where absent. -/
def sectionsJson (c : Config) : Json :=
  .obj [("database", .ofOption (.obj ·.members) c.database),
    ("attempts", .ofOption (.obj ·.members) c.attempts),
    ("guard", .ofOption (.obj ·.members) c.guard),
    ("backoff", .ofOption (.obj ·.members) c.backoff),
    ("secrets", .ofOption (.obj ·.members) c.secrets),
    ("task", .ofOption (.obj ·.members) c.task),
    ("logging", .ofOption (.obj ·.members) c.logging)]

/-- What holds, section by section. -/
def effectiveJson (c : Config) : Json :=
  .obj [("attempts", .obj c.attemptLimits.members), ("guard", .obj c.guardSettings.members),
    ("backoff", .obj c.backoffBounds.members), ("secrets", .obj c.secretAccess.members),
    ("task", .obj c.roundLimits.members), ("logging", .obj c.logSettings.members)]

end RetrySafe.Config
