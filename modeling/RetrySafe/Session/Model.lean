import RetrySafe.Json.Typed

/-!
# Sessions and attempts

A session is one run of a workflow of a project at a logical time. It is attempted by default once,
and once more under each retry name.

## Main definitions

* `Session.Key` — project, workflow and time.
* `Session.Request` — what a submission asks for; `Session.AttemptSpec` is its part of an attempt.
* `Session.Project`, `Session.Stored`, `Session.Attempt` — what is stored.
* `Session.AttemptWithSession` — an attempt beside its session.

Each has a document form, `toJson`, and a reader of it, `ofJson`.
-/

namespace RetrySafe.Session

open RetrySafe.Json (Typed RecordType Field)
open RetrySafe.Time (Instant)

/-- The document form of an instant. -/
def instantJson (t : Instant) : Json := .str t.text

/-- Reads an id. -/
def id? : Typed Int := Json.integer .i64

/-- Reads a site. -/
def site? : Typed Int := Json.integer .i32

/-! ## Keys -/

/-- What makes a session: one workflow of one project at one logical time. -/
structure Key where
  project : Int
  workflow : String
  time : Instant
  deriving DecidableEq

namespace Key

/-- The record type. -/
def type : RecordType where
  name := "Session"
  fields := [.of "project_id" id?, .of "workflow_name" Json.string?,
    .of "session_time" Json.instant]

/-- The document form. -/
def toJson (k : Key) : Json :=
  .obj [("project_id", .int k.project), ("workflow_name", .str k.workflow),
    ("session_time", instantJson k.time)]

/-- Read a key. -/
def ofJson : Typed Key := fun v => do
  let m ← Json.record type v
  return { project := ← m.required "project_id" id?
           workflow := ← m.required "workflow_name" Json.string?
           time := ← m.required "session_time" Json.instant }

end Key

/-! ## Requests -/

/-- What a submission asks for. -/
structure Request where
  project : Int
  workflow : String
  time : Instant
  /-- None for the default attempt. -/
  retryName : Option String := none
  params : Members := []
  timeZone : String := "UTC"
  definition : Int

/-- The part of a request that describes the attempt. -/
structure AttemptSpec where
  retryName : Option String := none
  params : Members := []
  timeZone : String := "UTC"
  definition : Int

namespace AttemptSpec

/-- The record type. -/
def type : RecordType where
  name := "SessionAttempt"
  fields := [.of "retry_attempt_name" (Json.optional Json.string?),
    .of "session_params" Json.table, .of "time_zone" Json.string?,
    .of "workflow_definition_id" id?]

/-- The document form. -/
def toJson (a : AttemptSpec) : Json :=
  .obj [("retry_attempt_name", .optionStr a.retryName), ("session_params", .obj a.params),
    ("time_zone", .str a.timeZone), ("workflow_definition_id", .int a.definition)]

/-- Read the description of an attempt. -/
def ofJson : Typed AttemptSpec := fun v => do
  let m ← Json.record type v
  return { retryName := ← m.optional "retry_attempt_name" Json.string?
           params := ← m.required "session_params" Json.table
           timeZone := ← m.required "time_zone" Json.string?
           definition := ← m.required "workflow_definition_id" id? }

end AttemptSpec

namespace Request

/-- The session that is asked for. -/
def key (r : Request) : Key := ⟨r.project, r.workflow, r.time⟩

/-- The attempt that is asked for. -/
def spec (r : Request) : AttemptSpec := ⟨r.retryName, r.params, r.timeZone, r.definition⟩

/-- The record type. -/
def type : RecordType where
  name := "AttemptRequest"
  fields := Key.type.fields ++ AttemptSpec.type.fields

/-- The document form. -/
def toJson (r : Request) : Json :=
  .obj [("project_id", .int r.project), ("workflow_name", .str r.workflow),
    ("session_time", instantJson r.time), ("retry_attempt_name", .optionStr r.retryName),
    ("session_params", .obj r.params), ("time_zone", .str r.timeZone),
    ("workflow_definition_id", .int r.definition)]

/-- Read a request. -/
def ofJson : Typed Request := fun v => do
  let m ← Json.record type v
  return { project := ← m.required "project_id" id?
           workflow := ← m.required "workflow_name" Json.string?
           time := ← m.required "session_time" Json.instant
           retryName := ← m.optional "retry_attempt_name" Json.string?
           params := ← m.required "session_params" Json.table
           timeZone := ← m.required "time_zone" Json.string?
           definition := ← m.required "workflow_definition_id" id? }

end Request

/-! ## What is stored -/

/-- A project. -/
structure Project where
  id : Int
  site : Int
  name : String
  created : Instant
  deleted : Option Instant := none

namespace Project

/-- The project was deleted. -/
def isDeleted (p : Project) : Bool := p.deleted.isSome

/-- The record type. -/
def type : RecordType where
  name := "StoredProject"
  fields := [.of "id" id?, .of "site_id" site?, .of "name" Json.string?,
    .of "created_at" Json.instant, .of "deleted_at" (Json.optional Json.instant)]

/-- The document form. -/
def toJson (p : Project) : Json :=
  .obj [("id", .int p.id), ("site_id", .int p.site), ("name", .str p.name),
    ("created_at", instantJson p.created), ("deleted_at", .ofOption instantJson p.deleted)]

/-- Read a project. -/
def ofJson : Typed Project := fun v => do
  let m ← Json.record type v
  return { id := ← m.required "id" id?
           site := ← m.required "site_id" site?
           name := ← m.required "name" Json.string?
           created := ← m.required "created_at" Json.instant
           deleted := ← m.optional "deleted_at" Json.instant }

end Project

/-- A stored session. -/
structure Stored where
  id : Int
  key : Key
  /-- The attempt inserted last. -/
  lastAttempt : Option Int
  created : Instant

namespace Stored

/-- The record type. -/
def type : RecordType where
  name := "StoredSession"
  fields := .of "id" id? :: Key.type.fields ++
    [.of "last_attempt_id" (Json.optional id?), .of "created_at" Json.instant]

/-- The document form. -/
def toJson (s : Stored) : Json :=
  .obj [("id", .int s.id), ("project_id", .int s.key.project),
    ("workflow_name", .str s.key.workflow), ("session_time", instantJson s.key.time),
    ("last_attempt_id", .ofOption .int s.lastAttempt), ("created_at", instantJson s.created)]

/-- Read a stored session. -/
def ofJson : Typed Stored := fun v => do
  let m ← Json.record type v
  return { id := ← m.required "id" id?
           key := { project := ← m.required "project_id" id?
                    workflow := ← m.required "workflow_name" Json.string?
                    time := ← m.required "session_time" Json.instant }
           lastAttempt := ← m.optional "last_attempt_id" id?
           created := ← m.required "created_at" Json.instant }

end Stored

/-- A stored attempt. -/
structure Attempt where
  id : Int
  session : Int
  site : Int
  retryName : Option String
  params : Members
  timeZone : String
  definition : Int
  /-- The session that the attempt waits for. -/
  dependent : Option Int
  created : Instant
  finished : Option Instant := none
  success : Option Bool := none

namespace Attempt

/-- The attempt has finished. -/
def isFinished (a : Attempt) : Bool := a.finished.isSome

/-- The record type. -/
def type : RecordType where
  name := "StoredSessionAttempt"
  fields := [.of "id" id?, .of "session_id" id?, .of "site_id" site?] ++
    AttemptSpec.type.fields ++
    [.of "dependent_session_id" (Json.optional id?), .of "created_at" Json.instant,
      .of "finished_at" (Json.optional Json.instant), .of "success" (Json.optional Json.boolean)]

/-- The document form. -/
def toJson (a : Attempt) : Json :=
  .obj [("id", .int a.id), ("session_id", .int a.session), ("site_id", .int a.site),
    ("retry_attempt_name", .optionStr a.retryName), ("session_params", .obj a.params),
    ("time_zone", .str a.timeZone), ("workflow_definition_id", .int a.definition),
    ("dependent_session_id", .ofOption .int a.dependent), ("created_at", instantJson a.created),
    ("finished_at", .ofOption instantJson a.finished), ("success", .ofOption .bool a.success)]

/-- Read a stored attempt. -/
def ofJson : Typed Attempt := fun v => do
  let m ← Json.record type v
  return { id := ← m.required "id" id?
           session := ← m.required "session_id" id?
           site := ← m.required "site_id" site?
           retryName := ← m.optional "retry_attempt_name" Json.string?
           params := ← m.required "session_params" Json.table
           timeZone := ← m.required "time_zone" Json.string?
           definition := ← m.required "workflow_definition_id" id?
           dependent := ← m.optional "dependent_session_id" id?
           created := ← m.required "created_at" Json.instant
           finished := ← m.optional "finished_at" Json.instant
           success := ← m.optional "success" Json.boolean }

end Attempt

/-- An attempt beside its session. -/
structure AttemptWithSession where
  site : Int
  session : Stored
  attempt : Attempt

namespace AttemptWithSession

/-- The record type. -/
def type : RecordType where
  name := "AttemptWithSession"
  fields := [.of "site_id" site?, .of "session" Stored.ofJson, .of "attempt" Attempt.ofJson]

/-- The document form. -/
def toJson (a : AttemptWithSession) : Json :=
  .obj [("site_id", .int a.site), ("session", a.session.toJson), ("attempt", a.attempt.toJson)]

/-- Read an attempt beside its session. -/
def ofJson : Typed AttemptWithSession := fun v => do
  let m ← Json.record type v
  return { site := ← m.required "site_id" site?
           session := ← m.required "session" Stored.ofJson
           attempt := ← m.required "attempt" Attempt.ofJson }

end AttemptWithSession

end RetrySafe.Session
