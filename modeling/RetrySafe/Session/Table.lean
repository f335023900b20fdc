import RetrySafe.Json.Writer
import RetrySafe.Session.Cell

/-!
# The tables of the session store

Rows are kept as they are stored: times as text, session times as whole seconds, parameters as JSON
text. Reading a row turns its columns into values, the first column that cannot be read being the
one reported. Ids count up from one in each table, and a new one is above all that are there.

## Main definitions

* `Session.ProjectRow`, `Session.SessionRow`, `Session.AttemptRow` — rows.
* `Session.Tables` — the three tables and the ids given out so far.
* `Tables.IsSound` — the rules that hold for the rows together.
* `SessionRow.stored`, `AttemptRow.attempt`, `ProjectRow.project` — the values of rows.
-/

namespace RetrySafe.Session

open RetrySafe.Time (Instant)

/-- A row of the projects. -/
structure ProjectRow where
  id : Int
  site : Cell
  name : String
  created : String
  deleted : Option String := none
  deriving DecidableEq

/-- A row of the sessions. -/
structure SessionRow where
  id : Int
  project : Int
  workflow : String
  time : Cell
  lastAttempt : Option Cell := none
  created : String
  deriving DecidableEq

/-- A row of the attempts. -/
structure AttemptRow where
  id : Int
  session : Int
  site : Cell
  project : Int
  retryName : Option String
  definition : Cell
  params : String
  timeZone : String
  dependent : Option Cell
  created : String
  finished : Option String := none
  success : Option Cell := none
  deriving DecidableEq

/-- The three tables, and for each the last id given out. -/
structure Tables where
  projects : List ProjectRow := []
  sessions : List SessionRow := []
  attempts : List AttemptRow := []
  lastProject : Int := 0
  lastSession : Int := 0
  lastAttempt : Int := 0
  deriving DecidableEq

/-! ## Columns -/

/-- A time in the column of an index. -/
def timeColumn (index : Nat) (text : String) : Except StoreFault Instant :=
  match Time.readStrict text with
  | .ok t => .ok t
  | .error fault => .error (.conversion index fault.message)

/-- A time or nothing in the column of an index. -/
def optionalTimeColumn (index : Nat) : Option String → Except StoreFault (Option Instant)
  | none => .ok none
  | some text => (timeColumn index text).map some

/-- Whole seconds in the column of an index. -/
def secondsColumn (index : Nat) (cell : Cell) : Except StoreFault Instant := do
  let seconds ← cell.whole? index "session_time"
  if (Instant.ofSeconds seconds).InCalendar then return .ofSeconds seconds
  else throw (.outOfRange index seconds)

/-- Parameters in the column of an index. -/
def paramsColumn (index : Nat) (text : String) : Except StoreFault Members :=
  match Json.readTable text with
  | .ok params => .ok params
  | .error reason => .error (.conversion index reason.message)

/-- A site in the column of an index: a number of 32 bits. -/
def siteColumn (index : Nat) (cell : Cell) : Except StoreFault Int := do
  let site ← cell.whole? index "site_id"
  if -0x80000000 ≤ site ∧ site < 0x80000000 then return site else throw (.outOfRange index site)

/-! ## Rows -/

/-- The project of a row. -/
def ProjectRow.project (row : ProjectRow) : Except StoreFault Project := do
  let site ← siteColumn 1 row.site
  let created ← timeColumn 3 row.created
  let deleted ← optionalTimeColumn 4 row.deleted
  return { id := row.id, site, name := row.name, created, deleted }

/-- The session of a row. -/
def SessionRow.stored (row : SessionRow) : Except StoreFault Stored := do
  let time ← secondsColumn 3 row.time
  let lastAttempt ← Cell.optionalWhole? row.lastAttempt 4 "last_attempt_id"
  let created ← timeColumn 5 row.created
  return { id := row.id, key := ⟨row.project, row.workflow, time⟩, lastAttempt, created }

/-- The attempt of a row that stands behind the six columns of a session. -/
def AttemptRow.attempt (row : AttemptRow) : Except StoreFault Attempt := do
  let site ← siteColumn 8 row.site
  let params ← paramsColumn 10 row.params
  let definition ← row.definition.whole? 12 "workflow_definition_id"
  let dependent ← Cell.optionalWhole? row.dependent 13 "dependent_session_id"
  let created ← timeColumn 14 row.created
  let finished ← optionalTimeColumn 15 row.finished
  let success ← Cell.optionalWhole? row.success 16 "success"
  return { id := row.id, session := row.session, site, retryName := row.retryName, params,
           timeZone := row.timeZone, definition, dependent, created, finished,
           success := success.map (· ≠ 0) }

/-- Whether a row is that of a session. -/
def SessionRow.isOf (row : SessionRow) (key : Key) : Bool :=
  row.project = key.project && row.workflow = key.workflow && row.time = .whole key.time.seconds

namespace Tables

/-- The row of a session. -/
def session? (tables : Tables) (key : Key) : Option SessionRow := tables.sessions.find? (·.isOf key)

/-- Whether a session has an attempt of a name. A missing name and an empty one share a slot. -/
def hasAttempt (tables : Tables) (session : Int) (retryName : Option String) : Bool :=
  tables.attempts.any fun row =>
    row.session = session && row.retryName.getD "" = retryName.getD ""

/-- Whether there is a project of an id. -/
def hasProject (tables : Tables) (id : Int) : Bool := tables.projects.any (·.id = id)

/-- Whether there is a session of an id. -/
def hasSession (tables : Tables) (id : Int) : Bool := tables.sessions.any (·.id = id)

/-- The id of a new row: one more than the last id given out and than all ids there are. -/
def nextId (last : Int) (ids : List Int) : Except StoreFault Int :=
  let id := ids.foldl max last + 1
  if Cell.maxWhole < id then .error .full else .ok id

/-- The id of a new project. -/
def nextProject (tables : Tables) : Except StoreFault Int :=
  nextId tables.lastProject (tables.projects.map (·.id))

/-- The id of a new session. -/
def nextSession (tables : Tables) : Except StoreFault Int :=
  nextId tables.lastSession (tables.sessions.map (·.id))

/-- The id of a new attempt. -/
def nextAttempt (tables : Tables) : Except StoreFault Int :=
  nextId tables.lastAttempt (tables.attempts.map (·.id))

/-- The rules that hold for the rows together: ids, keys of sessions and slots of attempts are all
different, and what a row refers to is there. -/
structure IsSound (tables : Tables) : Prop where
  projects : (tables.projects.map (·.id)).Nodup
  sessions : (tables.sessions.map (·.id)).Nodup
  attempts : (tables.attempts.map (·.id)).Nodup
  keys : (tables.sessions.map fun s => (s.project, s.workflow, s.time)).Nodup
  slots : (tables.attempts.map fun a => (a.session, a.retryName.getD "")).Nodup
  ofProject : ∀ s ∈ tables.sessions, tables.hasProject s.project
  ofSession : ∀ a ∈ tables.attempts, tables.hasSession a.session ∧ tables.hasProject a.project

theorem isSound_iff (tables : Tables) : tables.IsSound ↔
    (tables.projects.map (·.id)).Nodup ∧ (tables.sessions.map (·.id)).Nodup ∧
    (tables.attempts.map (·.id)).Nodup ∧
    (tables.sessions.map fun s => (s.project, s.workflow, s.time)).Nodup ∧
    (tables.attempts.map fun a => (a.session, a.retryName.getD "")).Nodup ∧
    (∀ s ∈ tables.sessions, tables.hasProject s.project) ∧
    ∀ a ∈ tables.attempts, tables.hasSession a.session ∧ tables.hasProject a.project :=
  ⟨fun ⟨h₁, h₂, h₃, h₄, h₅, h₆, h₇⟩ => ⟨h₁, h₂, h₃, h₄, h₅, h₆, h₇⟩,
    fun ⟨h₁, h₂, h₃, h₄, h₅, h₆, h₇⟩ => ⟨h₁, h₂, h₃, h₄, h₅, h₆, h₇⟩⟩

instance (tables : Tables) : Decidable tables.IsSound := decidable_of_iff' _ tables.isSound_iff

end Tables

end RetrySafe.Session
