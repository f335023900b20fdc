import RetrySafe.Session.Table

/-!
# The session store

Projects, sessions and attempts are written and read in tables. A transaction that ends in an error
leaves the tables as they were, with the ids it took. It holds the store until it ends, so never two
of them are open.

## Main definitions

* `Session.Store` — the tables, the clock and the open transaction.
* `Store.createProject`, `Store.deleteProject`, `Store.project` — projects.
* `Store.lockSession`, `Store.insertAttempt` — what a transaction does.
* `Store.start`, `Store.commit`, `Store.rollback`, `Store.transaction` — a transaction.
* `Store.attemptByName`, `Store.lastAttempt`, `Store.countActive`, `Store.finish` — attempts.
-/

namespace RetrySafe.Session

open RetrySafe.Time (Instant)

/-- The tables, the clock and the open transaction. -/
structure Store where
  tables : Tables := {}
  clock : Time.Clock
  /-- What the tables were when the open transaction began, if one is open. -/
  undo : Option Tables := none

/-- What is done to a store, with an answer. -/
abbrev StoreM := StateM Store

namespace Store

/-- The clock's reading. -/
def now : StoreM Instant := do
  let store ← get
  set { store with clock := store.clock.advanced }
  return store.clock.now

/-- Change the tables. -/
def edit (change : Tables → Tables) : StoreM Unit :=
  modify fun store => { store with tables := change store.tables }

/-- An answer of the tables. -/
def ask {α : Type} (query : Tables → α) : StoreM α := do return query (← get).tables

/-- An answer that failed in the database. -/
def orDatabase {α : Type} : Except StoreFault α → Except StoreError α
  | .ok a => .ok a
  | .error fault => .error (.database fault)

/-! ## Projects -/

/-- The project of an id, deleted or not. -/
def projectIn (tables : Tables) (id : Int) : Except StoreError Project :=
  match tables.projects.find? (·.id = id) with
  | some row => orDatabase row.project
  | none => .error (.notFound (.project id))

/-- The project of an id, deleted or not. -/
def project (id : Int) : StoreM (Except StoreError Project) := ask (projectIn · id)

/-- Create a project. -/
def createProject (site : Int) (name : String) : StoreM (Except StoreError Project) := do
  let created := (← now).truncated
  match ← ask (·.nextProject) with
  | .error fault => return .error (.database fault)
  | .ok id =>
    edit fun t =>
      { t with
        projects := t.projects ++ [{ id, site := .whole site, name, created := created.micros }]
        lastProject := id }
    return .ok { id, site, name, created }

/-- Whether a project is there and not deleted. -/
def isLive (row : ProjectRow) (id : Int) : Bool := row.id = id && row.deleted.isNone

/-- Delete a project: it stays, but is marked. Deleting it again changes nothing. -/
def deleteProject (id : Int) : StoreM (Except StoreError Unit) := do
  let deleted := (← now).micros
  if ← ask fun t => t.projects.any (isLive · id) then
    edit fun t =>
      { t with projects := t.projects.map fun row =>
          if isLive row id then { row with deleted := some deleted } else row }
    return .ok ()
  else return (← project id).map fun _ => ()

/-! ## Transactions -/

/-- The tables with the row of a session, which is added unless it is there. An id is taken either
way. -/
def withSession (tables : Tables) (key : Key) (created : String) : Except StoreFault Tables := do
  let id ← tables.nextSession
  if (tables.session? key).isSome then return { tables with lastSession := id }
  else if tables.hasProject key.project then
    return { tables with
             sessions := tables.sessions ++
               [{ id, project := key.project, workflow := key.workflow,
                  time := .whole key.time.seconds, created }]
             lastSession := id }
  else throw .foreignKey

/-- Find a session, or add it. -/
def lockSession (key : Key) : StoreM (Except StoreError Stored) := do
  let created := (← now).micros
  match withSession (← ask id) key created with
  | .error fault => return .error (.database fault)
  | .ok tables =>
    edit fun _ => tables
    match tables.session? key with
    | some row => return orDatabase row.stored
    | none => return .error (.database .foreignKey)

/-- The row of a new attempt. -/
def newRow (id site : Int) (session : Stored) (spec : AttemptSpec) (dependent : Option Int)
    (created : Instant) : AttemptRow where
  id := id
  session := session.id
  site := .whole site
  project := session.key.project
  retryName := spec.retryName
  definition := .whole spec.definition
  params := (Json.obj spec.params).text
  timeZone := spec.timeZone
  dependent := dependent.map .whole
  created := created.micros

/-- The tables with an attempt, which becomes the last one of its session. -/
def withAttempt (tables : Tables) (row : AttemptRow) : Tables :=
  { tables with
    attempts := tables.attempts ++ [row]
    sessions := tables.sessions.map fun s =>
      if s.id = row.session then { s with lastAttempt := some (.whole row.id) } else s
    lastAttempt := row.id }

/-- Insert an attempt of a session. -/
def insertAttempt (site : Int) (session : Stored) (spec : AttemptSpec) (dependent : Option Int) :
    StoreM (Except StoreError Attempt) := do
  let created := (← now).truncated
  let tables ← ask id
  match tables.nextAttempt with
  | .error fault => return .error (.database fault)
  | .ok id =>
    if tables.hasAttempt session.id spec.retryName then
      return .error (.conflict spec.retryName session.id)
    else if !(tables.hasSession session.id && tables.hasProject session.key.project) then
      return .error (.database .foreignKey)
    else
      edit (withAttempt · (newRow id site session spec dependent created))
      return .ok { id, session := session.id, site, retryName := spec.retryName
                   params := spec.params, timeZone := spec.timeZone
                   definition := spec.definition, dependent, created }

/-- Open a transaction. -/
def start : StoreM Unit := modify fun store => { store with undo := some store.tables }

/-- Keep what the open transaction did. -/
def commit : StoreM Unit := modify fun store => { store with undo := none }

/-- Take back what the open transaction did, if one is open. -/
def rollback : StoreM Unit :=
  modify fun store =>
    match store.undo with
    | some before => { store with tables := before, undo := none }
    | none => store

/-- A transaction, which is kept unless it ends in an error. -/
def transaction {ε α : Type} (body : StoreM (Except ε α)) : StoreM (Except ε α) := do
  start
  match ← body with
  | .ok a =>
    commit
    return .ok a
  | .error error =>
    rollback
    return .error error

/-! ## Attempts -/

/-- The attempt of two rows. -/
def joined (site : Int) (session : SessionRow) (attempt : AttemptRow) :
    Except StoreError AttemptWithSession :=
  orDatabase do
    let session ← session.stored
    let attempt ← attempt.attempt
    return ⟨site, session, attempt⟩

/-- The attempt of two rows, if they were found. -/
def foundOr (site : Int) (key : Key) (retryName : Option String)
    (found : Option (SessionRow × AttemptRow)) : Except StoreError AttemptWithSession :=
  match found with
  | some (session, attempt) => joined site session attempt
  | none => .error (.notFound (.attemptOf key.workflow key.time retryName))

/-- The rows of a session's attempt of a name. -/
def rowsByName (tables : Tables) (site : Int) (key : Key) (retryName : String) :
    Option (SessionRow × AttemptRow) :=
  tables.attempts.findSome? fun attempt =>
    if attempt.site = .whole site && attempt.retryName = some retryName then
      (tables.sessions.find? fun s => s.id = attempt.session && s.isOf key).map (·, attempt)
    else none

/-- The rows of a session and its last attempt. -/
def rowsOfLast (tables : Tables) (site : Int) (key : Key) : Option (SessionRow × AttemptRow) := do
  let session ← tables.session? key
  let last ← session.lastAttempt
  let attempt ← tables.attempts.find? fun a => .whole a.id = last && a.site = .whole site
  return (session, attempt)

/-- The attempt of a session with a retry name. -/
def attemptByName (site : Int) (key : Key) (retryName : String) :
    StoreM (Except StoreError AttemptWithSession) :=
  ask fun t => foundOr site key (some retryName) (rowsByName t site key retryName)

/-- The attempt of a session that was inserted last. -/
def lastAttempt (site : Int) (key : Key) : StoreM (Except StoreError AttemptWithSession) :=
  ask fun t => foundOr site key none (rowsOfLast t site key)

/-- The attempt of a session with a retry name, or the last one where none is given. -/
def attemptOf (site : Int) (key : Key) (retryName : Option String) :
    StoreM (Except StoreError AttemptWithSession) :=
  match retryName with
  | some name => attemptByName site key name
  | none => lastAttempt site key

/-- The number of attempts of a site that have not finished. -/
def activeIn (tables : Tables) (site : Int) : Nat :=
  tables.attempts.countP fun row => row.site = .whole site && row.finished.isNone

/-- The number of attempts of a site that have not finished. -/
def countActive (site : Int) : StoreM Nat := ask (activeIn · site)

/-- Whether a row is that of an attempt that has not finished. -/
def isOpen (row : AttemptRow) (id : Int) : Bool := row.id = id && row.finished.isNone

/-- Finish an attempt. False if it has finished already; then nothing changes. -/
def finish (id : Int) (success : Bool) : StoreM (Except StoreError Bool) := do
  let finished := (← now).micros
  let tables ← ask fun t => t
  if tables.attempts.any (isOpen · id) then
    edit fun t =>
      { t with attempts := t.attempts.map fun row =>
          if isOpen row id then
            { row with
              finished := some finished, success := some (.whole (if success then 1 else 0)) }
          else row }
    return .ok true
  else if tables.attempts.any (·.id = id) then return .ok false
  else return .error (.notFound (.attempt id))

end Store

end RetrySafe.Session
