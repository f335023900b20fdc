import RetrySafe.Target.Basic
import RetrySafe.Target.Catalog
import RetrySafe.Time.Rfc3339

/-!
# A database as a target

The database locks as a whole: one connection at a time can be in a transaction, and while it is,
every other connection that wants to write fails at once. A transaction works on a copy that its
commit puts in place; whoever is outside it sees what was committed. Outside a transaction each
statement commits by itself. Besides the tables of its users, of which only their shapes and the
effects of statements are known, a database holds status tables; their times are texts of one width,
so that texts compare as times do.

A transaction need not end as it is told to. A commit may fail, because of a constraint that was
deferred to it or of somebody who reads, and then the transaction goes on or is gone; so may a
rollback. What becomes of each attempt is part of the database, so that what holds of all databases
holds whatever becomes of them. A statement may fail in three ways: it has changed nothing, or it
keeps what it has changed so far, or it takes the whole transaction with it.

A connection compiles statements against the catalog as it knows it. It looks again when something
is missing and once it reads or may write, but not before: a connection that does not know yet of
a table needs the lock to create it unless it exists.

## Main definitions

* `StatusRow`, `Content`, `Database` — rows, what is stored, and a database with its transaction.
* `Statement` — a statement by what it asks of the catalog and what comes of running it.
* `Ending` — what becomes of an attempt to end a transaction.
* `Database.view` — what a connection sees.
* `Database.compile`, `Database.read`, `Database.write` — a statement of a connection.
* `Database.target` — a connection as a target.
-/

namespace RetrySafe

/-- A row of a status table. -/
structure StatusRow where
  operation : String
  created : String
  completed : Option String := none
  deriving DecidableEq, Repr

/-- The tables of users, by their shapes. -/
class HasTables (δ : Type) where
  shapes : δ → Catalog

/-- What is stored: the tables of the users, and the status tables by name. -/
structure Content (δ : Type) where
  data : δ
  tables : List (String × List StatusRow) := []

namespace Content

variable {δ : Type}

/-- The columns of a status table. -/
def statusColumns : List String := ["operation_id", "created_at", "completed_at"]

/-- The catalog. -/
def catalog [HasTables δ] (content : Content δ) : Catalog :=
  HasTables.shapes content.data ++ content.tables.map fun t => ⟨t.1, statusColumns, false⟩

/-- Whether two names are those of one table. -/
def isSame (table other : String) : Bool := foldName table = foldName other

/-- The rows of a status table, if it exists. -/
def rows? (content : Content δ) (table : String) : Option (List StatusRow) :=
  (content.tables.find? fun t => isSame t.1 table).map (·.2)

/-- With other rows in a status table. -/
def withRows (content : Content δ) (table : String) (rows : List StatusRow) : Content δ :=
  { content with
    tables := content.tables.map fun t => if isSame t.1 table then (t.1, rows) else t }

/-- With a new, empty status table. -/
def withTable (content : Content δ) (table : String) : Content δ :=
  { content with tables := content.tables ++ [(table, [])] }

/-- Without a status table. -/
def withoutTable (content : Content δ) (table : String) : Content δ :=
  { content with tables := content.tables.filter fun t => !isSame t.1 table }

end Content

/-- What comes of running a statement: the content that it leaves and the number of rows that it
has changed, or a failure. -/
inductive Statement.Outcome (δ : Type)
  | done (content : Content δ) (count : Nat)
  /-- It fails, and has changed nothing. -/
  | abort (message : String)
  /-- It fails, and what it has changed so far stays. -/
  | fail (message : String) (content : Content δ)
  /-- It fails, and the transaction that it is part of is taken back. -/
  | rollback (message : String)

namespace Statement.Outcome

variable {δ : Type}

/-- A change that succeeds, or else has changed nothing. -/
def ofExcept : Except String (Content δ × Nat) → Outcome δ
  | .ok (content, count) => done content count
  | .error message => abort message

/-- What is reported. -/
def report : Outcome δ → Except GuardError Nat
  | done _ count => .ok count
  | abort message | fail message _ | rollback message => .error (.database message)

/-- The content that is left, if something was changed. -/
def content? : Outcome δ → Option (Content δ)
  | done content _ | fail _ content => some content
  | abort _ | rollback _ => none

end Statement.Outcome

/-- A statement: what it asks of the catalog, whether it writes, and what comes of running it. -/
structure Statement (δ : Type) where
  demand : Demand
  writes : Bool := true
  run : Content δ → Statement.Outcome δ

/-- The statements of a text, up to the first one that cannot be read. -/
abbrev Script (δ : Type) := List (Except String (Statement δ))

/-- A connection of a database, by number. -/
abbrev ConnectionId := Nat

/-- Why a transaction does not end as it is told to. -/
inductive Fault
  /-- Somebody reads what would change. -/
  | busy
  | failed (message : String)
  deriving DecidableEq, Repr

namespace Fault

/-- The error of a commit. -/
def ofCommit : Fault → GuardError
  | busy => .lockConflict "commit"
  | failed message => .database message

/-- The message of a rollback. -/
def message : Fault → String
  | busy => "database is locked"
  | failed message => message

end Fault

/-- What becomes of an attempt to end a transaction. -/
inductive Ending
  | done
  /-- The attempt fails, and the transaction goes on. -/
  | refused (fault : Fault)
  /-- The attempt fails, and the transaction is gone with what it did. -/
  | lost (fault : Fault)
  deriving DecidableEq, Repr

/-- A database: what was committed, the connection in a transaction with its working copy, whether
the transaction has changed the catalog, what connections know of the catalog, the clock, the number
of the next connection, and what becomes of the commits and rollbacks to come, which succeed where
nothing is said. -/
structure Database (δ : Type) where
  committed : Content δ
  writer : Option (ConnectionId × Content δ) := none
  isAltered : Bool := false
  known : List (ConnectionId × Catalog) := []
  clock : Time.Clock
  nextConnection : ConnectionId := 0
  commits : List Ending := []
  rollbacks : List Ending := []

namespace Database

variable {δ : Type}

/-- Whether a connection is in a transaction. -/
def inTransaction (db : Database δ) (c : ConnectionId) : Bool :=
  match db.writer with
  | some (w, _) => w = c
  | none => false

/-- Whether another connection is in a transaction. -/
def lockedFor (db : Database δ) (c : ConnectionId) : Bool :=
  match db.writer with
  | some (w, _) => w ≠ c
  | none => false

/-- What a connection sees: its working copy, or what was committed. -/
def view (db : Database δ) (c : ConnectionId) : Content δ :=
  match db.writer with
  | some (w, working) => if w = c then working else db.committed
  | none => db.committed

/-- The database without what a connection knows of the catalog. -/
def forgotten (db : Database δ) (c : ConnectionId) : Database δ :=
  { db with known := db.known.filter (·.1 ≠ c) }

/-- The database after a connection has learned a catalog. -/
def informed (db : Database δ) (c : ConnectionId) (catalog : Catalog) : Database δ :=
  { db with known := (c, catalog) :: (db.forgotten c).known }

/-- The database after a connection has left its transaction without a commit. If that had changed
the catalog, the connection knows it no longer. -/
def abandoned (db : Database δ) (c : ConnectionId) : Database δ :=
  if db.inTransaction c then
    { (if db.isAltered then db.forgotten c else db) with writer := none, isAltered := false }
  else db

/-- What becomes of the next commit. -/
def nextCommit (db : Database δ) : Ending := db.commits.headD .done

/-- What becomes of the next rollback. -/
def nextRollback (db : Database δ) : Ending := db.rollbacks.headD .done

variable [HasTables δ]

/-- The catalog that a connection sees. -/
def catalog (db : Database δ) (c : ConnectionId) : Catalog := (db.view c).catalog

/-- The catalog as a connection knows it. One that knows nothing yet looks at it. -/
def knownTo (db : Database δ) (c : ConnectionId) : Catalog :=
  (db.known.lookup c).getD (db.catalog c)

/-- The database after a connection has looked at the catalog. -/
def refreshed (db : Database δ) (c : ConnectionId) : Database δ := db.informed c (db.catalog c)

/-- The database after a connection has changed what it sees. -/
def updated (db : Database δ) (c : ConnectionId) (content : Content δ) : Database δ :=
  match db.writer with
  | some (w, working) =>
    if w = c then
      { db with writer := some (w, content)
                isAltered := db.isAltered || decide (content.catalog ≠ working.catalog) }
    else { db with committed := content }
  | none => { db with committed := content }

/-- The database after a connection has changed what it sees, which knows the catalog then. -/
def changed (db : Database δ) (c : ConnectionId) (content : Content δ) : Database δ :=
  (db.updated c content).informed c content.catalog

/-- The database after a statement of a connection has come to something. -/
def settled (db : Database δ) (c : ConnectionId) : Statement.Outcome δ → Database δ
  | .done content _ | .fail _ content => db.changed c content
  | .abort _ => db
  | .rollback _ => db.abandoned c

end Database

/-- What is done to a database, with an answer. -/
abbrev DatabaseM (δ : Type) := StateM (Database δ)

namespace Database

variable {δ : Type}

/-- A database error. -/
def failure {α : Type} (message : String) : DatabaseM δ (Except GuardError α) :=
  return .error (.database message)

/-- The clock's reading. -/
def now : DatabaseM δ Time.Instant := do
  let db ← get
  set { db with clock := db.clock.advanced }
  return db.clock.now

/-! ## Transactions -/

/-- Begin a transaction. -/
def start (c : ConnectionId) : DatabaseM δ (Except GuardError Unit) := do
  let db ← get
  match db.writer with
  | none =>
    set { db with writer := some (c, db.committed), isAltered := false }
    return .ok ()
  | some (w, _) =>
    if w = c then failure "cannot start a transaction within a transaction"
    else return .error (.lockConflict "transaction")

/-- Put the working copy of a transaction in place. -/
def commit (c : ConnectionId) : DatabaseM δ (Except GuardError Unit) := do
  let db ← get
  if db.inTransaction c then
    let tried := { db with commits := db.commits.tail }
    match db.nextCommit with
    | .done =>
      set { tried with committed := db.view c, writer := none, isAltered := false }
      return .ok ()
    | .refused fault =>
      set tried
      return .error fault.ofCommit
    | .lost fault =>
      set (tried.abandoned c)
      return .error fault.ofCommit
  else failure "cannot commit - no transaction is active"

/-- Drop the working copy of a transaction; there need not be one. -/
def rollback (c : ConnectionId) : DatabaseM δ (Except GuardError Unit) := do
  let db ← get
  if db.inTransaction c then
    let tried := { db with rollbacks := db.rollbacks.tail }
    match db.nextRollback with
    | .done =>
      set (tried.abandoned c)
      return .ok ()
    | .refused fault =>
      set tried
      failure fault.message
    | .lost fault =>
      set (tried.abandoned c)
      failure fault.message
  else return .ok ()

/-- The number of a new connection. -/
def newConnection : DatabaseM δ ConnectionId := do
  let db ← get
  set { db with nextConnection := db.nextConnection + 1 }
  return db.nextConnection

/-- Close a connection. -/
def close (c : ConnectionId) : DatabaseM δ Unit := modify fun db => (db.abandoned c).forgotten c

/-! ## Statements -/

variable [HasTables δ]

/-- Compile a statement of a connection: what keeps it from being compiled, if something does. What
is missing is looked for again. -/
def compile (c : ConnectionId) (demand : Demand) : DatabaseM δ (Option String) := do
  let db ← get
  match demand (db.knownTo c) with
  | none =>
    set (db.informed c (db.knownTo c))
    return none
  | some _ =>
    set (db.refreshed c)
    return demand (db.catalog c)

/-- Look at the catalog before a statement is run, which may keep it from being run. -/
def recheck (c : ConnectionId) (demand : Demand) : DatabaseM δ (Option String) := do
  let db ← get
  set (db.refreshed c)
  return demand (db.catalog c)

/-- Read what a connection sees. -/
def read {α : Type} (c : ConnectionId) (demand : Demand)
    (query : Content δ → Except GuardError α) : DatabaseM δ (Except GuardError α) := do
  match ← compile c demand with
  | some message => failure message
  | none =>
    match ← recheck c demand with
    | some message => failure message
    | none => return query ((← get).view c)

/-- Do what a compiled statement that writes does, unless someone else is in a transaction. -/
def exclusively {α : Type} (c : ConnectionId) (resource : String) (demand : Demand)
    (effect : DatabaseM δ (Except GuardError α)) : DatabaseM δ (Except GuardError α) := do
  if (← get).lockedFor c then return .error (.lockConflict resource)
  else
    match ← recheck c demand with
    | some message => failure message
    | none => effect

/-- Run a compiled statement that changes what a connection sees, or else nothing. -/
def change {α : Type} (c : ConnectionId) (resource : String) (demand : Demand)
    (f : Content δ → Except GuardError (Content δ × α)) : DatabaseM δ (Except GuardError α) :=
  exclusively c resource demand do
    match f ((← get).view c) with
    | .error error => return .error error
    | .ok (content, answer) =>
      modify (·.changed c content)
      return .ok answer

/-- Run a compiled statement of a user that writes. -/
def apply (c : ConnectionId) (statement : Statement δ) : DatabaseM δ (Except GuardError Nat) :=
  exclusively c "statement" statement.demand do
    let outcome := statement.run ((← get).view c)
    modify (·.settled c outcome)
    return outcome.report

/-- Compile and run a statement that changes what a connection sees. -/
def write {α : Type} (c : ConnectionId) (resource : String) (demand : Demand)
    (f : Content δ → Except GuardError (Content δ × α)) : DatabaseM δ (Except GuardError α) := do
  match ← compile c demand with
  | some message => failure message
  | none => change c resource demand f

/-- Compile the statements of a text. The answer is the one statement there is. -/
def prepare (c : ConnectionId) : Script δ → DatabaseM δ (Except String (Statement δ))
  | [] => return .error "bad parameter or other API misuse"
  | .error message :: _ => return .error message
  | .ok statement :: rest => do
    match ← compile c statement.demand with
    | some message => return .error message
    | none =>
      if rest.isEmpty then return .ok statement
      else
        match ← prepare c rest with
        | .error message => return .error message
        | .ok _ => return .error "Multiple statements provided"

/-- Run a text of one statement. -/
def execute (c : ConnectionId) (script : Script δ) : DatabaseM δ (Except GuardError Nat) := do
  match ← prepare c script with
  | .error message => failure message
  | .ok statement =>
    if statement.writes then apply c statement
    else read c statement.demand fun content => (statement.run content).report

/-! ## Status tables -/

/-- A connection looks whether a table exists that it may know already. It looks again where it does
not know better than that it is there. -/
def seesTable (c : ConnectionId) (table : String) : DatabaseM δ Bool := do
  let db ← get
  if (db.knownTo c).has table then
    set (db.refreshed c)
    return (db.catalog c).has table
  else
    set (db.informed c (db.knownTo c))
    return false

/-- Create a status table unless it is there. Where a connection does not know that it is, it needs
the lock to find out. -/
def createTable (c : ConnectionId) (table : StatusTable) :
    DatabaseM δ (Except GuardError Unit) := do
  if Catalog.isReserved table.name then failure (Catalog.reservedName table.name)
  else if ← seesTable c table.name then return .ok ()
  else
    change c table.name (fun _ => none) fun content =>
      if content.catalog.has table.name then .ok (content, ())
      else .ok (content.withTable table.name, ())

/-- Change the rows of a status table, which have to meet a demand. -/
def writeRows {α : Type} (c : ConnectionId) (resource : String) (table : StatusTable)
    (demand : TableShape → Option String) (f : List StatusRow → List StatusRow × α) :
    DatabaseM δ (Except GuardError α) :=
  write c resource (Demand.changeable table.name demand) fun content =>
    let (rows, answer) := f ((content.rows? table.name).getD [])
    .ok (content.withRows table.name rows, answer)

/-- The name of a table as it was made. -/
def madeName (content : Content δ) (table : StatusTable) : String :=
  ((content.catalog.find? table.name).map (·.name)).getD table.name

/-- Add a row of an operation that has none yet. -/
def insert (c : ConnectionId) (table : StatusTable) (row : StatusRow) :
    DatabaseM δ (Except GuardError Unit) :=
  let demand := Demand.targets table.name Content.statusColumns
  write c "statement" (Demand.changeable table.name demand) fun content =>
    let rows := (content.rows? table.name).getD []
    if rows.any (·.operation = row.operation) then
      .error (.database
        ("UNIQUE constraint failed: " ++ madeName content table ++ ".operation_id"))
    else .ok (content.withRows table.name (rows ++ [row]), ())

/-- The rows with a new row for an operation, unless there is one. -/
def registered (operation created : String) (rows : List StatusRow) : List StatusRow :=
  if rows.any (·.operation = operation) then rows else rows ++ [⟨operation, created, none⟩]

/-- The rows with a time of completion for an operation. -/
def marked (operation completed : String) (rows : List StatusRow) : List StatusRow :=
  rows.map fun row =>
    if row.operation = operation then { row with completed := some completed } else row

/-- Whether a row was registered before a cutoff; the texts of their times are compared. -/
def isStale (cutoff : String) (row : StatusRow) : Bool := row.created < cutoff

/-- The time of completion that the row of an operation holds. -/
def completion (operation : String) (rows : List StatusRow) :
    Except GuardError (Option Time.Instant) :=
  match rows.find? (·.operation = operation) with
  | none => .error (.database ("status row for '" ++ operation ++ "' disappeared"))
  | some row =>
    match row.completed with
    | none => .ok none
    | some text =>
      match Time.readStrict text with
      | .ok t => .ok (some t)
      | .error fault =>
        .error (.database ("invalid timestamp '" ++ text ++ "': " ++ fault.message))

/-- Look at the row of an operation. The lock on it is the one on the database. -/
def lookAt (c : ConnectionId) (table : StatusTable) (operation : String) :
    DatabaseM δ (Except GuardError (Option Time.Instant)) :=
  let demand := Demand.readAt "SELECT " "completed_at"
    (" FROM " ++ table.quoted ++ " WHERE operation_id = ?1")
  read c (Demand.table table.name demand) fun content =>
    completion operation ((content.rows? table.name).getD [])

/-- Add the row of an operation, with the time of the clock. -/
def register (c : ConnectionId) (table : StatusTable) (operation : String) :
    DatabaseM δ (Except GuardError Unit) := do
  let t ← now
  writeRows c operation table (Demand.targets table.name ["operation_id", "created_at"]) fun rows =>
    (registered operation t.micros rows, ())

/-- Record the completion of an operation, with the time of the clock. -/
def mark (c : ConnectionId) (table : StatusTable) (operation : String) :
    DatabaseM δ (Except GuardError Unit) := do
  let t ← now
  writeRows c operation table (Demand.assigned "completed_at") fun rows =>
    (marked operation t.micros rows, ())

/-- Delete the rows registered before a cutoff. -/
def purge (c : ConnectionId) (table : StatusTable) (cutoff : Time.Instant) :
    DatabaseM δ (Except GuardError Nat) :=
  let demand :=
    Demand.readAt ("DELETE FROM " ++ table.quoted ++ " WHERE ") "created_at" " < ?1"
  writeRows c table.name table demand fun rows =>
    (rows.filter fun row => !isStale cutoff.micros row, rows.countP (isStale cutoff.micros))

variable {m : Type → Type} [MonadStateOf (Database δ) m]

/-- Do something to the database that is part of a larger state. -/
def perform {α : Type} (action : DatabaseM δ α) : m α := modifyGet action.run

/-- A connection as a target, for statements in some language. -/
def target (language : String → Script δ) (capabilities : Capabilities) (c : ConnectionId) :
    Target m where
  capabilities := capabilities
  now := perform (now (δ := δ))
  execute text := perform (execute c (language text))
  start := perform (start (δ := δ) c)
  commit := perform (commit (δ := δ) c)
  rollback := perform (rollback (δ := δ) c)
  createTable table := perform (createTable (δ := δ) c table)
  register table operation := perform (register (δ := δ) c table operation)
  lock table operation := perform (lookAt (δ := δ) c table operation)
  mark table operation := perform (mark (δ := δ) c table operation)
  purge table cutoff := perform (purge (δ := δ) c table cutoff)

/-- Connections with numbers of their own. -/
def connector [Monad m] (language : String → Script δ) (capabilities : Capabilities) :
    Connector m := do
  let c ← perform (newConnection (δ := δ))
  return .ok ⟨target language capabilities c, perform (close (δ := δ) c)⟩

end Database

end RetrySafe
