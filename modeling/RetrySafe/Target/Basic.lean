import RetrySafe.Defaults
import RetrySafe.Guard.Error
import RetrySafe.Text.Identifier
import RetrySafe.Time.Instant

/-!
# Targets

A target is a connection to the database that a protected statement runs on. Besides running
statements in transactions it keeps a status table: one row for each operation id, with the time of
its registration and the time of its completion.

## Main definitions

* `StatusTable` — the name of a status table.
* `Capabilities` — what a target can do.
* `Target` — the primitives of a connection.
* `Connector` — opens connections.
-/

namespace RetrySafe

/-- The name of a status table. -/
structure StatusTable where
  name : String
  isPlain : Text.IsPlainIdentifier name

namespace StatusTable

/-- The status table of a name. -/
def of (name : String) : Except GuardError StatusTable :=
  if h : Text.IsPlainIdentifier name then .ok ⟨name, h⟩ else .error (.invalidTable name)

/-- The table that holds where nothing else is configured. -/
def standard : StatusTable := ⟨Defaults.statusTable, by decide +kernel⟩

/-- The name as it stands in a statement. -/
def quoted (table : StatusTable) : String := "\"" ++ table.name ++ "\""

end StatusTable

/-- What a target can do. -/
structure Capabilities where
  /-- A status row can be locked inside a transaction. -/
  rowLocking : Bool := true
  /-- A statement can run in one transaction with the update of the status row. -/
  transactional : Bool := true
  deriving DecidableEq, Repr

/-- A connection to a target: its capabilities, its clock and its primitives. -/
structure Target (m : Type → Type) where
  capabilities : Capabilities
  now : m Time.Instant
  /-- Run a statement; the answer is the number of rows it changed. -/
  execute : String → m (Except GuardError Nat)
  /-- Begin a transaction, or fail at once if someone else is in one. -/
  start : m (Except GuardError Unit)
  commit : m (Except GuardError Unit)
  rollback : m (Except GuardError Unit)
  /-- Create the status table unless it is there. -/
  createTable : StatusTable → m (Except GuardError Unit)
  /-- Add a row for an operation unless there is one. -/
  register : StatusTable → String → m (Except GuardError Unit)
  /-- Lock the row of an operation; the answer is the time of its completion. -/
  lock : StatusTable → String → m (Except GuardError (Option Time.Instant))
  /-- Record the completion of an operation. -/
  mark : StatusTable → String → m (Except GuardError Unit)
  /-- Delete the rows registered before an instant; the answer is their number. -/
  purge : StatusTable → Time.Instant → m (Except GuardError Nat)

/-- A target that is connected. Once it is closed it has no transaction any more. -/
structure Connection (m : Type → Type) where
  target : Target m
  close : m Unit

/-- Opens connections to a target. -/
abbrev Connector (m : Type → Type) := m (Except GuardError (Connection m))

end RetrySafe
