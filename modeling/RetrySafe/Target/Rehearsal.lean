import RetrySafe.Decimal.Digits
import RetrySafe.Target.Basic

/-!
# A rehearsed target

A target that stores nothing: it keeps a record of its calls, also of those that fail, and answers
each with the next reply that was prepared for it, or with success.

## Main definitions

* `Rehearsal` — the replies to come, the calls so far, and the clock.
* `Rehearsal.target` — the rehearsal as a target.
-/

namespace RetrySafe

open RetrySafe.Time (Instant Clock)

/-- A prepared answer. -/
inductive Reply
  | success
  | failure (error : GuardError)
  | completed (t : Instant)
  | rows (count : Nat)

/-- The replies to come by primitive, the calls so far with the last one first, and the clock. -/
structure Rehearsal where
  replies : List (String × List Reply) := []
  calls : List String := []
  clock : Clock

namespace Rehearsal

/-- The calls in order. -/
def record (rehearsal : Rehearsal) : List String := rehearsal.calls.reverse

/-- The next reply of a primitive. -/
def next (rehearsal : Rehearsal) (primitive : String) : Reply :=
  ((rehearsal.replies.lookup primitive).getD []).headD .success

/-- The rehearsal after a call. -/
def called (rehearsal : Rehearsal) (primitive call : String) : Rehearsal :=
  { rehearsal with
    calls := call :: rehearsal.calls
    replies := rehearsal.replies.map fun r => if r.1 = primitive then (r.1, r.2.drop 1) else r }

/-- Record a call and answer it as `answer` takes the reply, unless that is a failure. -/
def call {α : Type} (primitive call : String) (answer : Reply → α) :
    StateM Rehearsal (Except GuardError α) := do
  let rehearsal ← get
  set (rehearsal.called primitive call)
  match rehearsal.next primitive with
  | .failure error => return .error error
  | reply => return .ok (answer reply)

/-- The clock's reading. -/
def now : StateM Rehearsal Instant := do
  let rehearsal ← get
  set { rehearsal with clock := rehearsal.clock.advanced }
  return rehearsal.clock.now

/-- The number of rows of a reply. -/
def rowsOr (default : Nat) : Reply → Nat
  | .rows count => count
  | _ => default

/-- The time of completion of a reply. -/
def completion : Reply → Option Instant
  | .completed t => some t
  | _ => none

/-- A call with its arguments. -/
def callText (primitive : String) (arguments : List String) : String :=
  primitive ++ "(" ++ String.intercalate ", " arguments ++ ")"

/-- A call on a status table. -/
def onTable {α : Type} (primitive : String) (table : StatusTable) (arguments : List String)
    (answer : Reply → α) : StateM Rehearsal (Except GuardError α) :=
  call primitive (callText primitive (table.name :: arguments)) answer

/-- Delete rows registered before a cutoff. The call shows the age of the cutoff in whole
seconds. -/
def purge (table : StatusTable) (cutoff : Instant) : StateM Rehearsal (Except GuardError Nat) := do
  let t ← now
  let age := (t.totalNanos - cutoff.totalNanos).tdiv 1000000000
  onTable "purge_before" table ["age=" ++ String.ofList (Decimal.ofInt age)] (rowsOr 0)

variable {m : Type → Type} [MonadStateOf Rehearsal m]

/-- Do something to the rehearsal that is part of a larger state. -/
def perform {α : Type} (action : StateM Rehearsal α) : m α := modifyGet action.run

/-- The rehearsal as a target. -/
def target (capabilities : Capabilities) : Target m where
  capabilities := capabilities
  now := perform now
  execute text := perform (call "execute" (callText "execute" [text]) (rowsOr 1))
  start := perform (call "begin" "begin" fun _ => ())
  commit := perform (call "commit" "commit" fun _ => ())
  rollback := perform (call "rollback" "rollback" fun _ => ())
  createTable table := perform (onTable "create_status_table" table [] fun _ => ())
  register table operation :=
    perform (onTable "register_operation" table [operation] fun _ => ())
  lock table operation := perform (onTable "lock_operation" table [operation] completion)
  mark table operation := perform (onTable "mark_completed" table [operation] fun _ => ())
  purge table cutoff := perform (purge table cutoff)

/-- Connections that all are the rehearsal; opening one is a call as well. -/
def connector [Monad m] (capabilities : Capabilities) : Connector m := do
  let opened ← perform (call "connect" "connect" fun _ => ())
  return opened.map fun _ => ⟨target capabilities, pure ()⟩

end Rehearsal

end RetrySafe
