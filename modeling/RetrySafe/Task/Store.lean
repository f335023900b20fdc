import RetrySafe.Json.Writer
import RetrySafe.Task.Error

/-!
# Stores of task states

A store keeps one state for each task key. The store in memory keeps the JSON text of a state, so
that a state is read back as any lasting store would read it.

## Main definitions

* `StateStore` — load, save and clear, each of which may fail.
* `Shelf`, `Shelf.store` — the store in memory.
* `StateStore.failing` — a store some of whose calls fail.
-/

namespace RetrySafe.Task

/-- Keeps the states of suspended tasks by key. -/
structure StateStore (m : Type → Type) where
  load : String → m (Except TaskError (Option Members))
  save : String → Members → m (Except TaskError Unit)
  clear : String → m (Except TaskError Unit)

/-- The texts of states by key. -/
structure Shelf where
  texts : List (String × String) := []

namespace Shelf

/-- The state under a key. -/
def load (shelf : Shelf) (key : String) : Except TaskError (Option Members) :=
  match shelf.texts.lookup key with
  | none => .ok none
  | some text =>
    match Json.readTable text with
    | .ok state => .ok (some state)
    | .error reason => .error (.unreadable reason)

/-- Without the state under a key. -/
def clear (shelf : Shelf) (key : String) : Shelf := ⟨shelf.texts.filter (·.1 ≠ key)⟩

/-- With a state under a key. -/
def save (shelf : Shelf) (key : String) (state : Members) : Shelf :=
  ⟨(key, (Json.obj state).text) :: (shelf.clear key).texts⟩

/-- The number of states. -/
def size (shelf : Shelf) : Nat := shelf.texts.length

variable {m : Type → Type} [Monad m] [MonadStateOf Shelf m]

/-- The store in memory. -/
def store : StateStore m where
  load key := do return (← getThe Shelf).load key
  save key state := do
    modifyThe Shelf (·.save key state)
    return .ok ()
  clear key := do
    modifyThe Shelf (·.clear key)
    return .ok ()

end Shelf

/-- The calls of a store that fail, each by its number from one on, with their messages; and the
numbers of calls so far. -/
structure StoreOutages where
  load : List (Nat × String) := []
  save : List (Nat × String) := []
  clear : List (Nat × String) := []
  loads : Nat := 0
  saves : Nat := 0
  clears : Nat := 0

namespace StateStore

variable {m : Type → Type} [Monad m] [MonadStateOf StoreOutages m]

/-- A call, unless it is one of those that fail. -/
def orFail {α : Type} (failures : List (Nat × String)) (number : Nat)
    (call : m (Except TaskError α)) : m (Except TaskError α) :=
  match failures.lookup number with
  | some message => return .error (.state message)
  | none => call

/-- The store some of whose calls fail. -/
def failing (store : StateStore m) : StateStore m where
  load key := do
    modifyThe StoreOutages fun o => { o with loads := o.loads + 1 }
    let o ← getThe StoreOutages
    orFail o.load o.loads (store.load key)
  save key state := do
    modifyThe StoreOutages fun o => { o with saves := o.saves + 1 }
    let o ← getThe StoreOutages
    orFail o.save o.saves (store.save key state)
  clear key := do
    modifyThe StoreOutages fun o => { o with clears := o.clears + 1 }
    let o ← getThe StoreOutages
    orFail o.clear o.clears (store.clear key)

end StateStore

end RetrySafe.Task
