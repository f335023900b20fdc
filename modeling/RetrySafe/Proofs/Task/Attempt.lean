import RetrySafe.Guard.Statement
import RetrySafe.Proofs.Guard.History
import RetrySafe.Task.Runner

/-!
# Attempts that may crash

A statement is driven by attempts: each is one step of a runner for one task key. Two things outlive
an attempt, the database and the state store, and the attempt may crash between any two of its
primitives. A crash drops the transaction of the attempt's connection, and nothing else. Between two
primitives somebody else may change the database as well, unless the attempt is in a transaction,
and may stay in a transaction of its own.

What happens before each primitive is a list of turns, so that a statement about all such lists is
one about all crashes and all interference.

## Main definitions

* `Turn`, `Plant` — what may happen before a primitive, and what attempts work on.
* `LastingStore` — a state store whose states outlive the attempts.
* `Errand`, `Errand.attempt` — a statement under a task key, and one attempt at it.
* `Goes`, `GoesOn` — what holds where an action ends, and what holds where it crashes.

## Main results

* `Goes.bind`, `GoesOn.bind` — one action after the other.
* `GoesOn.leaves` — what holds wherever an action ends or crashes holds of what it leaves.
-/

namespace RetrySafe

open Time (Clock Duration Instant)

/-! ## Turns -/

/-- What happens before a primitive. -/
inductive Turn (δ : Type)
  | calm
  /-- The attempt ends here. -/
  | crash
  /-- Somebody else changes what is committed, and may stay in a transaction. -/
  | others (change : Content δ → Content δ) (stays : Bool)

/-- An attempt has crashed. -/
structure Crash where

namespace Database

variable {δ : Type}

/-- The database after somebody else has changed it, which takes that nobody is in the way. -/
def interfered (db : Database δ) (on : Option ConnectionId) (change : Content δ → Content δ)
    (stays : Bool) : Database δ :=
  if on.any db.inTransaction then db
  else
    { db with
      committed := change db.committed
      writer := if stays then some (db.nextConnection, change db.committed) else none
      isAltered := false
      nextConnection := db.nextConnection + 1 }

/-- The database after a connection has gone. -/
def dropped (db : Database δ) (on : Option ConnectionId) : Database δ :=
  match on with
  | some c => (db.abandoned c).forgotten c
  | none => db

end Database

/-- What attempts work on: a database, the state of a store, and the turns to come. Of the attempts
it keeps the number of operation ids drawn, the calls of target primitives, each with the operation
that it names, the cleanups of the running attempt, each with its cutoff and the rows it found, and
whether the state of the key was cleared. -/
structure Plant (δ σ : Type) where
  database : Database δ
  store : σ
  turns : List (Turn δ)
  drawn : Nat := 0
  touches : List (Option String) := []
  cleanups : List (Instant × List StatusRow) := []
  isCleared : Bool := false
  journal : Journal := {}

/-- What an attempt does. -/
abbrev AttemptM (δ σ : Type) := ExceptT Crash (StateM (Plant δ σ))

namespace Plant

variable {δ σ : Type}

instance : MonadStateOf (Database δ) (StateM (Plant δ σ)) where
  get := fun p => (p.database, p)
  set db := fun p => ((), { p with database := db })
  modifyGet f := fun p => ((f p.database).1, { p with database := (f p.database).2 })

instance : MonadWarn (StateM (Plant δ σ)) where
  warn message := fun p => ((), { p with journal := ⟨message :: p.journal.entries⟩ })

/-- The next turn. -/
def turned (p : Plant δ σ) (on : Option ConnectionId) : Except Crash Unit × Plant δ σ :=
  match p.turns with
  | [] => (.ok (), p)
  | .calm :: turns => (.ok (), { p with turns })
  | .crash :: turns => (.error {}, { p with turns, database := p.database.dropped on })
  | .others change stays :: turns =>
    (.ok (), { p with turns, database := p.database.interfered on change stays })

/-- Let the next turn happen, before a primitive of a connection or of none. -/
def pause (on : Option ConnectionId) : AttemptM δ σ Unit := ExceptT.mk fun p => p.turned on

/-- A primitive of a connection is called; it may name an operation. -/
def touch (on : Option ConnectionId) (operation : Option String) : AttemptM δ σ Unit := do
  modifyThe (Plant δ σ) fun p => { p with touches := p.touches ++ [operation] }
  pause on

/-- Something is done to the store. -/
def keep {α : Type} (action : StateM σ α) : AttemptM δ σ α :=
  modifyGetThe (Plant δ σ) fun p =>
    ((action.run p.store).run.1, { p with store := (action.run p.store).run.2 })

end Plant

/-! ## Errands -/

/-- A state store that keeps its states. A call that fails has changed nothing, or has done what it
was asked to. -/
structure LastingStore (σ : Type) where
  store : Task.StateStore (StateM σ)
  /-- The state that is kept under a key. -/
  kept : σ → String → Option Members
  load_kept : ∀ s key, Ends (kept · key) (store.load key) s fun answer after =>
    after = kept s key ∧ (answer = .ok after ∨ ∃ error, answer = .error error)
  save_kept : ∀ s key state, Ends (kept · key) (store.save key state) s fun answer after =>
    after = some state ∨ after = kept s key ∧ ∃ error, answer = .error error
  clear_kept : ∀ s key, Ends (kept · key) (store.clear key) s fun answer after =>
    after = none ∨ after = kept s key ∧ ∃ error, answer = .error error

/-- A statement under a task key: how it is guarded, the store, the limits of the runner, the
parameters, and the operation ids in the order in which they are drawn. -/
structure Errand (δ σ : Type) where
  setup : Setup δ
  lasting : LastingStore σ
  roundTimeout : Option Duration := none
  maxRounds : Option Nat := none
  key : String
  backoff : Task.Backoff := .standard
  params : Members
  draws : Nat → String

namespace Errand

open Plant

variable {δ σ : Type}

/-- The store, each call after a turn. -/
def store (errand : Errand δ σ) :
    Task.StateStore (ExceptT OutOfCalendar (AttemptM δ σ)) where
  load key := ExceptT.lift do
    pause none
    keep (errand.lasting.store.load key)
  save key state := ExceptT.lift do
    pause none
    keep (errand.lasting.store.save key state)
  clear key := ExceptT.lift do
    pause none
    let cleared ← keep (errand.lasting.store.clear key)
    modifyThe (Plant δ σ) fun p =>
      { p with isCleared := (errand.lasting.kept p.store key).isNone }
    return cleared

/-- The runner. -/
def runner (errand : Errand δ σ) : Task.Runner (ExceptT OutOfCalendar (AttemptM δ σ)) where
  store := errand.store
  roundTimeout := errand.roundTimeout
  maxRounds := errand.maxRounds

/-- The next operation id. -/
def fresh (errand : Errand δ σ) : AttemptM δ σ String := do
  pause none
  modifyGetThe (Plant δ σ) fun p => (errand.draws p.drawn, { p with drawn := p.drawn + 1 })

variable [HasTables δ]

/-- A connection as a target, each primitive after a turn. -/
def target (errand : Errand δ σ) (c : ConnectionId) : Target (AttemptM δ σ) :=
  let target : Target (AttemptM δ σ) :=
    Database.target errand.setup.language errand.setup.capabilities c
  { capabilities := target.capabilities
    now := do touch (some c) none; target.now
    execute text := do touch (some c) none; target.execute text
    start := do touch (some c) none; target.start
    commit := do touch (some c) none; target.commit
    rollback := do touch (some c) none; target.rollback
    createTable table := do touch (some c) none; target.createTable table
    register table operation := do
      touch (some c) (some operation)
      target.register table operation
    lock table operation := do
      touch (some c) (some operation)
      target.lock table operation
    mark table operation := do
      touch (some c) (some operation)
      target.mark table operation
    purge table cutoff := do
      touch (some c) none
      modifyThe (Plant δ σ) fun p =>
        { p with cleanups := p.cleanups ++
            [(cutoff, (p.database.committed.rows? table.name).getD [])] }
      target.purge table cutoff }

/-- Connections of the database. -/
def connector (errand : Errand δ σ) : Connector (AttemptM δ σ) := do
  touch none none
  let c ← Database.perform (Database.newConnection (δ := δ))
  return .ok
    { target := errand.target c
      close := do
        touch (some c) none
        Database.perform (Database.close (δ := δ) c) }

/-- The task that the runner steps. -/
def task (errand : Errand δ σ) : GuardedStatement (AttemptM δ σ) where
  connector := errand.connector
  guard := errand.setup.guard
  backoff := errand.backoff

/-- A round of the task. -/
def round (errand : Errand δ σ) : Task (ExceptT OutOfCalendar (AttemptM δ σ)) :=
  errand.task.round errand.fresh

/-- One step of the runner, which may crash, unless the state of the key was cleared. -/
def attempt (errand : Errand δ σ) (p : Plant δ σ) : Plant δ σ :=
  if p.isCleared then p
  else
    ((errand.runner.step errand.key errand.round errand.params).run.run.run
      { p with cleanups := [] }).run.2

/-- Any number of attempts, one after the other. -/
def attempts (errand : Errand δ σ) (start : Plant δ σ) : Nat → Plant δ σ
  | 0 => start
  | n + 1 => errand.attempt (errand.attempts start n)

end Errand

/-! ## Where actions end, and where they crash -/

section Goes

variable {δ σ α β : Type} {p : Plant δ σ} {crash : Plant δ σ → Prop}

/-- An action that ends leaves a plant such that something holds of its answer and of the plant; one
that crashes leaves a plant of which something else holds. -/
def Goes (crash : Plant δ σ → Prop) (action : AttemptM δ σ α) (p : Plant δ σ)
    (post : α → Plant δ σ → Prop) : Prop :=
  match (action.run.run p).run with
  | (.ok a, p') => post a p'
  | (.error _, p') => crash p'

namespace Goes

variable {action : AttemptM δ σ α} {next : α → AttemptM δ σ β} {post post' : α → Plant δ σ → Prop}

theorem mono (h : Goes crash action p post) (hpost : ∀ a p', post a p' → post' a p') :
    Goes crash action p post' := by
  unfold Goes at h ⊢
  split at h
  · exact hpost _ _ h
  · exact h

theorem pure {a : α} (h : post a p) : Goes crash (pure a) p post := h

theorem bind {post : β → Plant δ σ → Prop}
    (h : Goes crash action p fun a p' => Goes crash (next a) p' post) :
    Goes crash (action >>= next) p post := by
  obtain ⟨⟨result, p'⟩, hrun⟩ : ∃ r, (action.run.run p).run = r := ⟨_, rfl⟩
  cases result <;> simpa [Goes, ExceptT.run_bind, hrun] using h

/-- A primitive of a database is known by what it leaves of the database's standing. -/
theorem perform {action : DatabaseM δ α} {post : α → Plant δ σ → Prop}
    (h : Ends Database.standing action p.database fun a standing => ∀ db : Database δ,
      db.standing = standing → post a { p with database := db }) :
    Goes crash (Database.perform action : AttemptM δ σ α) p post :=
  h _ rfl

theorem modify {change : Plant δ σ → Plant δ σ} {post : Unit → Plant δ σ → Prop}
    (h : post () (change p)) : Goes crash (modifyThe (Plant δ σ) change) p post := h

theorem modifyGet {change : Plant δ σ → α × Plant δ σ} {post : α → Plant δ σ → Prop}
    (h : post (change p).1 (change p).2) : Goes crash (modifyGetThe (Plant δ σ) change) p post := h

theorem warn {message : String} {post : Unit → Plant δ σ → Prop}
    (h : ∀ journal, post () { p with journal := journal }) :
    Goes crash (warn message : AttemptM δ σ Unit) p post := h _

/-- A call of the store is known by the state that it keeps under some key. -/
theorem keep {lasting : LastingStore σ} {key : String} {action : StateM σ α}
    {post : α → Plant δ σ → Prop}
    (h : Ends (lasting.kept · key) action p.store fun a kept => ∀ s : σ,
      lasting.kept s key = kept → post a { p with store := s }) :
    Goes crash (Plant.keep action) p post :=
  h _ rfl

end Goes

/-- The same where an action may end in a time outside the calendar, which ends the attempt. -/
def GoesOn (crash : Plant δ σ → Prop) (action : ExceptT OutOfCalendar (AttemptM δ σ) α)
    (p : Plant δ σ) (post : α → Plant δ σ → Prop) : Prop :=
  Goes crash action.run p fun result p' =>
    match result with
    | .ok a => post a p'
    | .error _ => crash p'

namespace GoesOn

variable {action : ExceptT OutOfCalendar (AttemptM δ σ) α}
  {next : α → ExceptT OutOfCalendar (AttemptM δ σ) β} {post post' : α → Plant δ σ → Prop}

theorem mono (h : GoesOn crash action p post) (hpost : ∀ a p', post a p' → post' a p') :
    GoesOn crash action p post' := by
  refine Goes.mono h fun result p' hresult => ?_
  cases result with
  | ok a => exact hpost a p' hresult
  | error _ => exact hresult

/-- Less may be asked of where an action crashes, too. -/
theorem imp {crash' : Plant δ σ → Prop} (h : GoesOn crash action p post)
    (hcrash : ∀ p', crash p' → crash' p') (hpost : ∀ a p', post a p' → post' a p') :
    GoesOn crash' action p post' := by
  -- An action crashes, ends outside of the calendar, or ends.
  unfold GoesOn Goes at h ⊢
  split at h
  · rename_i result p' _
    cases result with
    | ok a => exact hpost a p' h
    | error _ => exact hcrash p' h
  · exact hcrash _ h

theorem pure {a : α} (h : post a p) : GoesOn crash (pure a) p post := h

theorem lift {action : AttemptM δ σ α} (h : Goes crash action p post) :
    GoesOn crash (ExceptT.lift action) p post :=
  Goes.bind (h.mono fun _ _ hpost => hpost)

theorem bind {post : β → Plant δ σ → Prop}
    (h : GoesOn crash action p fun a p' => GoesOn crash (next a) p' post) :
    GoesOn crash (action >>= next) p post := by
  refine Goes.bind (Goes.mono h fun result p' hresult => ?_)
  cases result with
  | ok a => exact hresult
  | error e => exact hresult

/-- What holds wherever an action ends or crashes holds of the plant that it leaves. -/
theorem leaves {post : Plant δ σ → Prop} (h : GoesOn post action p fun _ p' => post p') :
    post (action.run.run.run p).run.2 := by
  unfold GoesOn Goes at h
  split at h
  · rename_i result p' hrun
    rw [hrun]
    cases result <;> exact h
  · rename_i hrun
    rw [hrun]
    exact h

end GoesOn

end Goes

end RetrySafe
