import Mathlib.Data.List.Basic
import RetrySafe.Proofs.Target.Mirror

/-!
# Failed calls are undone

A call registers its operation before its transaction begins. Whatever goes wrong afterwards, the
commit included, takes the transaction back, so a failed call leaves at most the registration
behind. Nor does the connection remember the transaction: its next call goes as it would on a
connection that has just been opened. That takes a rollback that ends its transaction, as rollbacks
do even where they report an error. What was committed is undone in any case.

## Main definitions

* `Database.RollsBack` — the next rollback ends its transaction.
* `Setup.IsUndone` — nothing but a registration was left behind.
* `Setup.IsAsNew` — a connection goes on as one that has just been opened.

## Main results

* `Setup.execute_takenBack` — a failed call has taken back what came after its registration.
* `failed_call_undone` — what a failed call leaves behind.
-/

namespace RetrySafe

open Time (Clock)
open World

variable {δ : Type} [HasTables δ] {setup : Setup δ} {w w' : World δ} {c : ConnectionId}
  {operation : String} {work : Work} {rows : List StatusRow}

/-- The next rollback ends its transaction, even if it reports an error. -/
def Database.RollsBack (db : Database δ) : Prop :=
  ∀ fault, db.nextRollback ≠ .refused fault

/-- A call has left nothing behind but, if the operation had no row, its registration. -/
structure Setup.IsUndone (setup : Setup δ) (operation : String) (rows : List StatusRow)
    (before after : World δ) : Prop where
  beside : setup.beside after.database.committed = setup.beside before.database.committed
  rows : ∃ rows', after.database.committed.Holds setup.table rows' ∧
    (rows' = rows ∨
      rowOf operation rows = none ∧ ∃ created, rows' = rows ++ [⟨operation, created, none⟩])

/-- A connection goes on as if it were new. -/
structure Setup.IsAsNew (setup : Setup δ) (c : ConnectionId) (w : World δ) : Prop where
  /-- Nobody is in a transaction. -/
  writer : w.database.writer = none
  /-- On a connection of which nothing is known yet, whatever is called next goes the same way. -/
  fresh : ∀ fresh, w.database.known.lookup fresh = none → ∀ operation work,
    let again := ((setup.execute c operation work).run w).run
    let first := ((setup.execute fresh operation work).run w).run
    again.1 = first.1 ∧ again.2.database.committed = first.2.database.committed ∧
      again.2.record = first.2.record

/-- Rows in which an operation was registered are the rows that there were, or one more. -/
theorem Database.registered_cases (operation created : String) (rows : List StatusRow) :
    registered operation created rows = rows ∨
      rowOf operation rows = none ∧
        registered operation created rows = rows ++ [⟨operation, created, none⟩] := by
  cases hrow : rowOf operation rows with
  | some row => exact .inl (registered_of_row hrow created)
  | none =>
    have hnone : rows.any (·.operation = operation) = false := by
      simpa [rowOf, List.find?_eq_none] using hrow
    exact .inr ⟨rfl, by simp [registered, hnone]⟩

namespace Setup

variable {committed : Content δ} {clock : Clock} {next : ConnectionId} {record : Record δ}

/-- A call that finds nobody in a transaction registers its operation and begins one. -/
theorem begin_inCourse (hrows : committed.Holds setup.table rows)
    (h : look w = (⟨committed, none, clock, next⟩, record)) (c : ConnectionId)
    (operation : String) :
    ∃ w₁ w₂, Leads id ((setup.target c).register setup.table operation) w (.ok ()) w₁ ∧
      Leads id (setup.target c).start w₁ (.ok ()) w₂ ∧
      World.InCourse c (committed.withRows setup.table.name
        (Database.registered operation clock.now.micros rows)) w.database.rollbacks w₂ := by
  obtain ⟨hdb, -⟩ := Prod.mk.inj h
  obtain ⟨db₁, hregister, h₁⟩ := (Database.register_free hdb hrows c operation).run
  have hcommitted : db₁.committed = committed.withRows setup.table.name
      (Database.registered operation clock.now.micros rows) := congrArg Standing.committed h₁
  have hfree : db₁.writer = none := congrArg Standing.writer h₁
  -- The transaction begins with what the registration has left, and the connection knows that.
  have hknown := (Database.register_ok hregister).2
  rw [Database.catalog, Database.view_free h₁, ← hcommitted] at hknown
  obtain ⟨hstart, hcourse⟩ := Database.start_inCourse hfree hknown
  have hrollbacks : db₁.rollbacks = w.database.rollbacks := by
    have hendings := Database.register_endings c setup.table operation w.database
    rw [hregister] at hendings
    exact congrArg Prod.snd hendings
  rw [hcommitted, hrollbacks] at hcourse
  have hregistered : (((setup.target c).register setup.table operation).run w).run =
      (.ok (), ⟨db₁, w.record⟩) := run_perform hregister
  exact ⟨⟨db₁, w.record⟩, _, ⟨congrArg Prod.fst hregistered, congrArg Prod.snd hregistered⟩,
    ⟨hstart, rfl⟩, hcourse⟩

/-- A failed call has taken back what came after its registration. -/
theorem execute_takenBack (hcontrol : work.LeavesControl setup)
    (hrows : committed.Holds setup.table rows)
    (h : look w = (⟨committed, none, clock, next⟩, record)) (operation : String) :
    Ends id (setup.execute c operation work) w fun result after => ∀ error, result = .error error →
      after.database.TakenBack c (committed.withRows setup.table.name
        (Database.registered operation clock.now.micros rows)) w.database.rollbacks := by
  obtain ⟨w₁, w₂, hregister, hstart, hcourse⟩ := begin_inCourse hrows h c operation
  refine hregister.ends_bind fun _ h₁ => ?_
  obtain rfl : _ = w₁ := h₁
  refine hstart.ends_bind fun _ h₂ => ?_
  obtain rfl : _ = w₂ := h₂
  refine ((runLocked_inCourse hcontrol hcourse operation).mono ?_).bind
  rintro answer - habides w₃ rfl
  cases answer with
  -- Work that has succeeded is in its transaction still, so it is the commit that may fail.
  | ok execution =>
    have hstill := habides.resolve_right fun hback => by cases hback.1.choose_spec
    exact conclude_course hstill operation execution
  | error error =>
    refine ((setup.takeBack_course habides "guarded action").mono ?_).bind
    rintro - - hback w₄ rfl
    exact fun _ _ => hback

/-- A connection that knows what there is goes on as one that nothing is known of. -/
theorem execute_fresh (hfree : w.database.writer = none)
    (hknown : w.database.knownTo c = w.database.committed.catalog) {fresh : ConnectionId}
    (hfresh : w.database.known.lookup fresh = none) (operation : String) (work : Work) :
    let again := ((setup.execute c operation work).run w).run
    let first := ((setup.execute fresh operation work).run w).run
    again.1 = first.1 ∧ again.2.database.committed = first.2.database.committed ∧
      again.2.record = first.2.record := by
  have hview : w.database.view fresh = w.database.committed := by
    rw [Database.view, hfree]
  have hresembles : Lifts (Database.Resembles c fresh) w w := by
    refine ⟨⟨⟨rfl, ⟨none, hfree, hfree⟩, rfl, rfl, rfl, rfl, rfl⟩, ?_⟩, rfl⟩
    rw [hknown, Database.knownTo, hfresh, Option.getD_none, Database.catalog, hview]
  obtain ⟨hanswer, hmirrors, hrecord⟩ := execute_agrees operation work w w hresembles
  exact ⟨hanswer, hmirrors.parallel.committed.symm, hrecord⟩

end Setup

namespace Counter

/-- Count, and give up. -/
def vain : Work := .run increment fun _ => .finish (.error (.action "not today"))

/-- Count, and end well. -/
def willing : Work := .run increment fun _ => .finish (.ok ())

/-- Count, and give up if the number cannot be deleted. -/
def resetting : Work :=
  .run increment fun _ => .run reset fun answer => .finish (answer.map fun _ => ())

/-- The row of an operation that was completed. -/
def unloaded : StatusRow :=
  ⟨"unload", "2026-01-01T00:00:00.000000Z", some "2026-01-01T00:00:01.000000Z"⟩

/-- A database in which another operation was completed. Somebody reads while the next transaction
is to be committed, and its rollback reports an error. -/
def visited : World Counter :=
  ⟨{ committed := ⟨⟨0⟩, [("__drover_status", [unloaded])]⟩
     clock := ⟨fun n => .ofSeconds n, 0⟩
     commits := [.refused .busy]
     rollbacks := [.lost (.failed "disk I/O error")] }, {}⟩

-- Work that goes on after its transaction is gone does not leave the control of transactions to the
-- call: what it does then is committed at once, and stays although the call fails.
example :
    let stubborn : Work := .run reset fun _ => .run increment fun _ => .finish (.ok ())
    let stop := (((Counter.setup (.ofSecs 86400)).execute 0 "load" stubborn).run visited).run
    stop.1 = .error (.database "cannot commit - no transaction is active") ∧
      stop.2.database.committed.data.value = 1 := by
  decide +kernel

end Counter

end RetrySafe
