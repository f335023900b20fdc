import RetrySafe.Proofs.Target.Transaction

/-!
# Connections are told apart by what they know

The number of a connection decides nothing. Two runs of the same guarded work, on two connections of
two databases that are the same but for who is in a transaction, have the same answers and leave the
same behind, if the two connections know the same of the catalog. So a connection that knows what
there is behaves as one that has just been opened, which looks before it compiles its first
statement.

## Main definitions

* `Agrees` — two actions answer the same from related states, and leave related states.
* `Database.Parallel` — databases that are the same but for the number of the connection.
* `Database.Resembles`, `Database.Mirrors` — the two connections also know the same, as far as they
  would tell now, or in the very same way.

## Main results

* `Setup.execute_agrees` — guarded work on two connections that know the same.
-/

namespace RetrySafe

section Agrees

variable {σ τ α β : Type} {R S T : σ → τ → Prop} {x : StateM σ α} {y : StateM τ α}
  {f : α → StateM σ β} {g : α → StateM τ β}

/-- From related states two actions answer the same, and leave states that are related again. -/
def Agrees (R S : σ → τ → Prop) (x : StateM σ α) (y : StateM τ α) : Prop :=
  ∀ s t, R s t → (x.run s).run.1 = (y.run t).run.1 ∧ S (x.run s).run.2 (y.run t).run.2

namespace Agrees

theorem pure (answer : α) : Agrees R R (pure answer) (pure answer) :=
  fun _ _ h => ⟨rfl, h⟩

theorem bind (h : Agrees R S x y) (hnext : ∀ a, Agrees S T (f a) (g a)) :
    Agrees R T (x >>= f) (y >>= g) := by
  intro s t hst
  obtain ⟨hanswer, hafter⟩ := h s t hst
  have hrest := hnext (x.run s).run.1 _ _ hafter
  rw [hanswer] at hrest
  simpa [hanswer] using hrest

theorem of_imp {R' : σ → τ → Prop} (h : Agrees R S x y) (himp : ∀ s t, R' s t → R s t) :
    Agrees R' S x y :=
  fun s t hst => h s t (himp s t hst)

end Agrees

end Agrees

namespace Database

variable {δ α : Type} {db db' : Database δ} {c c' : ConnectionId}

/-- Two databases are the same, but for the number of the one connection that may be in a
transaction, and for what connections know of the catalog. -/
structure Parallel (c c' : ConnectionId) (db db' : Database δ) : Prop where
  committed : db'.committed = db.committed
  writer : ∃ working : Option (Content δ),
    db.writer = working.map (c, ·) ∧ db'.writer = working.map (c', ·)
  isAltered : db'.isAltered = db.isAltered
  clock : db'.clock = db.clock
  next : db'.nextConnection = db.nextConnection
  commits : db'.commits = db.commits
  rollbacks : db'.rollbacks = db.rollbacks

namespace Parallel

theorem view (h : Parallel c c' db db') : db'.view c' = db.view c := by
  obtain ⟨working, hwriter, hwriter'⟩ := h.writer
  cases working <;> simp [Database.view, hwriter, hwriter', h.committed]

theorem lockedFor (h : Parallel c c' db db') :
    db.lockedFor c = false ∧ db'.lockedFor c' = false := by
  obtain ⟨working, hwriter, hwriter'⟩ := h.writer
  cases working <;> simp [Database.lockedFor, hwriter, hwriter']

theorem inTransaction (h : Parallel c c' db db') :
    db'.inTransaction c' = db.inTransaction c := by
  obtain ⟨working, hwriter, hwriter'⟩ := h.writer
  cases working <;> simp [Database.inTransaction, hwriter, hwriter']

theorem updated [HasTables δ] (h : Parallel c c' db db') (content : Content δ) :
    Parallel c c' (db.updated c content) (db'.updated c' content) := by
  obtain ⟨working, hwriter, hwriter'⟩ := h.writer
  -- Either both changes are committed at once, or both go to the working copy.
  cases working with
  | none =>
    rw [Option.map_none] at hwriter hwriter'
    simp only [Database.updated, hwriter, hwriter']
    exact { h with committed := rfl, writer := ⟨none, rfl, rfl⟩ }
  | some working =>
    rw [Option.map_some] at hwriter hwriter'
    simp only [Database.updated, hwriter, hwriter', if_true, h.isAltered]
    exact { h with writer := ⟨some content, rfl, rfl⟩, isAltered := rfl }

theorem nextCommit (h : Parallel c c' db db') : db'.nextCommit = db.nextCommit := by
  rw [Database.nextCommit, Database.nextCommit, h.commits]

theorem nextRollback (h : Parallel c c' db db') : db'.nextRollback = db.nextRollback := by
  rw [Database.nextRollback, Database.nextRollback, h.rollbacks]

end Parallel

/-- The two connections know the same, in the very same way. -/
structure Mirrors (c c' : ConnectionId) (db db' : Database δ) : Prop where
  parallel : Parallel c c' db db'
  known : db'.known.lookup c' = db.known.lookup c

theorem Parallel.informed (h : Parallel c c' db db') (known : Catalog) :
    Mirrors c c' (db.informed c known) (db'.informed c' known) where
  parallel := { h with }
  known := by rw [lookup_informed, lookup_informed]

/-- A transaction is left with the same knowledge: none, if it has changed the catalog. -/
theorem Mirrors.abandoned (h : Mirrors c c' db db') :
    Mirrors c c' (db.abandoned c) (db'.abandoned c') := by
  have hin := h.parallel.inTransaction
  unfold Database.abandoned
  cases hinside : db.inTransaction c with
  | false =>
    rw [hinside] at hin
    simpa [hin] using h
  | true =>
    rw [hinside] at hin
    rw [if_pos rfl, if_pos hin]
    have haltered := h.parallel.isAltered
    cases halter : db.isAltered with
    | false =>
      rw [halter] at haltered
      rw [haltered]
      exact ⟨{ h.parallel with writer := ⟨none, rfl, rfl⟩, isAltered := rfl },
        h.known⟩
    | true =>
      rw [halter] at haltered
      rw [haltered]
      refine ⟨{ h.parallel with
        writer := ⟨none, rfl, rfl⟩, isAltered := rfl }, ?_⟩
      exact (lookup_forgotten db' c').trans (lookup_forgotten db c).symm

theorem Mirrors.changed [HasTables δ] (h : Mirrors c c' db db') (content : Content δ) :
    Mirrors c c' (db.changed c content) (db'.changed c' content) :=
  (h.parallel.updated content).informed content.catalog

/-! ## Clock and transactions -/

theorem now_agrees : Agrees (Mirrors c c') (Mirrors c c') (now (δ := δ)) now := by
  intro db db' h
  refine ⟨congrArg Time.Clock.now h.parallel.clock.symm, ?_⟩
  exact ⟨{ h.parallel with clock := congrArg Time.Clock.advanced h.parallel.clock }, h.known⟩

theorem start_agrees : Agrees (Mirrors c c') (Mirrors c c') (start (δ := δ) c) (start c') := by
  intro db db' h
  obtain ⟨working, hwriter, hwriter'⟩ := h.parallel.writer
  cases working with
  | none =>
    simp only [Option.map_none] at hwriter hwriter'
    simp only [start, StateT.run_bind, StateT.run_get, pure_bind, hwriter, hwriter']
    refine ⟨rfl, { h.parallel with
      writer := ⟨some db.committed, rfl, ?_⟩, isAltered := rfl }, h.known⟩
    exact congrArg (fun committed => some (c', committed)) h.parallel.committed
  | some working =>
    simp only [Option.map_some] at hwriter hwriter'
    simpa [start, failure, hwriter, hwriter'] using h

theorem commit_agrees : Agrees (Mirrors c c') (Mirrors c c') (commit (δ := δ) c) (commit c') := by
  intro db db' h
  have hin := h.parallel.inTransaction
  cases hinside : db.inTransaction c with
  | false =>
    rw [hinside] at hin
    simpa [commit, failure, hin, hinside] using h
  | true =>
    rw [hinside] at hin
    have hview := h.parallel.view
    have hnext := h.parallel.nextCommit
    have htried : Mirrors c c' { db with commits := db.commits.tail }
        { db' with commits := db'.commits.tail } :=
      ⟨{ h.parallel with commits := congrArg List.tail h.parallel.commits }, h.known⟩
    simp only [commit, StateT.run_bind, StateT.run_get, pure_bind, hin, hinside, if_true, hnext]
    cases db.nextCommit with
    | done =>
      exact ⟨rfl, { htried.parallel with
        committed := hview, writer := ⟨none, rfl, rfl⟩, isAltered := rfl },
        h.known⟩
    | refused fault => exact ⟨rfl, htried⟩
    | lost fault => exact ⟨rfl, htried.abandoned⟩

theorem rollback_agrees :
    Agrees (Mirrors c c') (Mirrors c c') (rollback (δ := δ) c) (rollback c') := by
  intro db db' h
  have hin := h.parallel.inTransaction
  cases hinside : db.inTransaction c with
  | false =>
    rw [hinside] at hin
    simpa [rollback, hin, hinside] using h
  | true =>
    rw [hinside] at hin
    have hnext := h.parallel.nextRollback
    have htried : Mirrors c c' { db with rollbacks := db.rollbacks.tail }
        { db' with rollbacks := db'.rollbacks.tail } :=
      ⟨{ h.parallel with rollbacks := congrArg List.tail h.parallel.rollbacks }, h.known⟩
    simp only [rollback, StateT.run_bind, StateT.run_get, pure_bind, hin, hinside, if_true, hnext]
    cases db.nextRollback with
    | done => exact ⟨rfl, htried.abandoned⟩
    | refused fault => exact ⟨rfl, htried⟩
    | lost fault => exact ⟨rfl, htried.abandoned⟩

/-! ## Statements -/

variable [HasTables δ]

/-- Two connections know the same, as far as they would tell now. -/
structure Resembles (c c' : ConnectionId) (db db' : Database δ) : Prop where
  parallel : Parallel c c' db db'
  known : db'.knownTo c' = db.knownTo c

theorem Parallel.catalog (h : Parallel c c' db db') : db'.catalog c' = db.catalog c :=
  congrArg Content.catalog h.view

theorem Mirrors.resembles (h : Mirrors c c' db db') : Resembles c c' db db' where
  parallel := h.parallel
  known := by rw [knownTo, knownTo, h.known, h.parallel.catalog]

/-- Compiling a statement, a connection makes sure of what it knows. -/
theorem compile_agrees (demand : Demand) :
    Agrees (Resembles c c') (Mirrors c c') (compile (δ := δ) c demand) (compile c' demand) := by
  intro db db' h
  have hcatalog := h.parallel.catalog
  cases hknown : demand (db.knownTo c) with
  | none =>
    simpa [compile, h.known, hknown] using h.parallel.informed (db.knownTo c)
  | some message =>
    simpa [compile, h.known, hknown, refreshed, hcatalog] using h.parallel.informed (db.catalog c)

theorem recheck_agrees (demand : Demand) :
    Agrees (Mirrors c c') (Mirrors c c') (recheck (δ := δ) c demand) (recheck c' demand) := by
  intro db db' h
  have hcatalog := h.parallel.catalog
  simpa [recheck, refreshed, hcatalog] using h.parallel.informed (db.catalog c)

theorem read_agrees (demand : Demand) (query : Content δ → Except GuardError α) :
    Agrees (Resembles c c') (Mirrors c c') (read c demand query) (read c' demand query) := by
  refine (compile_agrees demand).bind fun missing => ?_
  cases missing with
  | some message => exact .pure _
  | none =>
    refine (recheck_agrees demand).bind fun missing => ?_
    cases missing with
    | some message => exact .pure _
    | none => exact fun db db' h => ⟨congrArg query h.parallel.view.symm, h⟩

theorem exclusively_agrees (resource : String) (demand : Demand)
    {effect effect' : DatabaseM δ (Except GuardError α)}
    (heffect : Agrees (Mirrors c c') (Mirrors c c') effect effect') :
    Agrees (Mirrors c c') (Mirrors c c') (exclusively c resource demand effect)
      (exclusively c' resource demand effect') := by
  intro db db' h
  obtain ⟨hfree, hfree'⟩ := h.parallel.lockedFor
  have hcatalog := h.parallel.catalog
  have hrefreshed : Mirrors c c' (db.refreshed c) (db'.refreshed c') :=
    (recheck_agrees demand db db' h).2
  -- The catalog keeps the statement from running in both databases or in none.
  cases hmissing : demand (db.catalog c) with
  | some message =>
    simpa [exclusively, hfree, hfree', recheck, hcatalog, hmissing, failure] using hrefreshed
  | none =>
    simpa [exclusively, hfree, hfree', recheck, hcatalog, hmissing] using heffect _ _ hrefreshed

theorem change_agrees (resource : String) (demand : Demand)
    (f : Content δ → Except GuardError (Content δ × α)) :
    Agrees (Mirrors c c') (Mirrors c c') (change c resource demand f)
      (change c' resource demand f) := by
  refine exclusively_agrees resource demand fun db db' h => ?_
  have hview := h.parallel.view
  cases hf : f (db.view c) with
  | error error => simpa [hview, hf] using h
  | ok result => simpa [hview, hf] using h.changed result.1

/-- What comes of a statement comes of it in both databases. -/
theorem apply_agrees (statement : Statement δ) :
    Agrees (Mirrors c c') (Mirrors c c') (apply c statement) (apply c' statement) := by
  refine exclusively_agrees "statement" statement.demand fun db db' h => ?_
  have hview := h.parallel.view
  simp only [StateT.run_bind, StateT.run_get, pure_bind, hview]
  refine ⟨rfl, ?_⟩
  cases statement.run (db.view c) with
  | done content count => exact h.changed content
  | abort message => exact h
  | fail message content => exact h.changed content
  | rollback message => exact h.abandoned

theorem write_agrees (resource : String) (demand : Demand)
    (f : Content δ → Except GuardError (Content δ × α)) :
    Agrees (Resembles c c') (Mirrors c c') (write c resource demand f)
      (write c' resource demand f) := by
  refine (compile_agrees demand).bind fun missing => ?_
  cases missing with
  | some message => exact .pure _
  | none => exact change_agrees resource demand f

theorem prepare_agrees (script : Script δ) :
    Agrees (Mirrors c c') (Mirrors c c') (prepare c script) (prepare c' script) := by
  -- By induction on the text: what follows the first statement is compiled as well.
  induction script with
  | nil => exact .pure _
  | cons head rest ih =>
    match head with
    | .error message => exact .pure _
    | .ok statement =>
      refine ((compile_agrees statement.demand).of_imp fun _ _ => Mirrors.resembles).bind
        fun missing => ?_
      cases missing with
      | some message => exact .pure _
      | none =>
        cases rest with
        | nil => exact .pure _
        | cons second rest =>
          refine ih.bind fun answer => ?_
          cases answer <;> exact .pure _

theorem execute_agrees (script : Script δ) :
    Agrees (Mirrors c c') (Mirrors c c') (execute c script) (execute c' script) := by
  refine (prepare_agrees script).bind fun prepared => ?_
  cases prepared with
  | error message => exact .pure _
  | ok statement =>
    dsimp only
    split
    · exact apply_agrees statement
    · exact (read_agrees _ _).of_imp fun _ _ => Mirrors.resembles

/-- The first thing that a guarded call does with a connection. -/
theorem register_agrees (table : StatusTable) (operation : String) :
    Agrees (Resembles c c') (Mirrors c c') (register (δ := δ) c table operation)
      (register c' table operation) := by
  have hnow : Agrees (Resembles c c') (Resembles c c') (now (δ := δ)) now := by
    intro db db' h
    refine ⟨congrArg Time.Clock.now h.parallel.clock.symm, ?_⟩
    exact ⟨{ h.parallel with clock := congrArg Time.Clock.advanced h.parallel.clock }, h.known⟩
  exact hnow.bind fun _ => write_agrees _ _ _

theorem lookAt_agrees (table : StatusTable) (operation : String) :
    Agrees (Mirrors c c') (Mirrors c c') (lookAt (δ := δ) c table operation)
      (lookAt c' table operation) :=
  (read_agrees _ _).of_imp fun _ _ => Mirrors.resembles

theorem mark_agrees (table : StatusTable) (operation : String) :
    Agrees (Mirrors c c') (Mirrors c c') (mark (δ := δ) c table operation)
      (mark c' table operation) :=
  now_agrees.bind fun _ => (write_agrees _ _ _).of_imp fun _ _ => Mirrors.resembles

end Database

/-! ## Guarded work -/

open World

variable {δ α : Type} {c c' : ConnectionId} {R S : Database δ → Database δ → Prop}

/-- Two worlds have related databases and the same record. -/
def World.Lifts (R : Database δ → Database δ → Prop) (w w' : World δ) : Prop :=
  R w.database w'.database ∧ w.record = w'.record

theorem World.perform_agrees {x y : DatabaseM δ α} (h : Agrees R S x y) :
    Agrees (Lifts R) (Lifts S) (Database.perform x : WorldM δ α) (Database.perform y) :=
  fun _ _ hw => ⟨(h _ _ hw.1).1, (h _ _ hw.1).2, hw.2⟩

theorem World.warn_agrees (message : String) :
    Agrees (Lifts R) (Lifts R) (warn message : WorldM δ Unit) (warn message) :=
  fun _ _ hw => ⟨rfl, hw.1, congrArg (fun record : Record δ =>
    { record with journal := ⟨message :: record.journal.entries⟩ }) hw.2⟩

theorem World.notRecorded_agrees (operation : String) (cause : GuardError) :
    Agrees (Lifts R) (Lifts R) (Guard.notRecorded operation cause : WorldM δ GuardError)
      (Guard.notRecorded operation cause) :=
  (warn_agrees _).bind fun _ => .pure _

variable [HasTables δ] {setup : Setup δ}

theorem Work.perform_agrees (work : Work) :
    Agrees (Lifts (Database.Mirrors c c')) (Lifts (Database.Mirrors c c'))
      (work.perform (setup.target c)) (work.perform (setup.target c')) := by
  induction work with
  | finish result => exact .pure _
  | run statement next ih =>
    exact (World.perform_agrees (Database.execute_agrees (setup.language statement))).bind ih

namespace Setup

theorem takeBack_agrees (occasion : String) :
    Agrees (Lifts (Database.Mirrors c c')) (Lifts (Database.Mirrors c c'))
      (Guard.takeBack (setup.target c) occasion) (Guard.takeBack (setup.target c') occasion) := by
  refine (World.perform_agrees Database.rollback_agrees).bind fun answer => ?_
  cases answer with
  | ok => exact .pure _
  | error error => exact World.warn_agrees _

theorem runLocked_agrees (operation : String) (work : Work) :
    Agrees (Lifts (Database.Mirrors c c')) (Lifts (Database.Mirrors c c'))
      (Guard.runLocked (setup.target c) setup.table operation (work.perform (setup.target c)))
      (Guard.runLocked (setup.target c') setup.table operation
        (work.perform (setup.target c'))) := by
  refine (World.perform_agrees (Database.lookAt_agrees _ _)).bind fun completion => ?_
  match completion with
  | .error error => exact .pure _
  | .ok (some t) => exact .pure _
  | .ok none =>
    refine work.perform_agrees.bind fun answer => ?_
    cases answer with
    | error error => exact .pure _
    | ok =>
      refine (World.perform_agrees (Database.mark_agrees _ _)).bind fun marked => ?_
      cases marked with
      | ok => exact .pure _
      | error error =>
        -- Both connections belong to one target, and so have the same capabilities.
        have hsame : (setup.target c').capabilities = (setup.target c).capabilities := rfl
        dsimp only
        rw [hsame]
        split
        · exact .pure _
        · exact (notRecorded_agrees operation error).bind fun _ => .pure _

theorem conclude_agrees (operation : String) (execution : Execution) :
    Agrees (Lifts (Database.Mirrors c c')) (Lifts (Database.Mirrors c c'))
      (Guard.conclude (setup.target c) operation execution)
      (Guard.conclude (setup.target c') operation execution) := by
  refine (World.perform_agrees Database.commit_agrees).bind fun answer => ?_
  cases answer with
  | ok => exact .pure _
  | error error =>
    refine (takeBack_agrees "commit").bind fun _ => ?_
    have hsame : (setup.target c').capabilities = (setup.target c).capabilities := rfl
    rw [hsame]
    split
    · exact (notRecorded_agrees operation error).bind fun _ => .pure _
    · exact .pure _

/-- Guarded work on two connections that know the same. -/
theorem execute_agrees (operation : String) (work : Work) :
    Agrees (Lifts (Database.Resembles c c')) (Lifts (Database.Mirrors c c'))
      (setup.execute c operation work) (setup.execute c' operation work) := by
  refine (World.perform_agrees (Database.register_agrees _ _)).bind fun answer => ?_
  cases answer with
  | error error => exact .pure _
  | ok =>
    refine (World.perform_agrees Database.start_agrees).bind fun answer => ?_
    cases answer with
    | error error => exact .pure _
    | ok =>
      refine (runLocked_agrees operation work).bind fun answer => ?_
      cases answer with
      | ok execution => exact conclude_agrees operation execution
      | error error => exact (takeBack_agrees _).bind fun _ => .pure _

end Setup

end RetrySafe
