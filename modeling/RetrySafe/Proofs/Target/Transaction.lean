import RetrySafe.Proofs.Target.Changes

/-!
# Inside a transaction

Once a connection is in a transaction, nothing that it does with statements and status rows changes
what is committed, and only a statement that takes the transaction along leads out of it. What the
connection knows of the catalog may be out of date inside, but not after the transaction is gone:
either the transaction has not changed the catalog, and what is known is the catalog that was
committed, or it has, and the connection knows nothing any more. None of this depends on what is
stored.

## Main definitions

* `Maintains` — an action keeps a property of states.
* `Work` — what an action does that has nothing but its connection.
* `Work.LeavesControl` — work that does not go on after its transaction is gone.
* `Database.InCourse`, `Database.IsBack` — a connection is in a transaction, or not any more.

## Main results

* `Work.inCourse`, `Setup.runLocked_inCourse` — work that leads out of its transaction fails.
* `Database.InCourse.abandoned` — what a transaction leaves that is gone.
* `Setup.takeBack_course`, `Setup.conclude_course` — what is taken back is gone, unless that is
  refused.
-/

namespace RetrySafe

section Maintains

variable {σ α β : Type} {P : σ → Prop} {action : StateM σ α} {next : α → StateM σ β}

/-- An action keeps a property of states, whatever its answer. -/
def Maintains (P : σ → Prop) (action : StateM σ α) : Prop :=
  ∀ s, P s → P (action.run s).run.2

namespace Maintains

theorem pure (answer : α) : Maintains P (pure answer : StateM σ α) :=
  fun _ h => h

theorem bind (h : Maintains P action) (hnext : ∀ a, Maintains P (next a)) :
    Maintains P (action >>= next) :=
  fun s hs => hnext _ _ (h s hs)

end Maintains

end Maintains

/-! ## Work -/

/-- What an action does that has nothing but the connection that it is given: end, or run a
statement and go on by the answer. -/
inductive Work
  | finish (result : Except GuardError Unit)
  | run (statement : String) (next : Except GuardError Nat → Work)

/-- Work does not go on where a statement has failed. -/
def Work.GivesUp (next : Except GuardError Nat → Work) : Prop :=
  ∀ error, ∃ error', next (.error error) = .finish (.error error')

/-- Do some work on a connection. -/
def Work.perform {m : Type → Type} [Monad m] (target : Target m) :
    Work → m (Except GuardError Unit)
  | finish result => return result
  | run statement next => do (next (← target.execute statement)).perform target

namespace Database

variable {δ α : Type} {db : Database δ} {c : ConnectionId} {base content : Content δ}
  {known : Catalog}

theorem lookup_forgotten (db : Database δ) (c : ConnectionId) :
    (db.forgotten c).known.lookup c = none := by
  refine List.lookup_eq_none_iff.mpr fun pair hpair => ?_
  have hne : pair.1 ≠ c := by simpa using (List.mem_filter.mp hpair).2
  exact bne_iff_ne.mpr hne.symm

variable [HasTables δ]

/-- A connection is in a transaction that began with what is committed. As long as it has not
changed the catalog, the connection knows the catalog of that. -/
structure InCourse (c : ConnectionId) (base : Content δ) (rollbacks : List Ending)
    (db : Database δ) : Prop where
  writer : ∃ working, db.writer = some (c, working) ∧
    (db.isAltered = false → working.catalog = base.catalog)
  committed : db.committed = base
  known : db.isAltered = false → db.known.lookup c = some base.catalog
  rollbacks : db.rollbacks = rollbacks

/-- Nobody is in a transaction any more, and the connection that was knows what is committed. -/
structure IsBack (c : ConnectionId) (base : Content δ) (db : Database δ) : Prop where
  writer : db.writer = none
  committed : db.committed = base
  knownTo : db.knownTo c = base.catalog

/-- A transaction was taken back. Unless that was refused, it is gone. -/
structure TakenBack (c : ConnectionId) (base : Content δ) (rollbacks : List Ending)
    (db : Database δ) : Prop where
  committed : db.committed = base
  isBack : (∀ fault, rollbacks.headD .done ≠ .refused fault) → db.IsBack c base

theorem IsBack.takenBack (h : db.IsBack c base) (rollbacks : List Ending) :
    db.TakenBack c base rollbacks :=
  ⟨h.committed, fun _ => h⟩

namespace InCourse

variable {rollbacks : List Ending}

theorem view (h : db.InCourse c base rollbacks) : db.writer = some (c, db.view c) := by
  obtain ⟨working, hwriter, -⟩ := h.writer
  simp [Database.view, hwriter]

theorem lockedFor (h : db.InCourse c base rollbacks) : db.lockedFor c = false := by
  simp [Database.lockedFor, h.view]

theorem inTransaction (h : db.InCourse c base rollbacks) : db.inTransaction c = true := by
  simp [Database.inTransaction, h.view]

theorem catalog (h : db.InCourse c base rollbacks) (haltered : db.isAltered = false) :
    db.catalog c = base.catalog := by
  obtain ⟨working, hwriter, hcatalog⟩ := h.writer
  rw [Database.catalog, Database.view, hwriter]
  simpa using hcatalog haltered

theorem knownTo (h : db.InCourse c base rollbacks) (haltered : db.isAltered = false) :
    db.knownTo c = base.catalog := by
  rw [Database.knownTo, h.known haltered, Option.getD_some]

theorem informed (h : db.InCourse c base rollbacks)
    (hknown : db.isAltered = false → known = base.catalog) :
    (db.informed c known).InCourse c base rollbacks where
  writer := h.writer
  committed := h.committed
  known haltered := by rw [lookup_informed, hknown haltered]
  rollbacks := h.rollbacks

theorem refreshed (h : db.InCourse c base rollbacks) : (db.refreshed c).InCourse c base rollbacks :=
  h.informed h.catalog

/-- A change of the working copy is remembered if it changes the catalog. -/
theorem changed (h : db.InCourse c base rollbacks) (content : Content δ) :
    (db.changed c content).InCourse c base rollbacks := by
  obtain ⟨working, hwriter, hcatalog⟩ := h.writer
  have hupdated : db.updated c content =
      { db with writer := some (c, content)
                isAltered := db.isAltered || decide (content.catalog ≠ working.catalog) } := by
    simp [Database.updated, hwriter]
  have hsame (haltered : (db.updated c content).isAltered = false) :
      content.catalog = base.catalog := by
    rw [hupdated] at haltered
    simp only [Bool.or_eq_false_iff, decide_eq_false_iff_not, Decidable.not_not] at haltered
    rw [haltered.2, hcatalog haltered.1]
  constructor
  · refine ⟨content, ?_, hsame⟩
    rw [Database.changed, hupdated]
    rfl
  · rw [Database.changed, hupdated]
    exact h.committed
  · intro haltered
    rw [Database.changed, lookup_informed, hsame haltered]
  · rw [Database.changed, hupdated]
    exact h.rollbacks

/-- A transaction that is gone leaves what was committed, and a connection whose knowledge of it is
up to date. -/
theorem abandoned (h : db.InCourse c base rollbacks) :
    (db.abandoned c).IsBack c base := by
  unfold Database.abandoned
  rw [if_pos h.inTransaction]
  cases haltered : db.isAltered with
  | false =>
    refine ⟨rfl, h.committed, ?_⟩
    exact congrArg (Option.getD · _) (h.known haltered)
  | true =>
    refine ⟨rfl, h.committed, ?_⟩
    rw [if_pos rfl, Database.knownTo, lookup_forgotten, Option.getD_none]
    exact congrArg Content.catalog h.committed

end InCourse

/-- A transaction is begun where nobody is in one. -/
theorem start_inCourse (hfree : db.writer = none)
    (hknown : db.known.lookup c = some db.committed.catalog) :
    ((start c).run db).run.1 = .ok () ∧
      ((start c).run db).run.2.InCourse c db.committed db.rollbacks := by
  simp only [start, StateT.run_bind, StateT.run_get, pure_bind, hfree]
  exact ⟨rfl, ⟨_, rfl, fun _ => rfl⟩, rfl, fun _ => hknown, rfl⟩

variable {rollbacks : List Ending}

/-! ## Statements -/

theorem compile_inCourse (demand : Demand) :
    Maintains (InCourse c base rollbacks) (compile (δ := δ) c demand) := by
  intro db h
  cases hknown : demand (db.knownTo c) with
  | none => simpa [compile, hknown] using h.informed h.knownTo
  | some message => simpa [compile, hknown] using h.refreshed

theorem recheck_inCourse (demand : Demand) :
    Maintains (InCourse c base rollbacks) (recheck (δ := δ) c demand) := by
  intro db h
  simpa [recheck] using h.refreshed

theorem read_inCourse (demand : Demand) (query : Content δ → Except GuardError α) :
    Maintains (InCourse c base rollbacks) (read c demand query) := by
  refine (compile_inCourse demand).bind fun missing => ?_
  cases missing with
  | some message => exact .pure _
  | none =>
    refine (recheck_inCourse demand).bind fun missing => ?_
    cases missing with
    | some message => exact .pure _
    | none => exact fun db h => h

theorem change_inCourse (resource : String) (demand : Demand)
    (f : Content δ → Except GuardError (Content δ × α)) :
    Maintains (InCourse c base rollbacks) (change c resource demand f) := by
  intro db h
  have hends : Ends id (change c resource demand f) db fun _ after =>
      after.InCourse c base rollbacks := by
    refine exclusively_ends h.lockedFor (fun _ => h.refreshed) ?_
    cases hf : f ((db.refreshed c).view c) with
    | error error => simpa [Ends, hf] using h.refreshed
    | ok result => simpa [Ends, hf] using h.refreshed.changed result.1
  exact hends

theorem write_inCourse (resource : String) (demand : Demand)
    (f : Content δ → Except GuardError (Content δ × α)) :
    Maintains (InCourse c base rollbacks) (write c resource demand f) := by
  refine (compile_inCourse demand).bind fun missing => ?_
  cases missing with
  | some message => exact .pure _
  | none => exact change_inCourse resource demand f

theorem prepare_inCourse (script : Script δ) :
    Maintains (InCourse c base rollbacks) (prepare c script) := by
  -- By induction on the text: what follows the first statement is compiled as well.
  induction script with
  | nil => exact .pure _
  | cons head rest ih =>
    match head with
    | .error message => exact .pure _
    | .ok statement =>
      refine (compile_inCourse statement.demand).bind fun missing => ?_
      cases missing with
      | some message => exact .pure _
      | none =>
        cases rest with
        | nil => exact .pure _
        | cons second rest =>
          refine ih.bind fun answer => ?_
          cases answer <;> exact .pure _

/-- A statement stays in the transaction, or fails and takes it along. -/
theorem execute_inCourse (h : db.InCourse c base rollbacks) (script : Script δ) :
    Ends id (execute c script) db fun answer after =>
      after.InCourse c base rollbacks ∨
        (∃ statement content message, .ok statement ∈ script ∧
          statement.run content = .rollback message) ∧
        (∃ error, answer = .error error) ∧ after.IsBack c base := by
  have hprepare : Ends id (prepare c script) db fun prepared db' =>
      db'.InCourse c base rollbacks ∧
        ∀ statement, prepared = .ok statement → .ok statement ∈ script := by
    refine ⟨prepare_inCourse script db h, fun statement hok => ?_⟩
    rw [prepare_ok hok]
    exact List.mem_singleton_self _
  refine (hprepare.mono ?_).bind
  rintro prepared - ⟨hcourse, hmem⟩ db' rfl
  cases prepared with
  | error message => exact .inl hcourse
  | ok statement =>
    dsimp only
    split
    · refine exclusively_ends hcourse.lockedFor (fun _ => .inl hcourse.refreshed) ?_
      unfold Ends
      simp only [StateT.run_bind, StateT.run_get, pure_bind]
      cases hrun : statement.run (Database.view (Database.refreshed db' c) c) with
      | done content count => exact .inl (hcourse.refreshed.changed content)
      | abort message => exact .inl hcourse.refreshed
      | fail message content => exact .inl (hcourse.refreshed.changed content)
      | rollback message =>
        exact .inr ⟨⟨statement, _, message, hmem statement rfl, hrun⟩, ⟨_, rfl⟩,
          hcourse.refreshed.abandoned⟩
    · exact .inl (read_inCourse _ _ _ hcourse)

theorem lookAt_inCourse (table : StatusTable) (operation : String) :
    Maintains (InCourse c base rollbacks) (lookAt (δ := δ) c table operation) :=
  read_inCourse _ _

theorem mark_inCourse (table : StatusTable) (operation : String) :
    Maintains (InCourse c base rollbacks) (mark (δ := δ) c table operation) :=
  Maintains.bind (fun _ h => ⟨h.writer, h.committed, h.known, h.rollbacks⟩) fun _ =>
    write_inCourse _ _ _

/-! ## The end of a transaction -/

/-- A commit that fails leaves the transaction as it is, or it is gone. -/
theorem commit_inCourse (h : db.InCourse c base rollbacks) :
    Ends id (commit c) db fun answer after =>
      answer = .ok () ∨ after.InCourse c base rollbacks ∨ after.IsBack c base := by
  have htried : ({ db with commits := db.commits.tail } : Database δ).InCourse c base rollbacks :=
    ⟨h.writer, h.committed, h.known, h.rollbacks⟩
  unfold Ends
  obtain ⟨-, hrun⟩ | ⟨-, error, hrun | hrun⟩ := commit_cases h.inTransaction <;> rw [hrun]
  · exact .inl rfl
  · exact .inr (.inl htried)
  · exact .inr (.inr htried.abandoned)

/-- A rollback that is not refused leads out of the transaction. -/
theorem rollback_inCourse (h : db.InCourse c base rollbacks) :
    Ends id (rollback c) db fun _ after => after.TakenBack c base rollbacks := by
  have htried : ({ db with rollbacks := db.rollbacks.tail } : Database δ).InCourse c base
      rollbacks.tail := ⟨h.writer, h.committed, h.known, by rw [h.rollbacks]⟩
  unfold Ends
  obtain ⟨answer, hrun⟩ | ⟨fault, hrefused, answer, hrun⟩ := rollback_cases h.inTransaction <;>
    rw [hrun]
  · exact htried.abandoned.takenBack rollbacks
  · rw [Database.nextRollback, h.rollbacks] at hrefused
    exact ⟨htried.committed, fun hrolls => absurd hrefused (hrolls fault)⟩

end Database

/-! ## Guarded work -/

open World

variable {δ : Type}

theorem World.notRecorded_database (operation : String) (cause : GuardError) :
    Keeps World.database (Guard.notRecorded operation cause : WorldM δ GuardError) :=
  fun _ => rfl

variable [HasTables δ] {setup : Setup δ} {c : ConnectionId} {base : Content δ}
  {rollbacks : List Ending} {w : World δ}

/-- Work does not control transactions. To go on after a statement that took the transaction along
would be that: what came next would be committed at once. -/
def Work.LeavesControl (setup : Setup δ) : Work → Prop
  | finish _ => True
  | run statement next =>
    (setup.Stays statement ∨ GivesUp next) ∧ ∀ answer, (next answer).LeavesControl setup

/-- A connection of a world is in a transaction. -/
def World.InCourse (c : ConnectionId) (base : Content δ) (rollbacks : List Ending) (w : World δ) :
    Prop :=
  w.database.InCourse c base rollbacks

/-- Something was done in a transaction, and that goes on; or it has failed, and the transaction is
gone. -/
def World.Abides {α : Type} (c : ConnectionId) (base : Content δ) (rollbacks : List Ending)
    (answer : Except GuardError α) (w : World δ) : Prop :=
  w.database.InCourse c base rollbacks ∨
    (∃ error, answer = .error error) ∧ w.database.IsBack c base

theorem Work.inCourse {work : Work} (hcontrol : work.LeavesControl setup)
    (h : World.InCourse c base rollbacks w) :
    Ends id (work.perform (setup.target c)) w (World.Abides c base rollbacks) := by
  induction work generalizing w with
  | finish result => exact .inl h
  | run statement next ih =>
    obtain ⟨hstays, hnext⟩ := hcontrol
    obtain ⟨⟨answer, w'⟩, hrun⟩ : ∃ p, (((setup.target c).execute statement).run w).run = p :=
      ⟨_, rfl⟩
    have hexecute := Database.execute_inCourse h (setup.language statement)
    rw [Ends, (perform_run hrun).1] at hexecute
    rw [perform]
    unfold Ends
    simp only [StateT.run_bind, Id.run_bind, hrun]
    rcases hexecute with hcourse | ⟨⟨_, _, _, hmem, hlost⟩, ⟨error, rfl⟩, hback⟩
    · exact ih answer (hnext answer) hcourse
    -- The transaction is gone, and so the work gives up.
    · obtain ⟨error', hgives⟩ :=
        hstays.resolve_left (fun hstays => hstays _ hmem _ _ hlost) error
      rw [hgives]
      exact .inr ⟨⟨error', rfl⟩, hback⟩

namespace Setup

/-- A guarded call of some work. -/
def execute (setup : Setup δ) (c : ConnectionId) (operation : String) (work : Work) :
    WorldM δ (Except GuardError Execution) :=
  setup.guard.execute (setup.target c) operation (work.perform (setup.target c))

theorem runLocked_inCourse {work : Work} (hcontrol : work.LeavesControl setup)
    (h : World.InCourse c base rollbacks w) (operation : String) :
    Ends id (Guard.runLocked (setup.target c) setup.table operation
      (work.perform (setup.target c))) w (World.Abides c base rollbacks) := by
  have hlock : Ends id ((setup.target c).lock setup.table operation) w fun _ w' =>
      World.InCourse c base rollbacks w' := Database.lookAt_inCourse _ _ _ h
  refine (hlock.mono ?_).bind
  rintro completion - h₁ w₁ rfl
  match completion with
  | .error error => exact .inl h₁
  | .ok (some t) => exact .inl h₁
  | .ok none =>
    refine ((Work.inCourse hcontrol h₁).mono ?_).bind
    rintro answer - h₂ w₂ rfl
    cases answer with
    | error error => exact h₂.imp_right fun hback => ⟨⟨_, rfl⟩, hback.2⟩
    | ok =>
      -- Work that has succeeded is in the transaction still.
      have hcourse : World.InCourse c base rollbacks w₂ :=
        h₂.resolve_right fun hback => by cases hback.1.choose_spec
      have hmark : Ends id ((setup.target c).mark setup.table operation) w₂ fun _ w' =>
          World.InCourse c base rollbacks w' := Database.mark_inCourse _ _ _ hcourse
      refine (hmark.mono ?_).bind
      rintro marked - h₃ w₃ rfl
      cases marked with
      | ok => exact .inl h₃
      | error error =>
        dsimp only
        split
        · exact .inl h₃
        · exact .inl ((notRecorded_database operation error w₃).symm ▸ h₃)

/-- What is taken back is gone, unless that is refused. -/
theorem takeBack_course (setup : Setup δ) {α : Type} {answer : Except GuardError α}
    (h : World.Abides c base rollbacks answer w) (occasion : String) :
    Ends id (Guard.takeBack (setup.target c) occasion) w fun _ after =>
      after.database.TakenBack c base rollbacks := by
  have hrollback : Ends id (setup.target c).rollback w fun _ after =>
      after.database.TakenBack c base rollbacks := by
    rcases h with hcourse | ⟨-, hback⟩
    · exact Database.rollback_inCourse hcourse
    -- Where the transaction is gone already, there is nothing to take back.
    · have hout : w.database.inTransaction c = false := by
        simp [Database.inTransaction, hback.writer]
      have hrun : (((setup.target c).rollback).run w).run = (.ok (), w) :=
        run_perform (Database.rollback_outside hout)
      rw [Ends, hrun]
      exact hback.takenBack rollbacks
  refine (hrollback.mono ?_).bind
  rintro answer - hafter w' rfl
  -- The warning of a rollback that fails does not touch the database.
  cases answer with
  | ok => exact hafter
  | error error => exact hafter

/-- If the commit fails, what the transaction did is taken back. -/
theorem conclude_course (h : World.InCourse c base rollbacks w) (operation : String)
    (execution : Execution) :
    Ends id (Guard.conclude (setup.target c) operation execution) w fun result after =>
      ∀ error, result = .error error → after.database.TakenBack c base rollbacks := by
  have hcommit : Ends id (setup.target c).commit w fun answer after =>
      ∀ error, answer = .error error → World.Abides c base rollbacks answer after := by
    intro error herror
    have hfailed := (Database.commit_inCourse h).resolve_left fun hok => by
      cases hok.symm.trans herror
    exact hfailed.imp_right fun hback => ⟨⟨error, herror⟩, hback⟩
  refine (hcommit.mono ?_).bind
  rintro answer - hanswer w₁ rfl
  cases answer with
  | ok => exact fun error herror => by cases herror
  | error error =>
    refine ((setup.takeBack_course (hanswer error rfl) "commit").mono ?_).bind
    rintro - - hback w₂ rfl
    -- To warn that the action was not recorded does not touch the database.
    split
    · exact fun _ _ => (notRecorded_database operation error w₂).symm ▸ hback
    · exact fun _ _ => hback

end Setup

end RetrySafe
