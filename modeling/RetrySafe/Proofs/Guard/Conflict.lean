import RetrySafe.Guard.Statement
import RetrySafe.Proofs.Target.Transaction

/-!
# Conflicts leave nothing behind

A guarded statement that ends in a lock conflict has changed nothing that is stored, apart from the
status table, wherever in it somebody else was in the way. This takes little of the connections: a
failing statement changes nothing, and what is done in a transaction takes effect when that is
committed, but not if the commit fails. The connections of a database keep to it.

## Main definitions

* `Target.FailsCleanly`, `Target.IsTransactional` — what a guard relies on.
* `GuardedStatement.IsFaithful` — the connections of a task keep to it.
* `Database.besides` — what is stored in a database besides the status table of a guard.

## Main results

* `execute_conflict` — an execution that ends in a conflict has no effects.
* `Database.isFaithful` — the connections of a database can be relied on.
-/

namespace RetrySafe

variable {σ γ : Type} {effects : σ → γ} {inside : σ → Prop} {target : Target (StateM σ)}
  {table : StatusTable} {operation statement : String} {s s' : σ}

/-! ## What a guard relies on -/

/-- A failing statement has no effects. -/
def Target.FailsCleanly (effects : σ → γ) (target : Target (StateM σ)) : Prop :=
  ∀ text s error s', ((target.execute text).run s).run = (.error error, s') → effects s' = effects s

/-- What is done inside a transaction has no effects until the commit, and a commit that fails has
none. Nor has anything that is done about the status table. -/
structure Target.IsTransactional (effects : σ → γ) (inside : σ → Prop) (table : StatusTable)
    (target : Target (StateM σ)) : Prop where
  createTable : Keeps effects (target.createTable table)
  register (operation : String) : Keeps effects (target.register table operation)
  start : Keeps effects target.start
  start_inside {s s' : σ} (hrun : (target.start.run s).run = (.ok (), s')) : inside s'
  lock (operation : String) : Keeps effects (target.lock table operation)
  lock_inside (operation : String) : Maintains inside (target.lock table operation)
  execute (htransactional : target.capabilities.transactional = true) (text : String) {s : σ}
    (hs : inside s) : effects ((target.execute text).run s).run.2 = effects s
  mark (operation : String) : Keeps effects (target.mark table operation)
  commit {s s' : σ} {error : GuardError} (hrun : (target.commit.run s).run = (.error error, s')) :
    effects s' = effects s
  rollback : Keeps effects target.rollback

/-- What an execution does under a guard: run a statement. -/
def Target.runs (target : Target (StateM σ)) (statement : String) :
    StateM σ (Except GuardError Unit) := do
  return (← target.execute statement).map fun _ => ()

theorem Target.runs_error (hfails : target.FailsCleanly effects) {error : GuardError}
    (hrun : ((target.runs statement).run s).run = (.error error, s')) : effects s' = effects s := by
  obtain ⟨⟨answer, s₁⟩, hexecute⟩ : ∃ p, ((target.execute statement).run s).run = p := ⟨_, rfl⟩
  cases answer with
  | error error' =>
    obtain rfl : s₁ = s' := by simpa [runs, hexecute, Except.map] using congrArg Prod.snd hrun
    exact hfails _ _ _ _ hexecute
  | ok count => simp [runs, hexecute, Except.map] at hrun

theorem Target.IsTransactional.runs (h : target.IsTransactional effects inside table)
    (statement : String) (htransactional : target.capabilities.transactional = true)
    (hs : inside s) : effects ((target.runs statement).run s).run.2 = effects s :=
  h.execute htransactional statement hs

variable [MonadWarn (StateM σ)]

/-- The connections of a task can be relied on, and opening and closing them has no effects. -/
structure GuardedStatement.IsFaithful (effects : σ → γ) (task : GuardedStatement (StateM σ)) :
    Prop where
  warn (message : String) : Keeps effects (warn message : StateM σ Unit)
  connect : Keeps effects task.connector
  close {s s' : σ} {connection : Connection (StateM σ)}
    (hrun : (task.connector.run s).run = (.ok connection, s')) : Keeps effects connection.close
  failsCleanly {s s' : σ} {connection : Connection (StateM σ)}
    (hrun : (task.connector.run s).run = (.ok connection, s')) :
    connection.target.FailsCleanly effects
  isTransactional {s s' : σ} {connection : Connection (StateM σ)} {table : StatusTable}
    {retention : Time.Duration} (hrun : (task.connector.run s).run = (.ok connection, s'))
    (hguard : task.guard = .strict table retention) :
    ∃ inside, connection.target.IsTransactional effects inside table

/-! ## Executions -/

namespace Guard

theorem takeBack_keeps (hwarn : ∀ message, Keeps effects (warn message : StateM σ Unit))
    (h : target.IsTransactional effects inside table) (occasion : String) :
    Keeps effects (takeBack target occasion) := by
  refine h.rollback.bind fun answer => ?_
  cases answer with
  | ok => exact .pure _
  | error error => exact hwarn _

/-- Inside a transaction nothing takes effect, unless the target has only transactions in name; then
what was done is not called a conflict. -/
theorem runLocked_effects (hfails : target.FailsCleanly effects)
    (h : target.IsTransactional effects inside table) (hs : inside s)
    {result : Except GuardError Execution}
    (hrun : ((runLocked target table operation (target.runs statement)).run s).run =
      (result, s')) :
    effects s' = effects s ∨ target.capabilities.transactional = false ∧
      (result = .ok .applied ∨ ∃ reason, result = .error (.notRecorded operation reason)) := by
  obtain ⟨⟨completion, s₁⟩, hlock⟩ : ∃ p, ((target.lock table operation).run s).run = p :=
    ⟨_, rfl⟩
  have h₁ : effects s₁ = effects s := by simpa [hlock] using h.lock operation s
  have hin₁ : inside s₁ := by simpa [hlock] using h.lock_inside operation s hs
  simp only [runLocked, StateT.run_bind, Id.run_bind, hlock] at hrun
  match completion with
  | .error error =>
    obtain ⟨rfl, rfl⟩ := Prod.mk.inj hrun
    exact .inl h₁
  | .ok (some t) =>
    obtain ⟨rfl, rfl⟩ := Prod.mk.inj hrun
    exact .inl h₁
  | .ok none =>
    obtain ⟨⟨answer, s₂⟩, haction⟩ : ∃ p, ((target.runs statement).run s₁).run = p := ⟨_, rfl⟩
    cases answer with
    | error error =>
      simp only [StateT.run_bind, Id.run_bind, haction] at hrun
      obtain ⟨rfl, rfl⟩ := Prod.mk.inj hrun
      exact .inl ((Target.runs_error hfails haction).trans h₁)
    | ok =>
      obtain ⟨⟨marked, s₃⟩, hmark⟩ : ∃ p, ((target.mark table operation).run s₂).run = p :=
        ⟨_, rfl⟩
      have h₃ : effects s₃ = effects s₂ := by simpa [hmark] using h.mark operation s₂
      simp only [StateT.run_bind, Id.run_bind, haction, hmark] at hrun
      cases htransactional : target.capabilities.transactional with
      | true =>
        have h₂ : effects s₂ = effects s₁ := by
          simpa [haction] using h.runs statement htransactional hin₁
        cases marked with
        | ok =>
          obtain ⟨rfl, rfl⟩ := Prod.mk.inj hrun
          exact .inl (h₃.trans (h₂.trans h₁))
        | error error =>
          simp only [htransactional, if_true] at hrun
          obtain ⟨rfl, rfl⟩ := Prod.mk.inj hrun
          exact .inl (h₃.trans (h₂.trans h₁))
      -- What the statement did may be there for good, but the result says so.
      | false =>
        refine .inr ⟨rfl, ?_⟩
        cases marked with
        | ok =>
          obtain ⟨rfl, rfl⟩ := Prod.mk.inj hrun
          exact .inl rfl
        | error error =>
          simp only [htransactional] at hrun
          obtain ⟨rfl, rfl⟩ := Prod.mk.inj hrun
          exact .inr ⟨_, rfl⟩

/-- A commit that ends in a conflict has no effects, and it is not one of an action that was applied
without a transaction. -/
theorem conclude_conflict (hwarn : ∀ message, Keeps effects (warn message : StateM σ Unit))
    (h : target.IsTransactional effects inside table) {execution : Execution} {resource : String}
    (hrun : ((conclude target operation execution).run s).run =
      (.error (.lockConflict resource), s')) :
    effects s' = effects s ∧
      ¬(execution = .applied ∧ target.capabilities.transactional = false) := by
  obtain ⟨⟨committed, s₁⟩, hcommit⟩ : ∃ p, (target.commit.run s).run = p := ⟨_, rfl⟩
  cases committed with
  | ok => simp [conclude, hcommit] at hrun
  | error error =>
    obtain ⟨⟨⟨⟩, s₂⟩, hback⟩ : ∃ p, ((takeBack target "commit").run s₁).run = p := ⟨_, rfl⟩
    have h₂ : effects s₂ = effects s₁ := by simpa [hback] using takeBack_keeps hwarn h "commit" s₁
    simp only [conclude, StateT.run_bind, Id.run_bind, hcommit, hback] at hrun
    split at hrun
    · simp [notRecorded] at hrun
    · next hlasting =>
      obtain ⟨-, rfl⟩ := Prod.mk.inj hrun
      exact ⟨h₂.trans (h.commit hcommit), by simpa using hlasting⟩

/-- A call under a strict guard that ends in a conflict has no effects. -/
theorem executeStrict_conflict (hwarn : ∀ message, Keeps effects (warn message : StateM σ Unit))
    (hfails : target.FailsCleanly effects) (h : target.IsTransactional effects inside table)
    {resource : String}
    (hrun : ((executeStrict target table operation (target.runs statement)).run s).run =
      (.error (.lockConflict resource), s')) :
    effects s' = effects s := by
  obtain ⟨⟨registered, s₁⟩, hregister⟩ : ∃ p, ((target.register table operation).run s).run = p :=
    ⟨_, rfl⟩
  have h₁ : effects s₁ = effects s := by simpa [hregister] using h.register operation s
  simp only [executeStrict, StateT.run_bind, Id.run_bind, hregister] at hrun
  cases registered with
  | error error =>
    obtain ⟨-, rfl⟩ := Prod.mk.inj hrun
    exact h₁
  | ok =>
    obtain ⟨⟨started, s₂⟩, hstart⟩ : ∃ p, (target.start.run s₁).run = p := ⟨_, rfl⟩
    have h₂ : effects s₂ = effects s₁ := by simpa [hstart] using h.start s₁
    simp only [StateT.run_bind, Id.run_bind, hstart] at hrun
    cases started with
    | error error =>
      obtain ⟨-, rfl⟩ := Prod.mk.inj hrun
      exact h₂.trans h₁
    | ok =>
      obtain ⟨⟨result, s₃⟩, hlocked⟩ : ∃ p, ((runLocked target table operation
        (target.runs statement)).run s₂).run = p := ⟨_, rfl⟩
      have h₃ := runLocked_effects hfails h (h.start_inside hstart) hlocked
      simp only [StateT.run_bind, Id.run_bind, hlocked] at hrun
      -- A conflict is not the result of an action that may have taken effect.
      cases result with
      | ok execution =>
        obtain ⟨h₄, hnot⟩ := conclude_conflict hwarn h hrun
        obtain h₃ | ⟨htransactional, happlied⟩ := h₃
        · exact h₄.trans (h₃.trans (h₂.trans h₁))
        · exact absurd ⟨by simpa using happlied, htransactional⟩ hnot
      | error error =>
        obtain ⟨⟨⟨⟩, s₄⟩, hback⟩ : ∃ p, ((takeBack target "guarded action").run s₃).run = p :=
          ⟨_, rfl⟩
        have h₄ : effects s₄ = effects s₃ := by
          simpa [hback] using takeBack_keeps hwarn h "guarded action" s₃
        simp only [StateT.run_bind, Id.run_bind, hback] at hrun
        obtain ⟨hnamed, rfl⟩ := Prod.mk.inj hrun
        obtain h₃ | ⟨-, happlied⟩ := h₃
        · exact h₄.trans (h₃.trans (h₂.trans h₁))
        · obtain ⟨reason, rfl⟩ : ∃ reason, error = .notRecorded operation reason := by
            simpa using happlied
          cases hnamed

end Guard

namespace GuardedStatement

variable {task : GuardedStatement (StateM σ)} {resource : String}

theorem executeGuarded_conflict (h : task.IsFaithful effects) {connection : Connection (StateM σ)}
    {s₀ : σ} (hconnect : (task.connector.run s₀).run = (.ok connection, s))
    (hrun : ((task.executeGuarded connection.target statement operation).run s).run =
      (.error (.lockConflict resource), s')) :
    effects s' = effects s := by
  have hfails := h.failsCleanly hconnect
  cases hguard : task.guard with
  | strict table retention =>
    obtain ⟨inside, htransactional⟩ := h.isTransactional hconnect hguard
    obtain ⟨⟨prepared, s₁⟩, hprepare⟩ :
      ∃ p, ((connection.target.createTable table).run s).run = p := ⟨_, rfl⟩
    have h₁ : effects s₁ = effects s := by simpa [hprepare] using htransactional.createTable s
    simp only [executeGuarded, hguard, Guard.prepare, StateT.run_bind, Id.run_bind, hprepare]
      at hrun
    cases prepared with
    | error error =>
      obtain ⟨-, rfl⟩ := Prod.mk.inj hrun
      exact h₁
    | ok => exact (Guard.executeStrict_conflict h.warn hfails htransactional hrun).trans h₁
  -- Nothing but the statement is run then, and it has failed.
  | nonStrict =>
    obtain ⟨⟨answer, s₁⟩, haction⟩ : ∃ p, ((connection.target.runs statement).run s).run = p :=
      ⟨_, rfl⟩
    have hwhole : task.executeGuarded connection.target statement operation =
        Guard.nonStrict.execute connection.target operation
          (connection.target.runs statement) := by
      simp only [executeGuarded, hguard, Guard.prepare, pure_bind]
      rfl
    rw [hwhole] at hrun
    simp only [Guard.execute, StateT.run_bind, Id.run_bind, haction] at hrun
    cases answer with
    | ok => simp at hrun
    | error error =>
      obtain ⟨-, rfl⟩ := Prod.mk.inj hrun
      exact Target.runs_error hfails haction

/-- An execution that ends in a conflict has no effects. -/
theorem execute_conflict (h : task.IsFaithful effects)
    (hrun : ((task.execute statement operation).run.run s).run =
      (.ok (.error (.lockConflict resource)), s')) :
    effects s' = effects s := by
  obtain ⟨⟨connected, s₁⟩, hconnect⟩ : ∃ p, (task.connector.run s).run = p := ⟨_, rfl⟩
  have h₁ : effects s₁ = effects s := by simpa [hconnect] using h.connect s
  simp only [execute, ExceptT.run_mk, StateT.run_bind, Id.run_bind, hconnect] at hrun
  cases connected with
  | error error =>
    obtain ⟨-, rfl⟩ := Prod.mk.inj hrun
    exact h₁
  | ok connection =>
    obtain ⟨⟨result, s₂⟩, hexecute⟩ :
      ∃ p, ((task.executeGuarded connection.target statement operation).run s₁).run = p := ⟨_, rfl⟩
    simp only [executeOn, ExceptT.run_bind, ExceptT.run_lift, bind_map_left, StateT.run_bind,
      Id.run_bind, hexecute] at hrun
    cases result with
    -- Whatever becomes of the cleanup, the result is not a conflict.
    | ok execution =>
      obtain ⟨⟨cleaned, s₃⟩, hclean⟩ : ∃ p, ((task.guard.cleanupBestEffort
        connection.target).run.run s₂).run = p := ⟨_, rfl⟩
      cases cleaned <;> simp [hclean, Except.map] at hrun
    | error error =>
      obtain ⟨hanswer, rfl⟩ := Prod.mk.inj hrun
      obtain rfl : error = .lockConflict resource := by simpa using hanswer
      exact (h.close hconnect s₂).trans ((executeGuarded_conflict h hconnect hexecute).trans h₁)

end GuardedStatement

/-! ## Connections of a database -/

section Database

variable {δ α : Type}

namespace Content

theorem withoutTable_withRows (content : Content δ) (table : String) (rows : List StatusRow) :
    (content.withRows table rows).withoutTable table = content.withoutTable table := by
  simp only [withRows, withoutTable]
  congr 1
  induction content.tables with
  | nil => rfl
  | cons t tables ih => by_cases h : isSame t.1 table <;> simp [h, ih]

theorem withoutTable_withTable (content : Content δ) (table : String) :
    (content.withTable table).withoutTable table = content.withoutTable table := by
  simp [withTable, withoutTable, isSame]

end Content

/-- A failing statement of a text keeps nothing of what it has changed. -/
def Script.Undoes (script : Script δ) : Prop :=
  ∀ statement, .ok statement ∈ script → ∀ content message left,
    statement.run content ≠ .fail message left

/-- What is stored besides the status table of a guard. -/
def Guard.besides (guard : Guard) (content : Content δ) : Content δ :=
  match guard with
  | .strict table _ => content.withoutTable table.name
  | .nonStrict => content

namespace Database

/-- What is committed besides a status table. -/
def besides (table : StatusTable) (db : Database δ) : Content δ :=
  db.committed.withoutTable table.name

variable {c : ConnectionId} {table : StatusTable} {db after : Database δ}

theorem keeps_besides {action : DatabaseM δ α} (h : Keeps Database.committed action) :
    Keeps (besides table) action :=
  h.part (·.withoutTable table.name)

theorem keeps_committed {action : DatabaseM δ α} (h : Keeps standing action) :
    Keeps Database.committed action :=
  h.part Standing.committed

theorem inTransaction_congr {db' : Database δ} (h : db'.standing = db.standing) :
    db'.inTransaction c = db.inTransaction c := by
  cases db; cases db'; unfold standing at h; cases h
  rfl

theorem start_committed (c : ConnectionId) : Keeps Database.committed (start (δ := δ) c) := by
  intro db
  obtain ⟨error, hrun⟩ | ⟨-, hrun⟩ := start_cases db c <;> rw [hrun]

theorem start_inside (hrun : ((start c).run db).run = (.ok (), after)) :
    after.inTransaction c = true := by
  obtain ⟨error, hfailed⟩ | ⟨-, hbegun⟩ := start_cases db c
  · cases hrun.symm.trans hfailed
  · obtain ⟨-, rfl⟩ := Prod.mk.inj (hrun.symm.trans hbegun)
    exact decide_eq_true rfl

theorem rollback_committed (c : ConnectionId) : Keeps Database.committed (rollback (δ := δ) c) := by
  intro db
  cases hin : db.inTransaction c with
  | false => rw [rollback_outside hin]
  | true =>
    obtain ⟨answer, hrun⟩ | ⟨fault, -, answer, hrun⟩ := rollback_cases hin <;> rw [hrun]
    exact (abandoned_rest _ c).1

theorem now_besides : Keeps (besides (δ := δ) table) now := fun _ => rfl

variable [HasTables δ]

theorem writeRows_besides {resource : String} {demand : TableShape → Option String}
    {f : List StatusRow → List StatusRow × α} :
    Keeps (besides (δ := δ) table) (writeRows c resource table demand f) := by
  intro db
  refine (write_changed c resource _ _ db).committed (·.withoutTable table.name)
    fun content content' a hf => ?_
  obtain ⟨rfl, -⟩ := Prod.mk.inj (Except.ok.inj hf)
  exact Content.withoutTable_withRows _ _ _

theorem createTable_besides (c : ConnectionId) (table : StatusTable) :
    Keeps (besides (δ := δ) table) (createTable c table) := by
  cases hname : Catalog.isReserved table.name with
  | true =>
    exact fun db => congrArg (·.committed.withoutTable table.name)
      (createTable_reserved hname db c).leaves
  | false =>
    rw [createTable_of_plain hname]
    have hsees : Keeps standing (seesTable (δ := δ) c table.name) := by
      intro db
      obtain ⟨seen, hleads, -⟩ := seesTable_cases db c table.name
      exact hleads.leaves
    refine (keeps_besides (keeps_committed hsees)).bind fun seen => ?_
    cases seen with
    | true => exact .pure _
    | false =>
      rw [if_neg Bool.false_ne_true]
      intro db
      refine (change_changed c _ _ _ db).committed (·.withoutTable table.name)
        fun content content' a hf => ?_
      -- The table is there already, or it is new.
      split at hf
      · obtain ⟨rfl, -⟩ := Prod.mk.inj (Except.ok.inj hf)
        rfl
      · obtain ⟨rfl, -⟩ := Prod.mk.inj (Except.ok.inj hf)
        exact Content.withoutTable_withTable _ _

theorem lookAt_keeps (c : ConnectionId) (table : StatusTable) (operation : String) :
    Keeps (standing (δ := δ)) (lookAt c table operation) :=
  read_keeps _ _ _

/-- A statement inside a transaction is not committed. -/
theorem execute_committed (hin : db.inTransaction c = true) (script : Script δ) :
    ((execute c script).run db).run.2.committed = db.committed := by
  cases hwriter : db.writer with
  | none => simp [inTransaction, hwriter] at hin
  | some writer =>
    obtain ⟨o, working⟩ := writer
    obtain rfl : o = c := by simpa [inTransaction, hwriter] using hin
    have hstanding : db.standing =
        ⟨db.committed, some (o, working), db.clock, db.nextConnection⟩ := by
      rw [standing, hwriter]
    obtain ⟨left, -, hafter⟩ := execute_inside hstanding script
    exact congrArg Standing.committed hafter

/-- A failing statement leaves what is committed as it was, if it is undone as a whole. -/
theorem execute_error {script : Script δ} (hundoes : script.Undoes) :
    Ends Database.committed (execute c script) db fun answer after =>
      ∀ error, answer = .error error → after = db.committed := by
  have hprepare : Ends Database.committed (prepare c script) db fun prepared after =>
      after = db.committed ∧ ∀ statement, prepared = .ok statement → .ok statement ∈ script := by
    refine ⟨congrArg Standing.committed (prepare_keeps c script db), fun statement hok => ?_⟩
    rw [prepare_ok hok]
    exact List.mem_singleton_self _
  refine (hprepare.mono ?_).bind
  rintro prepared _ ⟨rfl, hmem⟩ db' hsame
  rw [← hsame]
  cases prepared with
  | error message => exact fun _ _ => rfl
  | ok statement =>
    dsimp only
    split
    · cases hlocked : Database.lockedFor db' c with
      | true => simp [Ends, apply, exclusively, hlocked]
      | false =>
        refine exclusively_ends hlocked (fun _ _ _ => rfl) ?_
        unfold Ends
        simp only [StateT.run_bind, StateT.run_get, pure_bind]
        cases hrun : statement.run (Database.view (Database.refreshed db' c) c) with
        | done content count => exact fun error herror => by cases herror
        | abort message => exact fun _ _ => rfl
        | fail message content => exact absurd hrun (hundoes _ (hmem statement rfl) _ _ _)
        | rollback message => exact fun _ _ => (abandoned_rest _ c).1
    · exact fun _ _ => congrArg Standing.committed (read_keeps c _ _ db')

end Database

namespace World

variable {β : Type} {look : Database δ → β}

theorem perform_keeps {action : DatabaseM δ α} (h : Keeps look action) :
    Keeps (fun w => look w.database) (Database.perform action : WorldM δ α) :=
  fun w => h w.database

end World

variable [HasTables δ] {language : String → Script δ} {capabilities : Capabilities}

open World

theorem Database.failsCleanly {β : Type} (part : Content δ → β) (c : ConnectionId)
    (hundoes : ∀ text, (language text).Undoes) :
    Target.FailsCleanly (fun w => part w.database.committed)
      (Database.target language capabilities c : Target (WorldM δ)) := by
  intro text w error w' hrun
  have hends : Ends Database.committed (Database.execute c (language text)) w.database _ :=
    Database.execute_error (hundoes text)
  rw [Ends, (perform_run hrun).1] at hends
  exact congrArg part (hends error rfl)

theorem Database.isTransactional (table : StatusTable) (c : ConnectionId) :
    Target.IsTransactional (fun w => w.database.besides table)
      (fun w => w.database.inTransaction c = true) table
      (Database.target language capabilities c : Target (WorldM δ)) where
  createTable := perform_keeps (createTable_besides c table)
  register _ := perform_keeps (now_besides.bind fun _ => writeRows_besides)
  start := perform_keeps (keeps_besides (start_committed c))
  start_inside hrun := start_inside (perform_run hrun).1
  lock operation := perform_keeps (keeps_besides (keeps_committed (lookAt_keeps c table operation)))
  lock_inside operation w hw :=
    (inTransaction_congr (lookAt_keeps c table operation w.database)).trans hw
  execute _ _ _ hw := congrArg (·.withoutTable table.name) (execute_committed hw _)
  mark _ := perform_keeps (now_besides.bind fun _ => writeRows_besides)
  commit hrun := congrArg (·.withoutTable table.name) (commit_error (perform_run hrun).1)
  rollback := perform_keeps (keeps_besides (rollback_committed c))

/-- The connections of a database can be relied on. -/
theorem Database.isFaithful {task : GuardedStatement (WorldM δ)}
    (hconnector : task.connector = Database.connector language capabilities)
    (hundoes : ∀ text, (language text).Undoes) :
    task.IsFaithful fun w => task.guard.besides w.database.committed where
  warn message w := rfl
  connect w := by rw [hconnector]; rfl
  close hrun := by
    rw [hconnector] at hrun
    obtain ⟨hconnection, -⟩ := Prod.mk.inj hrun
    obtain rfl := Except.ok.inj hconnection
    exact fun w => congrArg task.guard.besides (abandoned_rest _ _).1
  failsCleanly hrun := by
    rw [hconnector] at hrun
    obtain ⟨hconnection, -⟩ := Prod.mk.inj hrun
    obtain rfl := Except.ok.inj hconnection
    exact Database.failsCleanly _ _ hundoes
  isTransactional {_ _ _ table _} hrun hguard := by
    rw [hconnector] at hrun
    obtain ⟨hconnection, -⟩ := Prod.mk.inj hrun
    obtain rfl := Except.ok.inj hconnection
    rw [hguard]
    exact ⟨_, Database.isTransactional table _⟩

end Database

end RetrySafe
