import Mathlib.Data.List.Basic
import RetrySafe.Proofs.Guard.ExactlyOnce
import RetrySafe.Proofs.Target.Transaction
import RetrySafe.Proofs.Time.Reading
import RetrySafe.Target.Sample

/-!
# Applied and recorded

A call records the completion of its operation in the row that it finds when the action has ended.
Whether it finds one it does not ask. An action that deletes the row is applied all the same, but
not recorded, and the next call applies it again.

## Main definitions

* `Setup.rows` — the rows of the status table.
* `Setup.sight` — what the connection of a call sees when the action has ended.

## Main results

* `executeStrict_ok`, `runLocked_ok` — how a call succeeds.
* `recorded_iff_kept` — an applied call is recorded exactly if the row is still there.
-/

namespace RetrySafe

open World

/-! ## How a call succeeds -/

namespace Guard

variable {σ : Type} [MonadWarn (StateM σ)] {target : Target (StateM σ)} {table : StatusTable}
  {operation : String} {action : StateM σ (Except GuardError Unit)}
  {execution execution' : Execution} {s s' : σ}

theorem conclude_ok (h : ((conclude target operation execution).run s).run.1 = .ok execution') :
    execution' = execution ∧ (target.commit.run s).run =
      (.ok (), ((conclude target operation execution).run s).run.2) := by
  obtain ⟨⟨answer, s₁⟩, hcommit⟩ : ∃ p, (target.commit.run s).run = p := ⟨_, rfl⟩
  cases answer with
  | ok =>
    have hrun : ((conclude target operation execution).run s).run = (.ok execution, s₁) := by
      simp [conclude, hcommit]
    rw [hrun] at h ⊢
    exact ⟨(Except.ok.inj h).symm, hcommit⟩
  | error error =>
    obtain ⟨⟨⟨⟩, s₂⟩, hback⟩ : ∃ p, ((takeBack target "commit").run s₁).run = p := ⟨_, rfl⟩
    rw [conclude] at h
    simp only [StateT.run_bind, Id.run_bind, hcommit, hback] at h
    split at h <;> simp at h

/-- A call succeeds by registering, beginning a transaction, succeeding in it, and committing. -/
theorem executeStrict_ok
    (h : ((executeStrict target table operation action).run s).run = (.ok execution, s')) :
    ∃ s₁ s₂ s₃, ((target.register table operation).run s).run = (.ok (), s₁) ∧
      (target.start.run s₁).run = (.ok (), s₂) ∧
      ((runLocked target table operation action).run s₂).run = (.ok execution, s₃) ∧
      (target.commit.run s₃).run = (.ok (), s') := by
  obtain ⟨⟨registered, s₁⟩, hregister⟩ : ∃ p, ((target.register table operation).run s).run = p :=
    ⟨_, rfl⟩
  cases registered with
  | error error => simp [executeStrict, hregister] at h
  | ok =>
    obtain ⟨⟨started, s₂⟩, hstart⟩ : ∃ p, (target.start.run s₁).run = p := ⟨_, rfl⟩
    cases started with
    | error error => simp [executeStrict, hregister, hstart] at h
    | ok =>
      obtain ⟨⟨answer, s₃⟩, hlocked⟩ :
        ∃ p, ((runLocked target table operation action).run s₂).run = p := ⟨_, rfl⟩
      cases answer with
      | error error => simp [executeStrict, hregister, hstart, hlocked] at h
      | ok execution' =>
        simp only [executeStrict, StateT.run_bind, Id.run_bind, hregister, hstart, hlocked] at h
        obtain ⟨rfl, hcommit⟩ := conclude_ok (congrArg Prod.fst h)
        rw [h] at hcommit
        exact ⟨s₁, s₂, s₃, hregister, hstart, hlocked, hcommit⟩

/-- Nothing is done where the row says when the operation was completed. Where it is open, the
action is applied, and then its completion is recorded. -/
theorem runLocked_ok
    (h : ((runLocked target table operation action).run s).run = (.ok execution, s')) :
    (execution = .alreadyApplied ∧
      ∃ t, ((target.lock table operation).run s).run = (.ok (some t), s')) ∨
    (execution = .applied ∧ ∃ s₁ s₂, ((target.lock table operation).run s).run = (.ok none, s₁) ∧
      (action.run s₁).run = (.ok (), s₂) ∧
      ((target.mark table operation).run s₂).run = (.ok (), s')) := by
  obtain ⟨⟨completion, s₁⟩, hlock⟩ : ∃ p, ((target.lock table operation).run s).run = p :=
    ⟨_, rfl⟩
  match completion with
  | .error error => simp [runLocked, hlock] at h
  | .ok (some t) =>
    simp only [runLocked, StateT.run_bind, Id.run_bind, hlock] at h
    obtain ⟨hexecution, rfl⟩ := Prod.mk.inj h
    exact .inl ⟨(Except.ok.inj hexecution).symm, t, hlock⟩
  | .ok none =>
    obtain ⟨⟨answer, s₂⟩, haction⟩ : ∃ p, (action.run s₁).run = p := ⟨_, rfl⟩
    cases answer with
    | error error => simp [runLocked, hlock, haction] at h
    | ok =>
      obtain ⟨⟨marked, s₃⟩, hmark⟩ : ∃ p, ((target.mark table operation).run s₂).run = p :=
        ⟨_, rfl⟩
      simp only [runLocked, StateT.run_bind, Id.run_bind, hlock, haction, hmark] at h
      cases marked with
      | ok =>
        obtain ⟨hexecution, rfl⟩ := Prod.mk.inj h
        exact .inr ⟨(Except.ok.inj hexecution).symm, s₁, s₂, hlock, haction, hmark⟩
      | error error =>
        dsimp only at h
        split at h <;> simp at h

end Guard

/-! ## The rows of the status table -/

variable {δ : Type}

theorem Content.rows?_withRows_of_none {content : Content δ} {table : String}
    (hnone : content.rows? table = none) (rows : List StatusRow) :
    (content.withRows table rows).rows? table = none := by
  have hothers : ∀ t ∈ content.tables, isSame t.1 table = false := by
    intro t ht
    simpa using List.find?_eq_none.mp (Option.map_eq_none_iff.mp hnone) t ht
  refine Option.map_eq_none_iff.mpr (List.find?_eq_none.mpr fun t ht => ?_)
  obtain ⟨t', ht', rfl⟩ := List.mem_map.mp ht
  simp [hothers t' ht']

namespace Setup

variable {setup : Setup δ} {content : Content δ} {operation text : String}

/-- The rows of the status table, if there is one. -/
def rows (setup : Setup δ) (content : Content δ) : List StatusRow :=
  (content.rows? setup.table.name).getD []

/-- Rows can be changed where there is a status table. -/
theorem rows_withRows (setup : Setup δ) (content : Content δ) (rows : List StatusRow) :
    setup.rows (content.withRows setup.table.name rows) = rows ∨
      setup.rows content = [] ∧ setup.rows (content.withRows setup.table.name rows) = [] := by
  cases hrows : content.rows? setup.table.name with
  | some old => exact .inl (by rw [Setup.rows, Content.rows?_withRows hrows, Option.getD_some])
  | none =>
    refine .inr ⟨by rw [Setup.rows, hrows, Option.getD_none], ?_⟩
    rw [Setup.rows, Content.rows?_withRows_of_none hrows, Option.getD_none]

theorem not_isCompleted_nil : ¬IsCompleted operation [] := by
  simp [IsCompleted, rowOf]

/-- A row is marked exactly if there is one. -/
theorem isCompleted_rows_marked :
    IsCompleted operation (setup.rows (content.withRows setup.table.name
        (Database.marked operation text (setup.rows content)))) ↔
      ∃ row, rowOf operation (setup.rows content) = some row := by
  rcases setup.rows_withRows content (Database.marked operation text (setup.rows content)) with
    hrows | ⟨hnone, hrows⟩
  · rw [hrows, IsCompleted, Database.rowOf_marked_self]
    cases rowOf operation (setup.rows content) <;> simp
  · rw [hrows, hnone]
    simp [not_isCompleted_nil, rowOf]

/-- A registration completes nothing. -/
theorem not_isCompleted_rows_registered (h : ¬IsCompleted operation (setup.rows content)) :
    ¬IsCompleted operation (setup.rows (content.withRows setup.table.name
      (Database.registered operation text (setup.rows content)))) := by
  rcases setup.rows_withRows content (Database.registered operation text (setup.rows content)) with
    hrows | ⟨-, hrows⟩
  · rwa [hrows, isCompleted_registered]
  · rw [hrows]
    exact not_isCompleted_nil

end Setup

namespace Database

variable {c : ConnectionId} {operation : String}

theorem isCompleted_of_completion {rows : List StatusRow} {t : Time.Instant}
    (h : completion operation rows = .ok (some t)) : IsCompleted operation rows := by
  obtain ⟨row, hrow⟩ := row_of_completion h
  refine ⟨row, hrow, fun hopen => ?_⟩
  rw [completion_of_open hrow hopen] at h
  cases h

/-- What a clock reads does not depend on what is done meanwhile. -/
def readings (db : Database δ) : Nat → Time.Instant := db.clock.reading

theorem keeps_readings {α : Type} {action : DatabaseM δ α} (h : Keeps standing action) :
    Keeps readings action :=
  h.part (·.clock.reading)

theorem start_readings (c : ConnectionId) : Keeps (readings (δ := δ)) (start c) := by
  intro db
  obtain ⟨error, hrun⟩ | ⟨-, hrun⟩ := start_cases db c <;> rw [hrun]
  rfl

theorem start_endings (c : ConnectionId) : Keeps (endings (δ := δ)) (start c) := by
  intro db
  obtain ⟨error, hrun⟩ | ⟨-, hrun⟩ := start_cases db c <;> rw [hrun]
  rfl

variable [HasTables δ]

theorem read_answers {α : Type} (c : ConnectionId) (demand : Demand)
    (query : Content δ → Except GuardError α) (db : Database δ) :
    ((read c demand query).run db).run.1 = query (db.view c) ∨
      ∃ error, ((read c demand query).run db).run.1 = .error error := by
  cases hmet : demand (db.catalog c) with
  | none => exact .inl (read_leads query hmet).answers
  | some message =>
    refine .inr ⟨.database message, ?_⟩
    have hinformed (known : Catalog) : (db.informed c known).catalog c = db.catalog c := rfl
    cases hknown : demand (db.knownTo c) <;>
      simp [read, compile, recheck, failure, hknown, hmet, hinformed]

/-- Only a completed operation is found to be completed. -/
theorem lookAt_completed {table : StatusTable} {t : Time.Instant} {db : Database δ}
    (h : ((lookAt c table operation).run db).run.1 = .ok (some t)) :
    IsCompleted operation (((db.view c).rows? table.name).getD []) := by
  rw [lookAt] at h
  obtain hanswer | ⟨error, hanswer⟩ := read_answers c
    (Demand.table table.name (Demand.readAt "SELECT " "completed_at"
      (" FROM " ++ table.quoted ++ " WHERE operation_id = ?1")))
    (fun content => completion operation ((content.rows? table.name).getD [])) db
  · exact isCompleted_of_completion (hanswer.symm.trans h)
  · cases hanswer.symm.trans h

theorem updated_readings (db : Database δ) (c : ConnectionId) (content : Content δ) :
    (db.updated c content).readings = db.readings :=
  congrArg Time.Clock.reading (clock_updated db c content)

theorem register_readings (c : ConnectionId) (table : StatusTable) (operation : String) :
    Keeps (readings (δ := δ)) (register c table operation) := by
  have hnow : Keeps (readings (δ := δ)) now := fun _ => rfl
  refine hnow.bind fun t => ?_
  exact write_keeps (fun _ _ => rfl) (fun db content => updated_readings db c content) _

theorem lookAt_readings (c : ConnectionId) (table : StatusTable) (operation : String) :
    Keeps (readings (δ := δ)) (lookAt c table operation) :=
  keeps_readings (read_keeps _ _ _)

theorem execute_readings (c : ConnectionId) (script : Script δ) :
    Keeps readings (execute c script) := by
  refine (keeps_readings (prepare_keeps c script)).bind fun prepared => ?_
  cases prepared with
  | error message => exact .pure _
  | ok statement =>
    dsimp only
    split
    · refine exclusively_keeps (fun _ _ => rfl) fun db => ?_
      exact congrArg Time.Clock.reading (clock_settled db c (statement.run (db.view c)))
    · exact keeps_readings (read_keeps _ _ _)

end Database

/-! ## What an applied call leaves -/

section Applied

variable [HasTables δ] {setup : Setup δ} {w w' : World δ} {c o : ConnectionId}
  {operation : String} {work : Work}

namespace Setup

theorem work_readings (setup : Setup δ) (c : ConnectionId) (work : Work) :
    Keeps (fun w => w.database.readings) (work.perform (setup.target c)) := by
  induction work with
  | finish result => exact .pure _
  | run statement next ih =>
    have hexecute : Keeps (fun w => w.database.readings) ((setup.target c).execute statement) :=
      fun w => Database.execute_readings c _ w.database
    exact hexecute.bind ih

/-- What the connection of a call sees when the action has ended. -/
def sight (setup : Setup δ) (c : ConnectionId) (operation : String) (work : Work) :
    WorldM δ (Content δ) := do
  let _ ← (setup.target c).register setup.table operation
  let _ ← (setup.target c).start
  let _ ← (setup.target c).lock setup.table operation
  let _ ← work.perform (setup.target c)
  return (← getThe (World δ)).database.view c

/-- An applied call leaves what its action left, with the rows of its operation marked. -/
theorem execute_applied
    (h : ((setup.execute c operation work).run w).run = (.ok .applied, w')) :
    let seen := ((setup.sight c operation work).run w).run.1
    ∃ clock : Time.Clock, clock.reading = w.database.clock.reading ∧
      w'.database.writer = none ∧
      w'.database.committed = seen.withRows setup.table.name
        (Database.marked operation clock.now.micros (setup.rows seen)) := by
  obtain ⟨w₁, w₂, w₅, hregister, hstart, hlocked, hcommit⟩ := Guard.executeStrict_ok h
  obtain ⟨hcontra, -⟩ | ⟨-, w₃, w₄, hlock, hwork, hmark⟩ := Guard.runLocked_ok hlocked
  · cases hcontra
  · have hsight : ((setup.sight c operation work).run w).run.1 = w₄.database.view c := by
      simp [sight, hregister, hstart, hlock, hwork]
    -- The mark finds what the action has left, and the commit puts that in place.
    have hview := Database.mark_ok (perform_run hmark).1
    have hafter := Database.commit_ok (perform_run hcommit).1
    dsimp only
    rw [hsight]
    rw [hafter]
    refine ⟨w₄.database.clock, ?_, rfl, hview⟩
    -- The clock is the one of the beginning, whatever was done on the way.
    calc w₄.database.readings
      _ = w₃.database.readings := by
        simpa [hwork] using setup.work_readings c work w₃
      _ = w₂.database.readings := by
        simpa [(perform_run hlock).1] using
          Database.lookAt_readings c setup.table operation w₂.database
      _ = w₁.database.readings := by
        simpa [(perform_run hstart).1] using Database.start_readings c w₁.database
      _ = w.database.readings := by
        simpa [(perform_run hregister).1] using
          Database.register_readings c setup.table operation w.database

/-- A call of an operation whose row is not completed does not say that it is. -/
theorem not_alreadyApplied (hopen : ¬IsCompleted operation (setup.rows (w.database.view o)))
    (action : WorldM δ (Except GuardError Unit)) :
    ((setup.guard.execute (setup.target o) operation action).run w).run.1 ≠
      .ok .alreadyApplied := by
  intro hanswer
  obtain ⟨w₁, w₂, w₃, hregister, hstart, hlocked, -⟩ :=
    Guard.executeStrict_ok (Prod.ext hanswer rfl)
  obtain ⟨-, t, hlock⟩ | ⟨hcontra, -⟩ := Guard.runLocked_ok hlocked
  -- Between the registration and the look at the row, nothing completes the operation.
  · obtain ⟨hregistered, -⟩ := Database.register_ok (perform_run hregister).1
    have hbegun := Database.view_start w₁.database o
    rw [(perform_run hstart).1, hregistered] at hbegun
    have hcompleted := Database.lookAt_completed (congrArg Prod.fst (perform_run hlock).1)
    rw [hbegun] at hcompleted
    exact not_isCompleted_rows_registered hopen hcompleted
  · cases hcontra

/-- A call of an operation whose row says when it was completed comes to its commit without having
changed anything, whatever its action would do. -/
theorem execute_completed (setup : Setup δ) {rows : List StatusRow} {row : StatusRow}
    {text : String} {t : Time.Instant} (hfree : w.database.writer = none)
    (hholds : w.database.committed.Holds setup.table rows)
    (hsame : w.database.committed.withRows setup.table.name rows = w.database.committed)
    (hrow : rowOf operation rows = some row) (hcompleted : row.completed = some text)
    (hread : Time.readStrict text = .ok t) (o : ConnectionId)
    (action : WorldM δ (Except GuardError Unit)) :
    ∃ w₁ : World δ, look w₁ = (⟨w.database.committed, some (o, w.database.committed),
        w.database.clock.advanced, w.database.nextConnection⟩, w.record) ∧
      w₁.database.nextCommit = w.database.nextCommit ∧
      ((setup.guard.execute (setup.target o) operation action).run w).run =
        ((Guard.conclude (setup.target o) operation .alreadyApplied).run w₁).run := by
  have hstanding : w.database.standing = ⟨w.database.committed, none, w.database.clock,
      w.database.nextConnection⟩ := congrArg (Standing.mk _ · _ _) hfree
  have hcompletion : Database.completion operation rows = .ok (some t) := by
    unfold rowOf at hrow
    simp [Database.completion, hrow, hcompleted, hread]
  obtain ⟨db₁, hregister, h₁⟩ := (Database.register_free hstanding hholds o operation).run
  rw [Database.registered_of_row hrow, hsame] at h₁
  obtain ⟨db₂, hstart, h₂⟩ := (Database.start_free h₁ o).run
  obtain ⟨db₃, hlock, h₃⟩ := (Database.lookAt_inside h₂ hholds operation).run
  rw [hcompletion] at hlock
  have hendings : db₃.endings = w.database.endings := by
    calc db₃.endings
      _ = db₂.endings := by
        have hkeeps : Keeps (Database.endings (δ := δ))
            (Database.lookAt o setup.table operation) :=
          Database.read_keeps_of (fun _ _ => rfl) _ _
        simpa [hlock] using hkeeps db₂
      _ = db₁.endings := by simpa [hstart] using Database.start_endings o db₁
      _ = w.database.endings := by
        simpa [hregister] using Database.register_endings o setup.table operation w.database
  have hregistered : (((setup.target o).register setup.table operation).run w).run =
      (.ok (), ⟨db₁, w.record⟩) := run_perform hregister
  have hstarted : (((setup.target o).start).run ⟨db₁, w.record⟩).run = (.ok (), ⟨db₂, w.record⟩) :=
    run_perform hstart
  have hlocked : (((setup.target o).lock setup.table operation).run ⟨db₂, w.record⟩).run =
      (.ok (some t), ⟨db₃, w.record⟩) := run_perform hlock
  refine ⟨⟨db₃, w.record⟩, Prod.ext h₃ rfl, congrArg (·.1.headD .done) hendings, ?_⟩
  simp [guard, Guard.execute, Guard.executeStrict, Guard.runLocked, hregistered, hstarted, hlocked]

/-- If that commit succeeds, the call answers that the operation was completed. If it fails, the
call has changed nothing either, but it answers with the error, and its transaction may go on. -/
theorem conclude_alreadyApplied {committed : Content δ} {clock : Time.Clock} {next : ConnectionId}
    {record : Record δ} (h : look w = (⟨committed, some (o, committed), clock, next⟩, record)) :
    let stop := ((Guard.conclude (setup.target o) operation .alreadyApplied).run w).run
    (w.database.nextCommit = .done →
        stop.1 = .ok .alreadyApplied ∧ look stop.2 = (⟨committed, none, clock, next⟩, record)) ∧
      (w.database.nextCommit ≠ .done → ∃ (error : GuardError) (left : Option (Content δ))
        (journal : Journal), stop.1 = .error error ∧
          look stop.2 = (⟨committed, left.map (o, ·), clock, next⟩, { record with journal })) := by
  intro stop
  have hin : w.database.inTransaction o = true := Database.inTransaction_inside (Prod.mk.inj h).1
  have hcommits : ((setup.target o).commit.run w).run.1 = .ok () ↔ w.database.nextCommit = .done :=
    Database.commit_answers hin
  have hends : Ends look (Guard.conclude (setup.target o) operation .alreadyApplied) w _ :=
    conclude_inside _ h
  rcases hends with
    ⟨hanswer, hlook⟩ | ⟨⟨error, herror⟩, left, journal, hlook⟩
  · have hdone := hcommits.mp (congrArg Prod.fst (Guard.conclude_ok hanswer).2)
    exact ⟨fun _ => ⟨hanswer, hlook⟩, fun hnot => absurd hdone hnot⟩
  · refine ⟨fun hdone => ?_, fun _ => ⟨error, left, journal, herror, hlook⟩⟩
    obtain ⟨⟨answer, w₁⟩, hrun⟩ : ∃ p, ((setup.target o).commit.run w).run = p := ⟨_, rfl⟩
    have hok := hcommits.mpr hdone
    rw [hrun] at hok
    obtain rfl : answer = .ok () := hok
    simp [Guard.conclude, hrun] at herror

end Setup

/-- **Applied means recorded, if there is a row.** After an applied call, its operation is recorded
as completed exactly if the row of it was still there when the action had ended. If it was, the next
call of the operation finds that out, on any connection, and does nothing; if the commit of that
call fails, it answers with the error, and has done nothing either. If the row was not there, no
next call finds that the operation was applied. -/
theorem recorded_iff_kept (setup : Setup δ) {w w' : World δ} {c : ConnectionId}
    {operation : String} {work : Work}
    (hrun : ((setup.execute c operation work).run w).run = (.ok .applied, w')) :
    let seen := ((setup.sight c operation work).run w).run.1
    let kept := ∃ row, rowOf operation (setup.rows seen) = some row
    (IsCompleted operation (setup.rows w'.database.committed) ↔ kept) ∧
      ∀ (o : ConnectionId) (action : WorldM δ (Except GuardError Unit)),
        let next := ((setup.guard.execute (setup.target o) operation action).run w').run
        (¬kept → next.1 ≠ .ok .alreadyApplied) ∧
        (kept → seen.Holds setup.table (setup.rows seen) →
          (∀ n, (w.database.clock.reading n).HasPlainYear) →
            (w'.database.nextCommit = .done → next.1 = .ok .alreadyApplied ∧
              look next.2 = ({ w'.database.standing with clock := w'.database.clock.advanced },
                w'.record)) ∧
            (w'.database.nextCommit ≠ .done → ∃ error left journal, next.1 = .error error ∧
              look next.2 = ({ w'.database.standing with
                writer := Option.map (o, ·) left, clock := w'.database.clock.advanced },
                { w'.record with journal }))) := by
  intro seen kept
  obtain ⟨clock, hclock, hfree, hcommitted⟩ := Setup.execute_applied hrun
  have hrecorded : IsCompleted operation (setup.rows w'.database.committed) ↔ kept := by
    rw [hcommitted]
    exact Setup.isCompleted_rows_marked
  refine ⟨hrecorded, fun o action => ⟨fun hgone => ?_, ?_⟩⟩
  · have hview : w'.database.view o = w'.database.committed := by rw [Database.view, hfree]
    exact Setup.not_alreadyApplied (by rwa [hview, hrecorded]) action
  · rintro ⟨row, hrow⟩ hholds hyears
    have hnow : clock.now.HasPlainYear := by
      rw [← hclock] at hyears
      exact hyears clock.taken
    have hmarked : rowOf operation (Database.marked operation clock.now.micros (setup.rows seen)) =
        some { row with completed := some clock.now.micros } := by
      rw [Database.rowOf_marked_self, hrow, Option.map_some]
    obtain ⟨w₁, hlook, hcommits, hnext⟩ := setup.execute_completed hfree
      (hcommitted ▸ hholds.withRows _) (by rw [hcommitted, Content.withRows_withRows]) hmarked rfl
      (Time.Instant.readStrict_micros hnow) o action
    have hstanding : w'.database.standing = ⟨w'.database.committed, none, w'.database.clock,
        w'.database.nextConnection⟩ := congrArg (Standing.mk _ · _ _) hfree
    rw [hnext, hstanding, ← hcommits]
    exact Setup.conclude_alreadyApplied hlook

end Applied

/-! ## A call that empties the status table -/

namespace Sample

/-- Run statements until one fails. -/
def runAll : List String → Work
  | [] => .finish (.ok ())
  | text :: texts => .run text fun answer =>
      match answer with
      | .ok _ => runAll texts
      | .error error => .finish (.error error)

/-- A guard with the usual table, and connections of the sample database. -/
def setup : Setup Sample :=
  { language := script, table := .standard, retention := .ofSecs 86400 }

/-- The sample database with its status table. -/
def start : World Sample :=
  ⟨{ committed := Content.withTable ⟨{}, []⟩ StatusTable.standard.name
     clock := ⟨fun _ => .ofSeconds 1700006400, 0⟩ }, {}⟩

/-- Count. -/
def counting : Work := runAll ["UPDATE counter SET n = n + 1"]

/-- Count, and empty the status table. -/
def emptying : Work := runAll ["UPDATE counter SET n = n + 1", "DELETE FROM \"__drover_status\""]

theorem recorded_iff_kept_counting :
    let first := ((setup.execute 0 "op-1" counting).run start).run
    first.1 = .ok .applied ∧ IsCompleted "op-1" (setup.rows first.2.database.committed) ∧
      ∀ (o : ConnectionId) (action : WorldM Sample (Except GuardError Unit)),
        ((setup.guard.execute (setup.target o) "op-1" action).run first.2).run.1 =
          .ok .alreadyApplied := by
  intro first
  have hcomputed : first.1 = .ok .applied ∧ first.2.database.nextCommit = .done := by
    decide +kernel
  obtain ⟨happlied, hcommits⟩ := hcomputed
  have hrun : ((setup.execute 0 "op-1" counting).run start).run = (.ok .applied, first.2) :=
    Prod.ext happlied rfl
  obtain ⟨hrecorded, hnext⟩ := recorded_iff_kept setup hrun
  have hseen :
      let seen := ((setup.sight 0 "op-1" counting).run start).run.1
      rowOf "op-1" (setup.rows seen) = some ⟨"op-1", "2023-11-15T00:00:00.000000Z", none⟩ ∧
        seen.rows? setup.table.name = some (setup.rows seen) ∧
        seen.catalog.find? setup.table.name =
          some ⟨"__drover_status", Content.statusColumns, false⟩ := by decide +kernel
  have hyear : (Time.Instant.ofSeconds 1700006400).HasPlainYear := by
    constructor <;> decide +kernel
  exact ⟨happlied, hrecorded.mpr ⟨_, hseen.1⟩, fun o action =>
    (((hnext o action).2 ⟨_, hseen.1⟩ ⟨hseen.2.1, _, hseen.2.2⟩ fun _ => hyear).1 hcommits).1⟩

/-- The row of the operation is gone when its completion is to be recorded. The call is applied, and
so is the next one. -/
theorem unrecorded_after_emptying :
    let first := ((setup.execute 0 "op-1" emptying).run start).run
    let second := ((setup.execute 0 "op-1" emptying).run first.2).run
    first.1 = .ok .applied ∧ ¬IsCompleted "op-1" (setup.rows first.2.database.committed) ∧
      second.1 = .ok .applied ∧ second.2.database.committed.data.rows "counter" = [2] := by
  have hcomputed :
      let first := ((setup.execute 0 "op-1" emptying).run start).run
      let second := ((setup.execute 0 "op-1" emptying).run first.2).run
      first.1 = .ok .applied ∧ rowOf "op-1" (setup.rows first.2.database.committed) = none ∧
        second.1 = .ok .applied ∧ second.2.database.committed.data.rows "counter" = [2] := by
    decide +kernel
  refine ⟨hcomputed.1, ?_, hcomputed.2.2⟩
  rintro ⟨row, hrow, -⟩
  rw [hcomputed.2.1] at hrow
  cases hrow

end Sample

end RetrySafe
