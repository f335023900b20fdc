import RetrySafe.Proofs.Session.Duplicate
import RetrySafe.Proofs.Session.Insertion

/-!
# Submissions are all or nothing

A submission that fails leaves the store as it found it, but for the readings of its clock. One that
succeeds adds a single attempt, whose id is above all others, and touches one session: a new one, or
the one that is there, of which it changes the last attempt. For this the sessions have to be told
apart by their ids, which they are wherever operations and transactions lead.

## Main definitions

* `Store.IsReached` — the stores that operations and transactions lead to.

## Main results

* `Store.IsReached.isKeyed` — sessions are told apart by their ids.
* `submit_all_or_nothing` — what a submission leaves behind.
-/

namespace RetrySafe.Session

open Time (Clock Instant)

/-! ## Reached stores -/

/-- An operation leaves no transaction open. -/
theorem perform_undo (operation : Operation) {store : Store} (hfree : store.undo = none) :
    (operation.perform.run store).run.2.undo = none := by
  cases operation with
  | createProject site name =>
    cases hid : store.tables.nextProject <;>
      simp [Operation.perform, Store.createProject, Store.now, Store.ask, Store.edit, hid, hfree]
  | deleteProject id =>
    cases hlive : store.tables.projects.any (Store.isLive · id) <;>
      simp [-List.any_eq_true, Operation.perform, Store.deleteProject, Store.now, Store.ask,
        Store.edit, Store.project, hlive, hfree]
  | submit limits request dependent =>
    obtain ⟨after, ⟨-, hafter⟩, hrun⟩ := submit_eq store limits request dependent
    have hperform := hrun _ _ rfl
    simp [Operation.perform, hperform, hafter hfree]
  | finish id success =>
    cases hopen : store.tables.attempts.any (Store.isOpen · id) <;>
      cases hthere : store.tables.attempts.any (·.id = id) <;>
      simp [-List.any_eq_true, Operation.perform, Store.finish, Store.now, Store.ask, Store.edit,
        hopen, hthere, hfree]
  | find limits key retryName =>
    simp only [Operation.perform, Session.find]
    split
    · exact hfree
    · simp [Store.attemptOf_run, hfree]

namespace Store

/-- The stores that operations and transactions lead to. While a transaction is open nothing happens
but what it does; reading changes nothing, so it is left out. -/
inductive IsReached : Store → Prop
  | empty (clock : Clock) : IsReached { clock }
  | performed {store : Store} (h : IsReached store) (hfree : store.undo = none)
      (operation : Operation) : IsReached (operation.perform.run store).run.2
  | started {store : Store} (h : IsReached store) (hfree : store.undo = none) :
      IsReached (start.run store).run.2
  | locked {store : Store} (h : IsReached store) (hopen : store.undo ≠ none) (key : Key) :
      IsReached ((lockSession key).run store).run.2
  | attempted {store : Store} (h : IsReached store) (hopen : store.undo ≠ none) (site : Int)
      (session : Stored) (spec : AttemptSpec) (dependent : Option Int) :
      IsReached ((insertAttempt site session spec dependent).run store).run.2
  | committed {store : Store} (h : IsReached store) (hopen : store.undo ≠ none) :
      IsReached (commit.run store).run.2
  | rolledBack {store : Store} (h : IsReached store) (hopen : store.undo ≠ none) :
      IsReached (rollback.run store).run.2

/-- Sessions are told apart, and so were those that the open transaction may return to. -/
theorem IsReached.isKeyed {store : Store} (h : store.IsReached) :
    store.tables.IsKeyed ∧ ∀ before, store.undo = some before → before.IsKeyed := by
  induction h with
  | empty clock => exact ⟨List.nodup_nil, fun _ hbefore => by cases hbefore⟩
  | @performed store h hfree operation ih =>
    refine ⟨ih.1.step (perform_step operation store), fun before hbefore => ?_⟩
    rw [perform_undo operation hfree] at hbefore
    cases hbefore
  | started h hfree ih =>
    refine ⟨ih.1, fun before hbefore => ?_⟩
    cases hbefore
    exact ih.1
  | @locked store h hopen key ih =>
    rw [lockSession_run]
    cases hlock : withSession store.tables key store.clock.now.micros with
    | error fault => exact ih
    | ok tables => exact ⟨ih.1.withSession hlock, ih.2⟩
  | @attempted store h hopen site session spec dependent ih =>
    rw [insertAttempt_run]
    cases hattempt : Store.attempted store.tables site session spec dependent
        store.clock.now.truncated with
    | error error => exact ih
    | ok result =>
      obtain ⟨attempt, tables⟩ := result
      obtain ⟨id, -, -, -, rfl⟩ := attempted_ok hattempt
      exact ⟨ih.1.withAttempt _, ih.2⟩
  | committed h hopen ih => exact ⟨ih.1, fun _ hbefore => by cases hbefore⟩
  | @rolledBack store h hopen ih =>
    obtain ⟨before, hbefore⟩ := Option.ne_none_iff_exists'.mp hopen
    have hrun : (rollback.run store).run.2 = { store with tables := before, undo := none } := by
      simp [rollback, hbefore]
    rw [hrun]
    exact ⟨ih.2 before hbefore, fun _ hnone => by cases hnone⟩

/-- After any history operations lead on. -/
theorem IsReached.history {operations : List Operation} {store store' : Store}
    {events : List Event} (h : store.IsReached) (hfree : store.undo = none)
    (hrun : ((history operations).run store).run = (events, store')) :
    store'.IsReached ∧ store'.undo = none := by
  induction operations generalizing store events with
  | nil =>
    cases hrun
    exact ⟨h, hfree⟩
  | cons operation operations ih =>
    obtain ⟨rest, hrest, -⟩ := history_cons hrun
    exact ih (h.performed hfree operation) (perform_undo operation hfree) hrest

end Store

/-! ## What a submission leaves behind -/

/-- **All or nothing.** Wherever operations and transactions lead, a submission leaves no
transaction open. If it fails, the store is what it was but for the readings of the clock, so
whatever is submitted next is answered as if nothing had been tried. If it succeeds, there is one
attempt more, with an id above all others, and its session was added if there was none for the key;
nothing else changes but the last attempt of that session. -/
theorem submit_all_or_nothing {store after : Store} {limits : Limits} {request : Request}
    {dependent : Option Int} {result : Except AttemptError AttemptWithSession}
    (h : store.IsReached) (hfree : store.undo = none)
    (hrun : ((submit limits request dependent).run store).run = (result, after)) :
    after.undo = none ∧
      (∀ error, result = .error error → after = { store with clock := after.clock } ∧
        ∀ limits request dependent, ((submit limits request dependent).run after).run =
          ((submit limits request dependent).run { store with clock := after.clock }).run) ∧
      ∀ created, result = .ok created →
        ∃ row, after.tables.attempts = store.tables.attempts ++ [row] ∧
          row.id = created.attempt.id ∧ (∀ a ∈ store.tables.attempts, a.id < row.id) ∧
          after.tables.projects = store.tables.projects ∧
          Receives request.key row store.tables.sessions after.tables.sessions := by
  obtain ⟨left, ⟨-, hleft⟩, hsubmit⟩ := submit_eq store limits request dependent
  obtain ⟨⟨result', tables'⟩, hsubmitted⟩ : ∃ p, submitted store.tables limits request dependent
    store.clock.now store.clock.advanced.now = p := ⟨_, rfl⟩
  obtain ⟨rfl, rfl⟩ := Prod.mk.inj (hrun.symm.trans (hsubmit _ _ hsubmitted))
  have hundo : left.undo = none := hleft hfree
  refine ⟨hundo, ?_, ?_⟩
  · rintro error rfl
    have hsame : ({ left with tables := tables' } : Store) = { store with clock := left.clock } := by
      rw [submitted_error hsubmitted, hundo, hfree]
    refine ⟨hsame, fun limits request dependent => ?_⟩
    rw [hsame]
  · rintro created rfl
    obtain ⟨-, row, hrow⟩ := inserts_of_inserted h.isKeyed.1 (submitted_ok hsubmitted).2
    have hid : row.id = created.attempt.id := by
      rw [hrow.written]
      rfl
    exact ⟨row, hrow.attempts, hid, hrow.newest, hrow.projects, hrow.sessions⟩

namespace Daily

theorem after_isReached (operations : List Operation) :
    (after operations).2.IsReached ∧ (after operations).2.undo = none :=
  (Store.IsReached.empty _).history rfl (run_history operations)

theorem run_eq {α : Type} (action : StoreM α) (store : Store) :
    (action.run store).run = ((action.run store).run.1, (action.run store).run.2) := rfl

theorem exists_of_created {result : Except AttemptError AttemptWithSession} {id : Int}
    (h : result.toOption.map (·.attempt.id) = some id) :
    ∃ created, result = .ok created ∧ created.attempt.id = id := by
  cases result with
  | error error => cases h
  | ok created => exact ⟨created, rfl, Option.some.inj h⟩

theorem submit_all_or_nothing_daily :
    ((submit {} (requestFor none) none).run (after (attempts [none])).2).run.2 =
        { (after (attempts [none])).2 with
          clock := ((submit {} (requestFor none) none).run (after (attempts [none])).2).run.2.clock } ∧
      ∃ row, ((submit {} (requestFor (some "retry1")) none).run
          (after (attempts [none])).2).run.2.tables.attempts =
        (after (attempts [none])).2.tables.attempts ++ [row] ∧ row.id = 2 := by
  obtain ⟨hreached, hfree⟩ := after_isReached (attempts [none])
  have hduplicate : (existing? ((submit {} (requestFor none) none).run
      (after (attempts [none])).2).run.1).map (fun e => (e.attempt.id, e.attempt.retryName)) =
        some (1, none) := by decide +kernel
  have hretry : ((submit {} (requestFor (some "retry1")) none).run
      (after (attempts [none])).2).run.1.toOption.map (·.attempt.id) = some 2 := by decide +kernel
  obtain ⟨existing, hexisting, -⟩ := exists_of_existing? hduplicate
  obtain ⟨created, hcreated, hid⟩ := exists_of_created hretry
  constructor
  · exact ((submit_all_or_nothing hreached hfree (run_eq _ _)).2.1 _ hexisting).1
  · obtain ⟨row, hattempts, hrow, -⟩ :=
      (submit_all_or_nothing hreached hfree (run_eq _ _)).2.2 _ hcreated
    exact ⟨row, hattempts, hrow.trans hid⟩

end Daily

end RetrySafe.Session
