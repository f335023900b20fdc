import RetrySafe.Proofs.Guard.History

/-!
# What a connection changes

Whether or not its connection is in a transaction, a statement that writes does one of two things to
what the connection sees: nothing, or what it says. Outside of a transaction the change is committed
at once, inside it is not. Either way the connection knows the catalog that it has left. This holds
of any database, whatever is stored and whatever its connections know.

## Main definitions

* `Database.Changed` — what comes of a change.

## Main results

* `Database.start_cases`, `Database.commit_ok` — how a transaction begins and ends.
* `Database.change_changed`, `Database.write_changed` — what comes of a statement that writes.
* `Database.register_ok`, `Database.mark_ok` — what a successful call does to the status table.
-/

namespace RetrySafe

namespace Database

variable {δ α : Type} {db : Database δ} {c : ConnectionId}

theorem lookup_informed (db : Database δ) (c : ConnectionId) (known : Catalog) :
    (db.informed c known).known.lookup c = some known := by
  simp [informed]

/-! ## Transactions -/

/-- What becomes of the commits and rollbacks to come. -/
def endings (db : Database δ) : List Ending × List Ending := (db.commits, db.rollbacks)

/-- A transaction begins with what is committed, or else nothing has changed. -/
theorem start_cases (db : Database δ) (c : ConnectionId) :
    (∃ error, ((start c).run db).run = (.error error, db)) ∨
      db.writer = none ∧ ((start c).run db).run =
        (.ok (), { db with writer := some (c, db.committed), isAltered := false }) := by
  cases hwriter : db.writer with
  | none => exact .inr ⟨rfl, by simp [start, hwriter]⟩
  | some writer => by_cases h : writer.1 = c <;> simp [start, failure, hwriter, h]

theorem view_start (db : Database δ) (c : ConnectionId) :
    ((start c).run db).run.2.view c = db.view c := by
  obtain ⟨error, hrun⟩ | ⟨hfree, hrun⟩ := start_cases db c
  · rw [hrun]
  · simp [hrun, view, hfree]

/-- A commit succeeds if nothing is said against it. -/
theorem commit_answers (hin : db.inTransaction c = true) :
    ((commit c).run db).run.1 = .ok () ↔ db.nextCommit = .done := by
  obtain ⟨hdone, hrun⟩ | ⟨hnot, error, hrun | hrun⟩ := commit_cases hin
  · simp [hrun, hdone]
  · simp [hrun, hnot]
  · simp [hrun, hnot]

/-- What is committed by a transaction is what its connection saw. -/
theorem commit_ok {after : Database δ} (h : ((commit c).run db).run = (.ok (), after)) :
    after = { db with
      committed := db.view c, writer := none, isAltered := false, commits := db.commits.tail } := by
  cases hin : db.inTransaction c with
  | true =>
    obtain ⟨-, hrun⟩ | ⟨-, error, hrun | hrun⟩ := commit_cases hin <;> cases hrun.symm.trans h
    rfl
  | false => cases (commit_outside hin).symm.trans h

/-- A transaction that is gone leaves what was committed, and the clock. -/
theorem abandoned_rest (db : Database δ) (c : ConnectionId) :
    (db.abandoned c).committed = db.committed ∧ (db.abandoned c).clock = db.clock := by
  unfold abandoned
  split
  · split <;> exact ⟨rfl, rfl⟩
  · exact ⟨rfl, rfl⟩

/-- A commit that fails leaves what was committed. -/
theorem commit_error {error : GuardError} {after : Database δ}
    (h : ((commit c).run db).run = (.error error, after)) : after.committed = db.committed := by
  cases hin : db.inTransaction c with
  | true =>
    obtain ⟨-, hrun⟩ | ⟨-, error, hrun | hrun⟩ := commit_cases hin <;> cases hrun.symm.trans h
    · rfl
    · exact (abandoned_rest _ c).1
  | false =>
    cases (commit_outside hin).symm.trans h
    rfl

/-! ## Statements -/

variable [HasTables δ]

theorem view_updated (db : Database δ) (c : ConnectionId) (content : Content δ) :
    (db.updated c content).view c = content := by
  cases hwriter : db.writer with
  | none => simp [Database.updated, Database.view, hwriter]
  | some writer =>
    by_cases h : writer.1 = c <;> simp [Database.updated, Database.view, hwriter, h]

theorem clock_updated (db : Database δ) (c : ConnectionId) (content : Content δ) :
    (db.updated c content).clock = db.clock := by
  unfold Database.updated
  split
  · split <;> rfl
  · rfl

/-- Only outside of a transaction a change is committed at once. -/
theorem committed_updated (db : Database δ) (c : ConnectionId) (content : Content δ) :
    (db.updated c content).committed = db.committed ∨
      db.view c = db.committed ∧ (db.updated c content).committed = content := by
  cases hwriter : db.writer with
  | none => simp [Database.updated, Database.view, hwriter]
  | some writer =>
    by_cases h : writer.1 = c <;> simp [Database.updated, Database.view, hwriter, h]

theorem endings_updated (db : Database δ) (c : ConnectionId) (content : Content δ) :
    (db.updated c content).endings = db.endings := by
  unfold Database.updated
  split
  · split <;> rfl
  · rfl

theorem clock_settled (db : Database δ) (c : ConnectionId) (outcome : Statement.Outcome δ) :
    (db.settled c outcome).clock = db.clock := by
  cases outcome with
  | done content count => exact clock_updated db c content
  | abort message => rfl
  | fail message content => exact clock_updated db c content
  | rollback message => exact (abandoned_rest db c).2

section Keeps

variable {β : Type} {look : Database δ → β} {resource : String} {demand : Demand}
  (hinformed : ∀ (db : Database δ) known, look (db.informed c known) = look db)

include hinformed

/-- What neither a look at the catalog nor the effect of a statement changes. -/
theorem exclusively_keeps {effect : DatabaseM δ (Except GuardError α)}
    (heffect : Keeps look effect) : Keeps look (exclusively c resource demand effect) := by
  intro db
  cases hlocked : db.lockedFor c with
  | true => simp [exclusively, hlocked]
  | false =>
    have hends : Ends look (exclusively c resource demand effect) db fun _ after =>
        after = look db :=
      exclusively_ends hlocked (fun _ => hinformed db _) ((heffect _).trans (hinformed db _))
    exact hends

/-- What a change of what a connection sees leaves alone. -/
theorem change_keeps
    (hupdated : ∀ (db : Database δ) content, look (db.updated c content) = look db)
    (f : Content δ → Except GuardError (Content δ × α)) :
    Keeps look (change c resource demand f) := by
  refine exclusively_keeps hinformed fun db => ?_
  cases hf : f (db.view c) with
  | error error => simp [hf]
  | ok result => simp [hf, changed, hinformed, hupdated]

theorem write_keeps
    (hupdated : ∀ (db : Database δ) content, look (db.updated c content) = look db)
    (f : Content δ → Except GuardError (Content δ × α)) :
    Keeps look (write c resource demand f) := by
  refine (compile_keeps_of hinformed demand).bind fun missing => ?_
  cases missing with
  | some message => exact .pure _
  | none => exact change_keeps hinformed hupdated f

end Keeps

/-- What comes of a change of what a connection sees: nothing, or what the change says, and then the
connection knows the catalog that it has left. -/
inductive Changed (c : ConnectionId) (f : Content δ → Except GuardError (Content δ × α))
    (db : Database δ) : Except GuardError α → Database δ → Prop
  | failed {error : GuardError} {after : Database δ} (hview : after.view c = db.view c)
    (hcommitted : after.committed = db.committed) : Changed c f db (.error error) after
  | done {content : Content δ} {answer : α} {after : Database δ}
    (hf : f (db.view c) = .ok (content, answer)) (hview : after.view c = content)
    (hknown : after.known.lookup c = some content.catalog)
    (hcommitted : after.committed = db.committed ∨
      db.view c = db.committed ∧ after.committed = content) :
    Changed c f db (.ok answer) after

namespace Changed

variable {f : Content δ → Except GuardError (Content δ × α)} {answer : Except GuardError α}
  {after : Database δ}

/-- What a change leaves alone is left alone in what is committed. -/
theorem committed {β : Type} (part : Content δ → β) (h : Changed c f db answer after)
    (hpart : ∀ content content' a, f content = .ok (content', a) → part content' = part content) :
    part after.committed = part db.committed := by
  cases h with
  | failed hview hcommitted => rw [hcommitted]
  | done hf hview hknown hcommitted =>
    obtain hcommitted | ⟨hsame, hcommitted⟩ := hcommitted
    · rw [hcommitted]
    · rw [hcommitted, ← hsame, hpart _ _ _ hf]

theorem of_view (h : Changed c f db answer after) (before : Database δ)
    (hview : db.view c = before.view c) (hcommitted : db.committed = before.committed) :
    Changed c f before answer after := by
  cases h with
  | failed hview' hcommitted' => exact .failed (hview'.trans hview) (hcommitted'.trans hcommitted)
  | done hf hview' hknown hcommitted' =>
    exact .done (hview ▸ hf) hview' hknown (by rwa [← hview, ← hcommitted])

end Changed

theorem change_changed (c : ConnectionId) (resource : String) (demand : Demand)
    (f : Content δ → Except GuardError (Content δ × α)) (db : Database δ) :
    Changed c f db ((change c resource demand f).run db).run.1
      ((change c resource demand f).run db).run.2 := by
  have hrefreshed : (db.refreshed c).view c = db.view c := rfl
  have hfailed (error : GuardError) : Changed c f db (.error error) (db.refreshed c) :=
    .failed hrefreshed rfl
  cases hlocked : db.lockedFor c with
  | true =>
    have hkept : Changed c f db (.error (.lockConflict resource)) db := .failed rfl rfl
    simpa [change, exclusively, hlocked] using hkept
  | false =>
    cases hmissing : demand (db.catalog c) with
    | some message =>
      simpa [change, exclusively, hlocked, recheck, hmissing, failure] using
        hfailed (.database message)
    | none =>
      cases hf : f (db.view c) with
      | error error =>
        simpa [change, exclusively, hlocked, recheck, hmissing, hrefreshed, hf] using hfailed error
      | ok result =>
        have hdone : Changed c f db (.ok result.2)
            ((db.refreshed c).changed c result.1) :=
          .done hf (view_updated _ c result.1) (lookup_informed _ _ _)
            (committed_updated (db.refreshed c) c result.1)
        simpa [change, exclusively, hlocked, recheck, hmissing, hrefreshed, hf] using hdone

theorem write_changed (c : ConnectionId) (resource : String) (demand : Demand)
    (f : Content δ → Except GuardError (Content δ × α)) (db : Database δ) :
    Changed c f db ((write c resource demand f).run db).run.1
      ((write c resource demand f).run db).run.2 := by
  cases hknown : demand (db.knownTo c) with
  | none =>
    have hchanged := (change_changed c resource demand f (db.informed c (db.knownTo c))).of_view
      db rfl rfl
    simpa [write, compile, hknown] using hchanged
  | some message =>
    have hfailed (message : String) : Changed c f db (.error (.database message))
        (db.refreshed c) := .failed rfl rfl
    cases hmissing : demand (db.catalog c) with
    | none =>
      have hchanged := (change_changed c resource demand f (db.refreshed c)).of_view
        db rfl rfl
      simpa [write, compile, hknown, hmissing] using hchanged
    | some message' => simpa [write, compile, hknown, hmissing, failure] using hfailed message'

/-! ## Status tables -/

variable {table : StatusTable} {operation : String} {after : Database δ}

/-- Rows are changed as a function says, and the connection knows the catalog afterwards. -/
theorem writeRows_ok {resource : String} {demand : TableShape → Option String}
    {f : List StatusRow → List StatusRow}
    (h : ((writeRows c resource table demand fun rows => (f rows, ())).run db).run =
      (.ok (), after)) :
    after.view c = (db.view c).withRows table.name (f (((db.view c).rows? table.name).getD [])) ∧
      after.known.lookup c = some (after.catalog c) := by
  have hchanged := write_changed c resource (Demand.changeable table.name demand) (fun content =>
    .ok (content.withRows table.name (f ((content.rows? table.name).getD [])), ())) db
  rw [writeRows] at h
  rw [h] at hchanged
  cases hchanged with
  | done hf hview hknown =>
    obtain rfl := (Prod.mk.inj (Except.ok.inj hf)).1
    exact ⟨hview, by rw [hknown, catalog, hview]⟩

/-- A registration adds a row to what the connection sees, if there is none. -/
theorem register_ok (h : ((register c table operation).run db).run = (.ok (), after)) :
    after.view c = (db.view c).withRows table.name (registered operation db.clock.now.micros
        (((db.view c).rows? table.name).getD [])) ∧
      after.known.lookup c = some (after.catalog c) := by
  have hrows : ((writeRows c operation table
      (Demand.targets table.name ["operation_id", "created_at"]) fun rows =>
        (registered operation db.clock.now.micros rows, ())).run
      { db with clock := db.clock.advanced }).run = (.ok (), after) := h
  have hwritten := writeRows_ok hrows
  exact hwritten

theorem register_endings (c : ConnectionId) (table : StatusTable) (operation : String) :
    Keeps (endings (δ := δ)) (register c table operation) := by
  have hnow : Keeps (endings (δ := δ)) now := fun _ => rfl
  refine hnow.bind fun t => ?_
  exact write_keeps (fun _ _ => rfl) (fun db content => endings_updated db c content) _

/-- A completion is recorded in the row that the connection sees, if there is one. -/
theorem mark_ok (h : ((mark c table operation).run db).run = (.ok (), after)) :
    after.view c = (db.view c).withRows table.name (marked operation db.clock.now.micros
      (((db.view c).rows? table.name).getD [])) := by
  have hrows : ((writeRows c operation table (Demand.assigned "completed_at") fun rows =>
      (marked operation db.clock.now.micros rows, ())).run
      { db with clock := db.clock.advanced }).run = (.ok (), after) := h
  have hwritten := writeRows_ok hrows
  exact hwritten.1

end Database

/-! ## Worlds -/

section World

variable {δ α : Type} {action : DatabaseM δ α} {w : World δ} {answer : α}

theorem World.perform_run {after : World δ}
    (h : ((Database.perform action : WorldM δ α).run w).run = (answer, after)) :
    (action.run w.database).run = (answer, after.database) ∧ after.record = w.record := by
  obtain ⟨hanswer, rfl⟩ := Prod.mk.inj h
  exact ⟨Prod.ext hanswer rfl, rfl⟩

theorem World.run_perform {after : Database δ} (h : (action.run w.database).run = (answer, after)) :
    ((Database.perform action : WorldM δ α).run w).run = (answer, ⟨after, w.record⟩) :=
  congrArg (fun p => (p.1, (⟨p.2, w.record⟩ : World δ))) h

end World

end RetrySafe
