import RetrySafe.Proofs.Target.StatusTable

/-!
# What the primitives of a connection do

What connections know of the catalog decides how a statement is compiled, but not what it does where
the catalog meets its demand. So a database is described by the rest of it, and each primitive that
a guard uses leads from one such description to another. A connection finds the database in one of
three modes: nobody is in a transaction, the connection itself is, or somebody else is. What becomes
of an attempt to end a transaction is not part of the description: either may fail at any time, and
the transaction may go on or be gone.

## Main definitions

* `Standing` — a database without what connections know of its catalog.
* `Leads` — an action ends with an answer and leaves a state that looks in some way.
* `Ran` — what a text makes of the working copy of a transaction.

## Main results

* `commit_cases`, `rollback_cases` — what becomes of an attempt to end a transaction.
* `register_free`, `start_free`, `lookAt_inside`, `mark_inside`, `commit_inside`,
  `rollback_inside`, `purge_free` — the primitives where nobody else is in a transaction.
* `register_locked`, `start_locked`, `purge_locked` — the primitives where somebody else is.
* `register_stays`, `start_again`, `purge_stays` — a transaction that did not end as it was told to.
* `execute_inside` — a statement inside a transaction has run, or has failed before.
-/

namespace RetrySafe

open Time (Clock)

/-- A database without what its connections know of the catalog and what becomes of transactions:
what was committed, the connection in a transaction with its working copy, the clock, and the number
of the next connection. -/
structure Standing (δ : Type) where
  committed : Content δ
  writer : Option (ConnectionId × Content δ)
  clock : Clock
  next : ConnectionId

section Ends

variable {σ τ α β : Type} {look : σ → τ} {action : StateM σ α} {next : α → StateM σ β} {s : σ}

/-- An action ends with an answer, and leaves a state that looks in a way, such that something
holds of both. -/
def Ends (look : σ → τ) (action : StateM σ α) (s : σ) (post : α → τ → Prop) : Prop :=
  post (action.run s).run.1 (look (action.run s).run.2)

/-- An action ends with an answer and leaves a state that looks in some way. -/
structure Leads (look : σ → τ) (action : StateM σ α) (s : σ) (answer : α) (after : τ) : Prop where
  answers : (action.run s).run.1 = answer
  leaves : look (action.run s).run.2 = after

namespace Ends

variable {post post' : α → τ → Prop}

theorem mono (h : Ends look action s post) (hpost : ∀ a t, post a t → post' a t) :
    Ends look action s post' :=
  hpost _ _ h

theorem bind {post : β → τ → Prop}
    (h : Ends look action s fun a t => ∀ s', look s' = t → Ends look (next a) s' post) :
    Ends look (action >>= next) s post :=
  h _ rfl

end Ends

namespace Leads

variable {answer : α} {after : τ}

theorem run (h : Leads look action s answer after) :
    ∃ s', (action.run s).run = (answer, s') ∧ look s' = after :=
  ⟨_, Prod.ext h.answers rfl, h.leaves⟩

theorem bind {b : β} {between : τ} (h : Leads look action s answer between)
    (hnext : ∀ s', look s' = between → Leads look (next answer) s' b after) :
    Leads look (action >>= next) s b after := by
  obtain ⟨s', hrun, hbetween⟩ := h.run
  have hafter := hnext s' hbetween
  constructor <;> simp [hrun, hafter.answers, hafter.leaves]

theorem pure (h : look s = after) (answer : α) : Leads look (pure answer) s answer after :=
  ⟨rfl, h⟩

theorem mono {after' : τ} (h : Leads look action s answer after) (hafter : after = after') :
    Leads look action s answer after' :=
  hafter ▸ h

theorem ends {post : α → τ → Prop} (h : Leads look action s answer after)
    (hpost : post answer after) : Ends look action s post := by
  rw [Ends, h.answers, h.leaves]
  exact hpost

theorem ends_bind {post : β → τ → Prop} (h : Leads look action s answer after)
    (hnext : ∀ s', look s' = after → Ends look (next answer) s' post) :
    Ends look (action >>= next) s post := by
  obtain ⟨s', hrun, hafter⟩ := h.run
  simpa [Ends, hrun] using hnext s' hafter

end Leads

/-- An action leaves a state that looks as before, whatever its answer. -/
def Keeps (look : σ → τ) (action : StateM σ α) : Prop :=
  ∀ s, look (action.run s).run.2 = look s

namespace Keeps

theorem leads (h : Keeps look action) (s : σ) :
    ∃ answer, Leads look action s answer (look s) :=
  ⟨_, rfl, h s⟩

theorem pure (answer : α) : Keeps look (pure answer : StateM σ α) :=
  fun _ => rfl

theorem bind (h : Keeps look action) (hnext : ∀ a, Keeps look (next a)) :
    Keeps look (action >>= next) := by
  intro s
  exact (hnext _ _).trans (h s)

/-- Who looks at a part only sees no change either. -/
theorem part {υ : Type} (part : τ → υ) (h : Keeps look action) :
    Keeps (fun s => part (look s)) action :=
  fun s => congrArg part (h s)

end Keeps

end Ends

namespace Database

variable {δ : Type}

/-- The standing of a database. -/
def standing (db : Database δ) : Standing δ :=
  ⟨db.committed, db.writer, db.clock, db.nextConnection⟩

variable {db : Database δ} {committed working : Content δ} {c w : ConnectionId} {clock : Clock}
  {next : ConnectionId} {writer : Option (ConnectionId × Content δ)}

theorem view_free (h : db.standing = ⟨committed, none, clock, next⟩) (c : ConnectionId) :
    db.view c = committed := by
  cases db; unfold standing at h; cases h
  rfl

theorem view_inside (h : db.standing = ⟨committed, some (c, working), clock, next⟩) :
    db.view c = working := by
  cases db; unfold standing at h; cases h
  simp [view]

theorem view_locked (h : db.standing = ⟨committed, some (w, working), clock, next⟩) (hne : w ≠ c) :
    db.view c = committed := by
  cases db; unfold standing at h; cases h
  simp [view, hne]

theorem lockedFor_free (h : db.standing = ⟨committed, none, clock, next⟩) (c : ConnectionId) :
    db.lockedFor c = false := by
  cases db; unfold standing at h; cases h
  rfl

theorem lockedFor_inside (h : db.standing = ⟨committed, some (c, working), clock, next⟩) :
    db.lockedFor c = false := by
  cases db; unfold standing at h; cases h
  simp [lockedFor]

theorem lockedFor_locked (h : db.standing = ⟨committed, some (w, working), clock, next⟩)
    (hne : w ≠ c) : db.lockedFor c = true := by
  cases db; unfold standing at h; cases h
  simp [lockedFor, hne]

theorem view_congr {db' : Database δ} (h : db'.standing = db.standing) :
    db'.view c = db.view c := by
  cases db; cases db'; unfold standing at h; cases h
  rfl

theorem lockedFor_congr {db' : Database δ} (h : db'.standing = db.standing) :
    db'.lockedFor c = db.lockedFor c := by
  cases db; cases db'; unfold standing at h; cases h
  rfl

/-! ## Transactions -/

theorem now_leads (h : db.standing = ⟨committed, writer, clock, next⟩) :
    Leads standing now db clock.now ⟨committed, writer, clock.advanced, next⟩ := by
  cases db; unfold standing at h; cases h
  exact ⟨rfl, rfl⟩

theorem start_free (h : db.standing = ⟨committed, none, clock, next⟩) (c : ConnectionId) :
    Leads standing (start c) db (.ok ()) ⟨committed, some (c, committed), clock, next⟩ := by
  cases db; unfold standing at h; cases h
  exact ⟨rfl, rfl⟩

theorem start_locked (h : db.standing = ⟨committed, some (w, working), clock, next⟩) (hne : w ≠ c) :
    Leads standing (start c) db (.error (.lockConflict "transaction"))
      ⟨committed, some (w, working), clock, next⟩ := by
  cases db; unfold standing at h; cases h
  constructor <;> simp [start, hne, standing]

theorem start_again (h : db.standing = ⟨committed, some (c, working), clock, next⟩) :
    Leads standing (start c) db
      (.error (.database "cannot start a transaction within a transaction"))
      ⟨committed, some (c, working), clock, next⟩ := by
  cases db; unfold standing at h; cases h
  constructor <;> simp [start, failure, standing]

theorem inTransaction_inside (h : db.standing = ⟨committed, some (c, working), clock, next⟩) :
    db.inTransaction c = true := by
  cases db; unfold standing at h; cases h
  simp [inTransaction]

theorem inTransaction_free (h : db.standing = ⟨committed, none, clock, next⟩) (c : ConnectionId) :
    db.inTransaction c = false := by
  cases db; unfold standing at h; cases h
  rfl

/-- A transaction that is gone leaves what was committed. -/
theorem standing_abandoned (h : db.standing = ⟨committed, some (c, working), clock, next⟩) :
    (db.abandoned c).standing = ⟨committed, none, clock, next⟩ := by
  have hin := inTransaction_inside h
  cases db; unfold standing at h; cases h
  rw [abandoned, if_pos hin]
  split <;> rfl

/-- A commit puts the working copy in place, or it fails, and the transaction goes on or is gone. -/
theorem commit_cases (hin : db.inTransaction c = true) :
    let tried := { db with commits := db.commits.tail }
    db.nextCommit = .done ∧ ((commit c).run db).run =
        (.ok (), { tried with committed := db.view c, writer := none, isAltered := false }) ∨
      db.nextCommit ≠ .done ∧ ∃ error, ((commit c).run db).run = (.error error, tried) ∨
        ((commit c).run db).run = (.error error, tried.abandoned c) := by
  cases hending : db.nextCommit <;> simp [commit, hin, hending]

theorem commit_outside (hout : db.inTransaction c = false) :
    ((commit c).run db).run =
      (.error (.database "cannot commit - no transaction is active"), db) := by
  simp [commit, failure, hout]

/-- A rollback leads out of the transaction, even if it reports an error, unless it is refused. -/
theorem rollback_cases (hin : db.inTransaction c = true) :
    let tried := { db with rollbacks := db.rollbacks.tail }
    (∃ answer, ((rollback c).run db).run = (answer, tried.abandoned c)) ∨
      ∃ fault, db.nextRollback = .refused fault ∧
        ∃ answer, ((rollback c).run db).run = (answer, tried) := by
  cases hending : db.nextRollback <;> simp [rollback, failure, hin, hending]

/-- Outside of a transaction there is nothing to take back. -/
theorem rollback_outside (hout : db.inTransaction c = false) :
    ((rollback c).run db).run = (.ok (), db) := by
  simp [rollback, hout]

theorem commit_inside (h : db.standing = ⟨committed, some (c, working), clock, next⟩) :
    Ends standing (commit c) db fun answer after =>
      answer = .ok () ∧ after = ⟨working, none, clock, next⟩ ∨
        (∃ error, answer = .error error) ∧
          ∃ left : Option (Content δ), after = ⟨committed, left.map (c, ·), clock, next⟩ := by
  have hin := inTransaction_inside h
  have htried : ({ db with commits := db.commits.tail } : Database δ).standing =
      ⟨committed, some (c, working), clock, next⟩ := h
  unfold Ends
  obtain ⟨-, hrun⟩ | ⟨-, error, hrun | hrun⟩ := commit_cases hin <;> rw [hrun]
  · refine .inl ⟨rfl, ?_⟩
    rw [view_inside h]
    exact congrArg (fun s => Standing.mk working none s.clock s.next) h
  · exact .inr ⟨⟨error, rfl⟩, some working, htried⟩
  · exact .inr ⟨⟨error, rfl⟩, none, standing_abandoned htried⟩

/-- A rollback leaves what was committed, but it may fail, and the transaction may go on. -/
theorem rollback_inside (h : db.standing = ⟨committed, some (c, working), clock, next⟩) :
    Ends standing (rollback c) db fun _ after =>
      ∃ left : Option (Content δ), after = ⟨committed, left.map (c, ·), clock, next⟩ := by
  have hin := inTransaction_inside h
  have htried : ({ db with rollbacks := db.rollbacks.tail } : Database δ).standing =
      ⟨committed, some (c, working), clock, next⟩ := h
  unfold Ends
  obtain ⟨answer, hrun⟩ | ⟨fault, -, answer, hrun⟩ := rollback_cases hin <;> rw [hrun]
  · exact ⟨none, standing_abandoned htried⟩
  · exact ⟨some working, htried⟩

theorem rollback_free (h : db.standing = ⟨committed, none, clock, next⟩) (c : ConnectionId) :
    Leads standing (rollback c) db (.ok ()) ⟨committed, none, clock, next⟩ := by
  have hrun := rollback_outside (inTransaction_free h c)
  exact ⟨congrArg Prod.fst hrun, (congrArg (standing ·.2) hrun).trans h⟩

/-! ## Statements -/

theorem standing_informed (db : Database δ) (c : ConnectionId) (catalog : Catalog) :
    (db.informed c catalog).standing = db.standing := rfl

variable [HasTables δ] {α : Type} {demand : Demand} {resource : String}
  {f : Content δ → Except GuardError (Content δ × α)} {content : Content δ} {answer : α}

theorem standing_updated_free (h : db.standing = ⟨committed, none, clock, next⟩)
    (c : ConnectionId) (content : Content δ) :
    (db.updated c content).standing = ⟨content, none, clock, next⟩ := by
  cases db; unfold standing at h; cases h
  rfl

theorem standing_updated_inside (h : db.standing = ⟨committed, some (c, working), clock, next⟩)
    (content : Content δ) :
    (db.updated c content).standing = ⟨committed, some (c, content), clock, next⟩ := by
  cases db; unfold standing at h; cases h
  simp [updated, standing]

theorem standing_updated_congr {db' : Database δ} (h : db'.standing = db.standing) :
    (db'.updated c content).standing = (db.updated c content).standing := by
  cases db; cases db'; unfold standing at h; cases h
  simp only [updated]
  split
  · split <;> rfl
  · rfl

/-- A statement that the catalog allows is compiled. -/
theorem compile_leads (hmet : demand (db.catalog c) = none) :
    Leads standing (compile c demand) db none db.standing := by
  cases hknown : demand (db.knownTo c) with
  | none => constructor <;> simp [compile, hknown, standing_informed]
  | some => constructor <;> simp [compile, hknown, hmet, refreshed, standing_informed]

theorem recheck_leads (hmet : demand (db.catalog c) = none) :
    Leads standing (recheck c demand) db none db.standing := by
  constructor <;> simp [recheck, hmet, refreshed, standing_informed]

/-- What writes fails at once while somebody else is in a transaction. -/
theorem exclusively_locked {effect : DatabaseM δ (Except GuardError α)}
    (h : db.standing = ⟨committed, some (w, working), clock, next⟩) (hne : w ≠ c) :
    Leads standing (exclusively c resource demand effect) db (.error (.lockConflict resource))
      ⟨committed, some (w, working), clock, next⟩ := by
  have hlocked := lockedFor_locked h hne
  constructor <;> simp [exclusively, hlocked, h]

theorem exclusively_leads {effect : DatabaseM δ (Except GuardError α)}
    {answer : Except GuardError α} {after : Standing δ} (hfree : db.lockedFor c = false)
    (hmet : demand (db.catalog c) = none)
    (heffect : ∀ db' : Database δ, db'.standing = db.standing →
      Leads standing effect db' answer after) :
    Leads standing (exclusively c resource demand effect) db answer after := by
  -- Looking at the catalog again changes only what the connection knows of it.
  obtain ⟨db', hrun, hstanding⟩ := (recheck_leads hmet).run
  obtain ⟨hanswers, hleaves⟩ := heffect db' hstanding
  constructor <;> simp [exclusively, hfree, hrun, hanswers, hleaves]

theorem change_locked (h : db.standing = ⟨committed, some (w, working), clock, next⟩)
    (hne : w ≠ c) :
    Leads standing (change c resource demand f) db (.error (.lockConflict resource))
      ⟨committed, some (w, working), clock, next⟩ := by
  exact exclusively_locked h hne

theorem write_locked (h : db.standing = ⟨committed, some (w, working), clock, next⟩) (hne : w ≠ c)
    (hmet : demand committed.catalog = none) :
    Leads standing (write c resource demand f) db (.error (.lockConflict resource))
      ⟨committed, some (w, working), clock, next⟩ := by
  have hcatalog : demand (db.catalog c) = none := by rwa [catalog, view_locked h hne]
  refine (compile_leads hcatalog).bind fun db' h' => ?_
  exact change_locked (h'.trans h) hne

/-- A change of what a connection sees, where nobody else is in a transaction. -/
theorem change_leads (hfree : db.lockedFor c = false) (hmet : demand (db.catalog c) = none)
    (hf : f (db.view c) = .ok (content, answer)) :
    Leads standing (change c resource demand f) db (.ok answer)
      (db.updated c content).standing := by
  refine exclusively_leads hfree hmet fun db' h' => ?_
  rw [← view_congr h'] at hf
  constructor <;> simp [hf, changed, standing_informed, standing_updated_congr h']

theorem write_leads (hfree : db.lockedFor c = false) (hmet : demand (db.catalog c) = none)
    (hf : f (db.view c) = .ok (content, answer)) :
    Leads standing (write c resource demand f) db (.ok answer) (db.updated c content).standing := by
  refine (compile_leads hmet).bind fun db' h' => ?_
  -- Compiling has changed the database only in what the connection knows.
  rw [← standing_updated_congr h']
  rw [catalog, ← view_congr h'] at hmet
  exact change_leads ((lockedFor_congr h').trans hfree) hmet (by rwa [view_congr h'])

theorem write_free (h : db.standing = ⟨committed, none, clock, next⟩) (c : ConnectionId)
    (hmet : demand committed.catalog = none) (hf : f committed = .ok (content, answer)) :
    Leads standing (write c resource demand f) db (.ok answer) ⟨content, none, clock, next⟩ := by
  rw [← standing_updated_free h c content]
  rw [← view_free h c] at hmet hf
  exact write_leads (lockedFor_free h c) hmet hf

theorem write_inside (h : db.standing = ⟨committed, some (c, working), clock, next⟩)
    (hmet : demand working.catalog = none) (hf : f working = .ok (content, answer)) :
    Leads standing (write c resource demand f) db (.ok answer)
      ⟨committed, some (c, content), clock, next⟩ := by
  rw [← standing_updated_inside h content]
  rw [← view_inside h] at hmet hf
  exact write_leads (lockedFor_inside h) hmet hf

theorem read_leads (query : Content δ → Except GuardError α) (hmet : demand (db.catalog c) = none) :
    Leads standing (read c demand query) db (query (db.view c)) db.standing := by
  refine (compile_leads hmet).bind fun db' h' => ?_
  rw [catalog, ← view_congr h'] at hmet
  refine (recheck_leads hmet).bind fun db'' h'' => ?_
  have hsame := h''.trans h'
  rw [← view_congr hsame]
  exact ⟨rfl, hsame⟩

/-! ## Status tables -/

section StatusTables

variable {table : StatusTable} {rows : List StatusRow}

/-- A registration where nobody is in a transaction commits by itself. -/
theorem register_free (h : db.standing = ⟨committed, none, clock, next⟩)
    (hrows : committed.Holds table rows) (c : ConnectionId) (operation : String) :
    Leads standing (register c table operation) db (.ok ())
      ⟨committed.withRows table.name (registered operation clock.now.micros rows), none,
        clock.advanced, next⟩ := by
  refine (now_leads h).bind fun db' h' => ?_
  exact write_free h' c hrows.registers (by rw [hrows.getD])

theorem register_locked (h : db.standing = ⟨committed, some (w, working), clock, next⟩)
    (hne : w ≠ c) (hrows : committed.Holds table rows) (operation : String) :
    Leads standing (register c table operation) db (.error (.lockConflict operation))
      ⟨committed, some (w, working), clock.advanced, next⟩ := by
  refine (now_leads h).bind fun db' h' => ?_
  exact write_locked h' hne hrows.registers

theorem lookAt_inside (h : db.standing = ⟨committed, some (c, working), clock, next⟩)
    (hrows : working.Holds table rows) (operation : String) :
    Leads standing (lookAt c table operation) db (completion operation rows)
      ⟨committed, some (c, working), clock, next⟩ := by
  have hmet : Demand.table table.name (Demand.readAt "SELECT " "completed_at"
      (" FROM " ++ table.quoted ++ " WHERE operation_id = ?1")) (db.catalog c) = none := by
    rw [catalog, view_inside h]
    exact hrows.looks _ _
  have hread := read_leads (fun content =>
    completion operation ((content.rows? table.name).getD [])) hmet
  rwa [view_inside h, hrows.getD, h] at hread

theorem mark_inside (h : db.standing = ⟨committed, some (c, working), clock, next⟩)
    (hrows : working.Holds table rows) (operation : String) :
    Leads standing (mark c table operation) db (.ok ())
      ⟨committed, some (c, working.withRows table.name (marked operation clock.now.micros rows)),
        clock.advanced, next⟩ := by
  refine (now_leads h).bind fun db' h' => ?_
  exact write_inside h' hrows.marks (by rw [hrows.getD])

theorem purge_free (h : db.standing = ⟨committed, none, clock, next⟩)
    (hrows : committed.Holds table rows) (c : ConnectionId) (cutoff : Time.Instant) :
    Leads standing (purge c table cutoff) db (.ok (rows.countP (isStale cutoff.micros)))
      ⟨committed.withRows table.name (rows.filter fun row => !isStale cutoff.micros row), none,
        clock, next⟩ :=
  write_free h c (hrows.purges _ _) (by rw [hrows.getD])

theorem purge_locked (h : db.standing = ⟨committed, some (w, working), clock, next⟩)
    (hne : w ≠ c) (hrows : committed.Holds table rows) (cutoff : Time.Instant) :
    Leads standing (purge c table cutoff) db (.error (.lockConflict table.name))
      ⟨committed, some (w, working), clock, next⟩ :=
  write_locked h hne (hrows.purges _ _)

theorem seesTable_cases (db : Database δ) (c : ConnectionId) (table : String) :
    ∃ seen, Leads standing (seesTable c table) db seen db.standing ∧
      (seen = true → (db.catalog c).has table = true) := by
  by_cases hknown : (db.knownTo c).has table = true
  · refine ⟨(db.catalog c).has table, ?_, id⟩
    constructor <;> simp [seesTable, hknown, refreshed, standing_informed]
  · refine ⟨false, ?_, by simp⟩
    constructor <;> simp [seesTable, hknown, standing_informed]

theorem createTable_of_plain (hname : Catalog.isReserved table.name = false) :
    createTable (δ := δ) c table = seesTable c table.name >>= fun seen =>
      if seen then pure (.ok ()) else change c table.name (fun _ => none) fun content =>
        if content.catalog.has table.name then .ok (content, ())
        else .ok (content.withTable table.name, ()) := by
  simp [createTable, hname]

/-- Where nobody is in a transaction, the table is there afterwards. -/
theorem createTable_free (h : db.standing = ⟨committed, none, clock, next⟩) (c : ConnectionId)
    (hname : Catalog.isReserved table.name = false) :
    Leads standing (createTable c table) db (.ok ())
      ⟨if committed.catalog.has table.name then committed else committed.withTable table.name,
        none, clock, next⟩ := by
  obtain ⟨seen, hseen, hhas⟩ := seesTable_cases db c table.name
  rw [catalog, view_free h] at hhas
  rw [createTable_of_plain hname]
  refine hseen.bind fun db' h' => ?_
  have hsame := h'.trans h
  -- A connection that sees the table is right; one that does not looks again with the lock.
  cases seen with
  | true => exact (Leads.pure hsame _).mono (by simp [hhas])
  | false =>
    rw [← standing_updated_free hsame c]
    rw [if_neg Bool.false_ne_true]
    refine change_leads (lockedFor_free hsame c) rfl ?_
    rw [view_free hsame]
    split <;> rfl

/-- Where somebody else is in a transaction, nothing is created: the table is there, or the answer
is an error. -/
theorem createTable_locked (h : db.standing = ⟨committed, some (w, working), clock, next⟩)
    (hne : w ≠ c) (hname : Catalog.isReserved table.name = false) :
    ∃ answer, (answer = .ok () → committed.catalog.has table.name = true) ∧
      Leads standing (createTable c table) db answer
        ⟨committed, some (w, working), clock, next⟩ := by
  obtain ⟨seen, hseen, hhas⟩ := seesTable_cases db c table.name
  rw [catalog, view_locked h hne] at hhas
  rw [createTable_of_plain hname]
  -- A connection that does not see the table needs the lock, which it does not get.
  cases seen with
  | true => exact ⟨_, fun _ => hhas rfl, hseen.bind fun db' h' => .pure (h'.trans h) _⟩
  | false =>
    refine ⟨.error (.lockConflict table.name), nofun, hseen.bind fun db' h' => ?_⟩
    rw [if_neg Bool.false_ne_true]
    exact change_locked (h'.trans h) hne

/-- A name that is kept for the database's own tables is refused. -/
theorem createTable_reserved (hname : Catalog.isReserved table.name = true) (db : Database δ)
    (c : ConnectionId) :
    Leads standing (createTable c table) db
      (.error (.database (Catalog.reservedName table.name))) db.standing := by
  constructor <;> simp [createTable, hname, failure]

end StatusTables

/-! ## Statements of users -/

section Keeps

variable {β : Type} {look : Database δ → β}
  (hinformed : ∀ (db : Database δ) known, look (db.informed c known) = look db)

include hinformed

/-- What a look at the catalog does not change. -/
theorem compile_keeps_of (demand : Demand) : Keeps look (compile c demand) := by
  intro db
  cases hknown : demand (db.knownTo c) <;> simp [compile, hknown, refreshed, hinformed]

theorem read_keeps_of (demand : Demand) (query : Content δ → Except GuardError α) :
    Keeps look (read c demand query) := by
  refine (compile_keeps_of hinformed demand).bind fun missing => ?_
  cases missing with
  | some message => exact .pure _
  | none =>
    have hrecheck : Keeps look (recheck c demand) := fun db => hinformed db _
    refine hrecheck.bind fun missing => ?_
    cases missing with
    | some message => exact .pure _
    | none => exact fun db => rfl

theorem prepare_keeps_of (script : Script δ) : Keeps look (prepare c script) := by
  -- By induction on the text: what follows the first statement is compiled as well.
  induction script with
  | nil => exact .pure _
  | cons head rest ih =>
    match head with
    | .error message => exact .pure _
    | .ok statement =>
      refine (compile_keeps_of hinformed statement.demand).bind fun missing => ?_
      cases missing with
      | some message => exact .pure _
      | none =>
        cases rest with
        | nil => exact .pure _
        | cons second rest =>
          refine ih.bind fun answer => ?_
          cases answer <;> exact .pure _

end Keeps

theorem compile_keeps (c : ConnectionId) (demand : Demand) :
    Keeps (standing (δ := δ)) (compile c demand) :=
  compile_keeps_of (standing_informed · c) demand

theorem read_keeps (c : ConnectionId) (demand : Demand) (query : Content δ → Except GuardError α) :
    Keeps standing (read c demand query) :=
  read_keeps_of (standing_informed · c) demand query

theorem prepare_keeps (c : ConnectionId) (script : Script δ) :
    Keeps standing (prepare c script) :=
  prepare_keeps_of (standing_informed · c) script

/-- What compiles is the one statement of the text. -/
theorem prepare_ok {script : Script δ} {statement : Statement δ}
    (hok : ((prepare c script).run db).run.1 = .ok statement) : script = [.ok statement] := by
  match script with
  | [] => simp [prepare] at hok
  | .error message :: rest => simp [prepare] at hok
  | .ok first :: rest =>
    obtain ⟨⟨missing, db'⟩, hcompile⟩ : ∃ p, ((compile c first.demand).run db).run = p := ⟨_, rfl⟩
    cases missing with
    | some message => simp [prepare, hcompile] at hok
    | none =>
      cases rest with
      | nil =>
        have hsame : first = statement := by simpa [prepare, hcompile] using hok
        rw [hsame]
      -- Whatever the second statement compiles to, the answer is an error.
      | cons second rest =>
        obtain ⟨⟨answer, db''⟩, hrest⟩ : ∃ p, ((prepare c (second :: rest)).run db').run = p :=
          ⟨_, rfl⟩
        rw [prepare] at hok
        cases answer <;> simp [hcompile, hrest] at hok

/-- Where nobody else is in a transaction, the catalog keeps a statement from being run, or the
statement has its effect. -/
theorem exclusively_ends {τ : Type} {look : Database δ → τ}
    {effect : DatabaseM δ (Except GuardError α)} {post : Except GuardError α → τ → Prop}
    (hfree : db.lockedFor c = false)
    (hfailed : ∀ message, post (.error (.database message)) (look (db.refreshed c)))
    (heffect : Ends look effect (db.refreshed c) post) :
    Ends look (exclusively c resource demand effect) db post := by
  cases hmissing : demand (db.catalog c) with
  | some message =>
    simpa [Ends, exclusively, hfree, recheck, hmissing, failure] using hfailed message
  | none => simpa [Ends, exclusively, hfree, recheck, hmissing] using heffect

/-- A change of what a connection in a transaction sees stays in the transaction. -/
theorem change_inside (h : db.standing = ⟨committed, some (c, working), clock, next⟩)
    (resource : String) (demand : Demand) (f : Content δ → Except GuardError (Content δ × α)) :
    Ends standing (change c resource demand f) db fun _ after =>
      ∃ content, after = ⟨committed, some (c, content), clock, next⟩ := by
  have hrefreshed : (db.refreshed c).standing = ⟨committed, some (c, working), clock, next⟩ := h
  refine exclusively_ends (lockedFor_inside h) (fun _ => ⟨working, h⟩) ?_
  cases hf : f ((db.refreshed c).view c) with
  | error error => exact ⟨working, by simp [hf, hrefreshed]⟩
  | ok result =>
    have hupdated := standing_updated_inside hrefreshed result.1
    exact ⟨result.1, by simp [hf, changed, standing_informed, hupdated]⟩

theorem write_stays (h : db.standing = ⟨committed, some (c, working), clock, next⟩)
    (resource : String) (demand : Demand) (f : Content δ → Except GuardError (Content δ × α)) :
    Ends standing (write c resource demand f) db fun _ after =>
      ∃ content, after = ⟨committed, some (c, content), clock, next⟩ := by
  obtain ⟨missing, hmissing⟩ := (compile_keeps c demand).leads db
  refine hmissing.ends_bind fun db' h' => ?_
  cases missing with
  | some message => exact ⟨working, h'.trans h⟩
  | none => exact change_inside (h'.trans h) resource demand f

/-- A registration in a transaction that is open already. -/
theorem register_stays (h : db.standing = ⟨committed, some (c, working), clock, next⟩)
    (table : StatusTable) (operation : String) :
    Ends standing (register c table operation) db fun _ after =>
      ∃ content, after = ⟨committed, some (c, content), clock.advanced, next⟩ :=
  (now_leads h).ends_bind fun _ h' => write_stays h' _ _ _

theorem purge_stays (h : db.standing = ⟨committed, some (c, working), clock, next⟩)
    (table : StatusTable) (cutoff : Time.Instant) :
    Ends standing (purge c table cutoff) db fun _ after =>
      ∃ content, after = ⟨committed, some (c, content), clock, next⟩ :=
  write_stays h _ _ _

/-- What a text makes of the working copy of a transaction, by its answer: the transaction goes on
with some content, or the text takes it along as it fails. -/
inductive Ran (script : Script δ) (working : Content δ) :
    Except GuardError Nat → Option (Content δ) → Prop
  | kept (answer : Except GuardError Nat) : Ran script working answer (some working)
  | left {statement : Statement δ} {content : Content δ} (hmem : .ok statement ∈ script)
      (hcontent : (statement.run working).content? = some content) :
      Ran script working (statement.run working).report (some content)
  | taken {statement : Statement δ} {message : String} (hmem : .ok statement ∈ script)
      (hrun : statement.run working = .rollback message) :
      Ran script working (.error (.database message)) none

/-- A statement inside a transaction has run, or has failed before. -/
theorem execute_inside (h : db.standing = ⟨committed, some (c, working), clock, next⟩)
    (script : Script δ) :
    Ends standing (execute c script) db fun answer after =>
      ∃ left, Ran script working answer left ∧
        after = ⟨committed, left.map (c, ·), clock, next⟩ := by
  obtain ⟨prepared, hprepared⟩ := (prepare_keeps c script).leads db
  have hscript := hprepared.answers
  refine hprepared.ends_bind fun db' h' => ?_
  cases prepared with
  | error message => exact ⟨some working, .kept _, h'.trans h⟩
  | ok statement =>
    have hmem : .ok statement ∈ script := by
      rw [prepare_ok hscript]
      exact List.mem_singleton_self _
    dsimp only
    -- A statement that only reads leaves the working copy as it is.
    by_cases hwrites : statement.writes = true
    · rw [if_pos hwrites]
      have hstanding : (db'.refreshed c).standing = ⟨committed, some (c, working), clock, next⟩ :=
        h'.trans h
      have hupdated (content : Content δ) : ((db'.refreshed c).changed c content).standing =
          ⟨committed, some (c, content), clock, next⟩ := standing_updated_inside hstanding content
      refine exclusively_ends (lockedFor_inside (h'.trans h))
        (fun _ => ⟨some working, .kept _, hstanding⟩) ?_
      unfold Ends
      simp only [StateT.run_bind, StateT.run_get, pure_bind, view_inside hstanding]
      cases hrun : statement.run working with
      | done content count =>
        refine ⟨some content, ?_, hupdated content⟩
        have hran := Ran.left hmem (congrArg Statement.Outcome.content? hrun)
        rwa [hrun] at hran
      | abort message => exact ⟨some working, .kept _, hstanding⟩
      | fail message content =>
        refine ⟨some content, ?_, hupdated content⟩
        have hran := Ran.left hmem (congrArg Statement.Outcome.content? hrun)
        rwa [hrun] at hran
      | rollback message => exact ⟨none, .taken hmem hrun, standing_abandoned hstanding⟩
    · rw [if_neg hwrites]
      exact ⟨some working, .kept _, (read_keeps c _ _ db').trans (h'.trans h)⟩

/-- A statement of a connection while somebody else is in a transaction changes nothing. -/
theorem execute_locked (h : db.standing = ⟨committed, some (w, working), clock, next⟩) (hne : w ≠ c)
    (script : Script δ) :
    Ends standing (execute c script) db fun _ after =>
      after = ⟨committed, some (w, working), clock, next⟩ := by
  obtain ⟨prepared, hprepared⟩ := (prepare_keeps c script).leads db
  refine hprepared.ends_bind fun db' h' => ?_
  cases prepared with
  | error message => exact h'.trans h
  | ok statement =>
    dsimp only
    by_cases hwrites : statement.writes = true
    · rw [if_pos hwrites]
      exact (exclusively_locked (h'.trans h) hne).ends rfl
    · rw [if_neg hwrites]
      exact (read_keeps c _ _ db').trans (h'.trans h)

end Database

end RetrySafe
