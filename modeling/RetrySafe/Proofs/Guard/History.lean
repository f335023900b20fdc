import RetrySafe.Guard.Basic
import RetrySafe.Proofs.Target.Primitives
import RetrySafe.Proofs.Time.Order

/-!
# Histories of guarded calls

A history is a sequence of guarded calls and cleanups on connections of one database. Beside the
database a record is kept of it that the program does not see: every call leaves an entry with what
it found, whether it invoked its action, and what it left behind. An action is anything that runs
statements and makes guarded calls of its own, and goes on as it likes after each of their answers.

## Main definitions

* `Setup` — a strict guard and the connections it is used with.
* `Action`, `Action.IsSparing` — actions, and those that leave the status table alone.
* `Entry`, `World` — what a call did, and a database with the record of its calls.
* `Setup.called`, `Setup.history` — a guarded call and a history that keep the record.
* `Turn` — what a call can do where nobody is in a transaction.

## Main results

* `called_locked` — a call during somebody else's transaction is refused.
* `called_busy` — so is one in a transaction of its connection that could not be ended.
* `called_free` — any other call takes a turn.
* `cleanup_free`, `cleanup_busy` — what a cleanup deletes.
-/

namespace RetrySafe

open Time (Clock Duration Instant)

/-! ## The record of a history -/

/-- What a guarded call found, did and left behind. What is stored stands without the rows of the
status table. -/
structure Entry (δ : Type) where
  operation : String
  /-- The clock when the call began. -/
  began : Instant
  /-- Another connection was in a transaction when the call began. -/
  wasLocked : Bool
  /-- What the connection saw before and after the action, if the action was invoked. -/
  invocation : Option (Content δ × Content δ)
  result : Except GuardError Execution
  /-- What was committed before the call. -/
  before : Content δ
  /-- What was committed after the call. -/
  after : Content δ
  /-- The row of the operation after the call. -/
  row : Option StatusRow

namespace Entry

variable {δ : Type}

/-- The call reported that its action was applied. -/
def IsApplied (entry : Entry δ) : Prop := entry.result = .ok .applied

instance (entry : Entry δ) : Decidable entry.IsApplied :=
  match h : entry.result with
  | .ok .applied => isTrue h
  | .ok .alreadyApplied => isFalse fun h' => by rw [IsApplied, h] at h'; cases h'
  | .error _ => isFalse fun h' => by rw [IsApplied, h] at h'; cases h'

/-- The call was refused, and did nothing. During somebody else's transaction it was told to
wait. -/
structure IsRefused (entry : Entry δ) (committed : Content δ) : Prop where
  invocation : entry.invocation = none
  result : ∃ error, entry.result = .error error
  locked : entry.wasLocked = true → entry.result = .error (.lockConflict entry.operation)
  before : entry.before = committed
  after : entry.after = committed

/-- The action was not invoked, and the call said so. -/
structure IsIdle (entry : Entry δ) : Prop where
  invocation : entry.invocation = none
  result : entry.result = .ok .alreadyApplied ∨ ∃ error, entry.result = .error error

theorem IsIdle.not_isApplied {entry : Entry δ} (h : entry.IsIdle) : ¬entry.IsApplied := by
  intro happlied
  rcases h.result with hresult | ⟨error, hresult⟩ <;>
    · rw [IsApplied, hresult] at happlied
      cases happlied

namespace IsRefused

variable {entry : Entry δ} {committed : Content δ}

theorem isIdle (h : entry.IsRefused committed) : entry.IsIdle :=
  ⟨h.invocation, .inr h.result⟩

theorem not_isApplied (h : entry.IsRefused committed) : ¬entry.IsApplied :=
  h.isIdle.not_isApplied

end IsRefused

end Entry

/-- What a history leaves beside the database: the warnings, what the connection of the running call
saw before and after its action, and the entries of the calls that have ended. -/
structure Record (δ : Type) where
  journal : Journal := {}
  invocation : Option (Content δ × Content δ) := none
  log : List (Entry δ) := []

/-- A database with the record of a history. -/
structure World (δ : Type) where
  database : Database δ
  record : Record δ := {}

/-- What happens to a database, on record. -/
abbrev WorldM (δ : Type) := StateM (World δ)

namespace World

variable {δ : Type}

instance : MonadStateOf (Database δ) (WorldM δ) where
  get := fun w => (w.database, w)
  set db := fun w => ((), { w with database := db })
  modifyGet f := fun w => ((f w.database).1, { w with database := (f w.database).2 })

instance : MonadWarn (WorldM δ) where
  warn message := fun w => ((), { w with record.journal := ⟨message :: w.record.journal.entries⟩ })

/-- A world by the standing of its database and its record. -/
def look (w : World δ) : Standing δ × Record δ := (w.database.standing, w.record)

variable {α : Type} {action : DatabaseM δ α} {w : World δ} {standing : Standing δ}
  {record : Record δ}

theorem perform_leads {answer : α} {after : Standing δ} (h : look w = (standing, record))
    (hleads : ∀ db : Database δ, db.standing = standing →
      Leads Database.standing action db answer after) :
    Leads look (Database.perform action : WorldM δ α) w answer (after, record) := by
  obtain ⟨hstanding, hrecord⟩ := Prod.mk.inj h
  have hdatabase := hleads w.database hstanding
  exact ⟨hdatabase.answers, Prod.ext hdatabase.leaves hrecord⟩

theorem perform_ends {post : α → Standing δ → Prop} (h : look w = (standing, record))
    (hends : ∀ db : Database δ, db.standing = standing →
      Ends Database.standing action db post) :
    Ends look (Database.perform action : WorldM δ α) w fun answer after =>
      post answer after.1 ∧ after.2 = record := by
  obtain ⟨hstanding, hrecord⟩ := Prod.mk.inj h
  exact ⟨hends w.database hstanding, hrecord⟩

theorem warn_leads (h : look w = (standing, record)) (message : String) :
    Leads look (warn message : WorldM δ Unit) w ()
      (standing, { record with journal := ⟨message :: record.journal.entries⟩ }) := by
  obtain ⟨rfl, rfl⟩ := Prod.mk.inj h
  exact ⟨rfl, rfl⟩

theorem notRecorded_leads (h : look w = (standing, record)) (operation : String)
    (cause : GuardError) :
    Leads look (Guard.notRecorded operation cause : WorldM δ GuardError) w
      (.notRecorded operation cause.message)
      (standing, { record with
        journal :=
          ⟨"Guarded action applied but its completion was not recorded" ::
            record.journal.entries⟩ }) :=
  (warn_leads h _).bind fun _ h' => .pure h' _

end World

/-! ## Guarded calls -/

/-- What an action does next: end, run a statement on some connection, or make a guarded call on
some connection. It goes on by the answer. -/
inductive Action
  | finish (result : Except GuardError Unit)
  | run (on : ConnectionId) (statement : String) (next : Except GuardError Nat → Action)
  | call (on : ConnectionId) (operation : String) (inner : Action)
      (next : Except GuardError Execution → Action)

/-- A strict guard, and the connections it is used with. -/
structure Setup (δ : Type) where
  language : String → Script δ
  capabilities : Capabilities := {}
  table : StatusTable
  retention : Duration

/-- A guarded call from outside. -/
structure Call where
  connection : ConnectionId
  operation : String
  action : Action

/-- What happens in a history. -/
inductive Event
  | call (call : Call)
  | cleanup (connection : ConnectionId)

variable {δ : Type}

open World

namespace Setup

/-- The guard. -/
def guard (setup : Setup δ) : Guard := .strict setup.table setup.retention

/-- What is stored besides the rows of the status table. -/
def beside (setup : Setup δ) (content : Content δ) : Content δ :=
  content.withRows setup.table.name []

theorem beside_withRows (setup : Setup δ) (content : Content δ) (rows : List StatusRow) :
    setup.beside (content.withRows setup.table.name rows) = setup.beside content :=
  Content.withRows_withRows content _ _ _

/-- An action that leaves on record what its connection saw before it and after it. -/
def watched (setup : Setup δ) (c : ConnectionId) (action : WorldM δ (Except GuardError Unit)) :
    WorldM δ (Except GuardError Unit) := do
  let start ← getThe (World δ)
  let result ← action
  modifyThe (World δ) fun stop =>
    { stop with
      record.invocation :=
        some (setup.beside (start.database.view c), setup.beside (stop.database.view c)) }
  return result

theorem watched_ends {setup : Setup δ} {c : ConnectionId} {w : World δ}
    {action : WorldM δ (Except GuardError Unit)}
    {post : Except GuardError Unit → Standing δ × Record δ → Prop}
    (h : Ends look action w fun answer stop => ∀ w', look w' = stop →
      post answer (stop.1,
        { stop.2 with
          invocation := some (setup.beside (w.database.view c),
            setup.beside (w'.database.view c)) })) :
    Ends look (setup.watched c action) w post :=
  h _ rfl

variable [HasTables δ]

/-- A connection as a target. -/
def target (setup : Setup δ) (c : ConnectionId) : Target (WorldM δ) :=
  Database.target setup.language setup.capabilities c

/-- A guarded call that leaves an entry on record. -/
def called (setup : Setup δ) (c : ConnectionId) (operation : String)
    (action : WorldM δ (Except GuardError Unit)) : WorldM δ (Except GuardError Execution) := do
  let start ← getThe (World δ)
  set { start with record.invocation := none }
  let result ← setup.guard.execute (setup.target c) operation (setup.watched c action)
  modifyThe (World δ) fun stop =>
    { stop with
      record.invocation := start.record.invocation
      record.log := stop.record.log ++
        [{ operation
           began := start.database.clock.now
           wasLocked := start.database.lockedFor c
           invocation := stop.record.invocation
           result
           before := setup.beside start.database.committed
           after := setup.beside stop.database.committed
           row := rowOf operation
            ((stop.database.committed.rows? setup.table.name).getD []) }] }
  return result

/-- A text leaves the rows of the status table as they are, also where it fails. -/
def Spares (setup : Setup δ) (text : String) : Prop :=
  ∀ statement, .ok statement ∈ setup.language text →
    ∀ content rows content', content.Holds setup.table rows →
      (statement.run content).content? = some content' → content'.Holds setup.table rows

/-- A text does not take its transaction along when it fails. -/
def Stays (setup : Setup δ) (text : String) : Prop :=
  ∀ statement, .ok statement ∈ setup.language text →
    ∀ content message, statement.run content ≠ .rollback message

end Setup

variable [HasTables δ]

namespace Action

/-- Do what an action does. -/
def perform (setup : Setup δ) : Action → WorldM δ (Except GuardError Unit)
  | finish result => return result
  | run on statement next => do
    let answer ← (setup.target on).execute statement
    (next answer).perform setup
  | call on operation inner next => do
    let answer ← setup.called on operation (inner.perform setup)
    (next answer).perform setup

/-- An action does not go on where a statement has failed. -/
def GivesUp (next : Except GuardError Nat → Action) : Prop :=
  ∀ error, ∃ error', next (.error error) = .finish (.error error')

/-- An action under a call of a connection leaves the status table alone, makes guarded calls on
other connections only, and does not control transactions. To go on after a statement that took the
transaction along would be that: what came next would be committed at once. -/
def IsSparing (setup : Setup δ) (c : ConnectionId) : Action → Prop
  | finish _ => True
  | run on statement next =>
    setup.Spares statement ∧ (on = c → setup.Stays statement ∨ GivesUp next) ∧
      ∀ answer, (next answer).IsSparing setup c
  | call on _ inner next =>
    on ≠ c ∧ inner.IsSparing setup on ∧ ∀ answer, (next answer).IsSparing setup c

end Action

namespace Setup

/-- Let something happen. -/
def happen (setup : Setup δ) : Event → WorldM δ Unit
  | .call call => do
    let _ ← setup.called call.connection call.operation (call.action.perform setup)
  | .cleanup c => do
    let _ ← (setup.guard.cleanup (setup.target c)).run

/-- A history: one event after the other. -/
def history (setup : Setup δ) : List Event → WorldM δ Unit
  | [] => return
  | event :: events => do
    setup.happen event
    setup.history events

end Setup

/-! ## What calls do -/

namespace Setup

variable {setup : Setup δ} {w : World δ} {c o : ConnectionId} {operation : String}
  {committed working : Content δ} {clock : Clock} {next : ConnectionId} {record : Record δ}
  {rows : List StatusRow}

/-- What a call that ends adds to the record. -/
def recorded (setup : Setup δ) (operation : String) (isLocked : Bool)
    (start : Standing δ × Record δ) (result : Except GuardError Execution)
    (stop : Standing δ × Record δ) : Standing δ × Record δ :=
  (stop.1,
    { stop.2 with
      invocation := start.2.invocation
      log := stop.2.log ++
        [{ operation
           began := start.1.clock.now
           wasLocked := isLocked
           invocation := stop.2.invocation
           result
           before := setup.beside start.1.committed
           after := setup.beside stop.1.committed
           row := rowOf operation ((stop.1.committed.rows? setup.table.name).getD []) }] })

theorem called_ends {action : WorldM δ (Except GuardError Unit)}
    {post : Except GuardError Execution → Standing δ × Record δ → Prop}
    {start : Standing δ × Record δ} (h : look w = start)
    (hends : ∀ w', look w' = (start.1, { start.2 with invocation := none }) →
      Ends look (Guard.executeStrict (setup.target c) setup.table operation
        (setup.watched c action)) w' fun result stop =>
          post result (setup.recorded operation (w.database.lockedFor c) start result stop)) :
    Ends look (setup.called c operation action) w post := by
  subst h
  exact hends _ rfl

/-- A call during somebody else's transaction is refused. -/
theorem called_locked (h : look w = (⟨committed, some (o, working), clock, next⟩, record))
    (hne : o ≠ c) (hrows : committed.Holds setup.table rows) (operation : String)
    (action : WorldM δ (Except GuardError Unit)) :
    Ends look (setup.called c operation action) w fun _ stop =>
      ∃ entry : Entry δ, entry.IsRefused (setup.beside committed) ∧
        stop = (⟨committed, some (o, working), clock.advanced, next⟩,
          { record with log := record.log ++ [entry] }) := by
  have hlocked := Database.lockedFor_locked (Prod.mk.inj h).1 hne
  refine called_ends h fun w' h' => ?_
  refine (perform_leads h' fun db hdb =>
    Database.register_locked hdb hne hrows operation).ends_bind fun w'' h'' => ?_
  refine (Leads.pure h'' _).ends ⟨_, ?_, rfl⟩
  exact ⟨rfl, ⟨_, rfl⟩, fun _ => rfl, rfl, rfl⟩

/-- A call in a transaction of its connection that could not be ended is refused as well. Its
registration is not committed. -/
theorem called_again (h : look w = (⟨committed, some (c, working), clock, next⟩, record))
    (operation : String) (action : WorldM δ (Except GuardError Unit)) :
    Ends look (setup.called c operation action) w fun _ stop =>
      ∃ (entry : Entry δ) (working' : Content δ), entry.IsRefused (setup.beside committed) ∧
        stop = (⟨committed, some (c, working'), clock.advanced, next⟩,
          { record with log := record.log ++ [entry] }) := by
  have hunlocked := Database.lockedFor_inside (Prod.mk.inj h).1
  have hentry (result : Except GuardError Execution) (hresult : ∃ error, result = .error error) :
      Entry.IsRefused ⟨operation, clock.now, w.database.lockedFor c, none, result,
        setup.beside committed, setup.beside committed,
        rowOf operation ((committed.rows? setup.table.name).getD [])⟩ (setup.beside committed) :=
    ⟨rfl, hresult, fun hlocked => absurd (hunlocked.symm.trans hlocked) Bool.noConfusion, rfl, rfl⟩
  refine called_ends h fun w' h' => ?_
  refine ((perform_ends h' fun db hdb =>
    Database.register_stays hdb setup.table operation).mono ?_).bind
  rintro registered ⟨_, _⟩ ⟨⟨working', rfl⟩, rfl⟩ w₁ h₁
  cases registered with
  | error error => exact (Leads.pure h₁ _).ends ⟨_, working', hentry _ ⟨_, rfl⟩, rfl⟩
  | ok =>
    refine (perform_leads h₁ fun _ hdb => Database.start_again hdb).ends_bind fun w₂ h₂ => ?_
    exact (Leads.pure h₂ _).ends ⟨_, working', hentry _ ⟨_, rfl⟩, rfl⟩

/-- Whoever is in a transaction, a call is refused until it has ended. -/
theorem called_busy (h : look w = (⟨committed, some (o, working), clock, next⟩, record))
    (hrows : committed.Holds setup.table rows) (c : ConnectionId) (operation : String)
    (action : WorldM δ (Except GuardError Unit)) :
    Ends look (setup.called c operation action) w fun _ stop =>
      ∃ (entry : Entry δ) (working' : Content δ), entry.IsRefused (setup.beside committed) ∧
        stop = (⟨committed, some (o, working'), clock.advanced, next⟩,
          { record with log := record.log ++ [entry] }) := by
  by_cases hown : o = c
  · subst hown
    exact called_again h operation action
  · refine (called_locked h hown hrows operation action).mono ?_
    rintro - _ ⟨entry, hrefused, rfl⟩
    exact ⟨entry, working, hrefused, rfl⟩

/-- What an action can do inside the transaction of its connection: change the working copy, but
not the status table, and make calls that are refused. If the transaction is gone, it fails. -/
def Inside (setup : Setup δ) (c : ConnectionId) (committed : Content δ) (rows : List StatusRow)
    (clock : Clock) (next : ConnectionId) (record : Record δ) (answer : Except GuardError Unit)
    (stop : Standing δ × Record δ) : Prop :=
  ∃ (left : Option (Content δ)) (clock' : Clock) (calls : List (Entry δ)),
    (∀ working' ∈ left, working'.Holds setup.table rows) ∧
    (left = none → ∃ error, answer = .error error) ∧ clock.Precedes clock' ∧
    (∀ entry ∈ calls, Entry.IsRefused entry (setup.beside committed)) ∧
    stop = (⟨committed, left.map (c, ·), clock', next⟩, { record with log := record.log ++ calls })

theorem Inside.after {clock' : Clock} {calls : List (Entry δ)} {answer : Except GuardError Unit}
    {stop : Standing δ × Record δ} (hclock : clock.Precedes clock')
    (hcalls : ∀ entry ∈ calls, Entry.IsRefused entry (setup.beside committed))
    (h : setup.Inside c committed rows clock' next { record with log := record.log ++ calls }
      answer stop) :
    setup.Inside c committed rows clock next record answer stop := by
  obtain ⟨left, clock'', more, hleft, hgone, hclock', hmore, hstop⟩ := h
  refine ⟨left, clock'', calls ++ more, hleft, hgone, hclock.trans hclock', ?_, ?_⟩
  · intro entry hentry
    exact (List.mem_append.mp hentry).elim (hcalls entry) (hmore entry)
  · rw [hstop, List.append_assoc]

theorem Inside.finish (left : Option (Content δ)) {answer : Except GuardError Unit}
    (hleft : ∀ working' ∈ left, working'.Holds setup.table rows)
    (hgone : left = none → ∃ error, answer = .error error)
    (h : look w = (⟨committed, left.map (c, ·), clock, next⟩, record)) :
    Ends look (pure answer : WorldM δ (Except GuardError Unit)) w
      (setup.Inside c committed rows clock next record) :=
  (Leads.pure h _).ends ⟨left, clock, [], hleft, hgone, .refl clock, by simp, by simp⟩

/-- A statement of any connection during the transaction of one. Only a statement of that one can
take the transaction along. -/
theorem execute_inside {text : String} (hspares : setup.Spares text) (on : ConnectionId)
    (hworking : working.Holds setup.table rows)
    (h : look w = (⟨committed, some (c, working), clock, next⟩, record)) :
    Ends look ((setup.target on).execute text) w fun answer stop =>
      ∃ left : Option (Content δ), (∀ working' ∈ left, working'.Holds setup.table rows) ∧
        (left = none → on = c ∧ ¬setup.Stays text ∧ ∃ error, answer = .error error) ∧
        stop = (⟨committed, left.map (c, ·), clock, next⟩, record) := by
  by_cases hon : c = on
  · subst hon
    refine (perform_ends h fun db hdb =>
      Database.execute_inside hdb (setup.language text)).mono ?_
    rintro _ ⟨_, _⟩ ⟨⟨left, hran, rfl⟩, rfl⟩
    refine ⟨left, ?_, ?_, rfl⟩
    · rintro working' hsome
      obtain rfl := Option.mem_def.mp hsome
      cases hran with
      | kept => exact hworking
      | left hmem hcontent => exact hspares _ hmem working rows working' hworking hcontent
    · rintro rfl
      cases hran with
      | taken hmem hrun => exact ⟨rfl, fun hstays => hstays _ hmem _ _ hrun, _, rfl⟩
  -- A statement of another connection finds the transaction in its way.
  · refine (perform_ends h fun db hdb =>
      Database.execute_locked hdb hon (setup.language text)).mono ?_
    rintro _ ⟨_, _⟩ ⟨rfl, rfl⟩
    exact ⟨some working, by simpa using hworking, nofun, rfl⟩

/-- A sparing action stays inside the transaction of its connection, or fails. -/
theorem perform_inside {action : Action} (hsparing : action.IsSparing setup c)
    {old : List StatusRow}
    (hcommitted : committed.Holds setup.table old) (hworking : working.Holds setup.table rows)
    (h : look w = (⟨committed, some (c, working), clock, next⟩, record)) :
    Ends look (action.perform setup) w (setup.Inside c committed rows clock next record) := by
  -- By induction on the action. The working copy, the clock and the record go on, but the rows that
  -- it holds stay the same.
  induction action generalizing w working clock record with
  | finish result => exact .finish (some working) (by simpa using hworking) nofun h
  | run on statement rest ih =>
    obtain ⟨hspares, hstays, hrest⟩ := hsparing
    refine ((execute_inside hspares on hworking h).mono ?_).bind
    rintro answer _ ⟨left, hleft, hgone, rfl⟩ w' h'
    cases left with
    | some working' => exact ih answer (hrest answer) (hleft working' rfl) h'
    -- The transaction is gone, and so the action gives up.
    | none =>
      obtain ⟨hon, hnot, error, rfl⟩ := hgone rfl
      obtain ⟨error', hgives⟩ := (hstays hon).resolve_left hnot error
      rw [hgives]
      exact .finish none (by simp) (fun _ => ⟨error', rfl⟩) h'
  | call on operation inner rest _ ih =>
    -- The inner call is on another connection, so it is refused and leaves an entry.
    obtain ⟨hne, -, hrest⟩ := hsparing
    refine ((called_locked h hne.symm hcommitted operation _).mono ?_).bind
    rintro answer _ ⟨entry, hrefused, rfl⟩ w' h'
    refine (ih answer (hrest answer) hworking h').mono fun _ _ hinside => ?_
    exact hinside.after (.advanced clock) (by simpa using hrefused)

/-- How a call can end where nobody is in a transaction. The row of the operation is registered in
any case. If the call fails, its transaction may not have ended. -/
inductive Turn (setup : Setup δ) (c : ConnectionId) (operation : String) (committed : Content δ)
    (rows : List StatusRow) (clock : Clock) (next : ConnectionId) (record : Record δ) :
    Except GuardError Execution → Standing δ × Record δ → Prop
  /-- The row says that the operation was completed. -/
  | kept (left : Option (Content δ)) (journal : Journal) {row : StatusRow}
      {result : Except GuardError Execution}
      (hrow : rowOf operation (Database.registered operation clock.now.micros rows) = some row)
      (hcompleted : row.completed ≠ none)
      (hresult : result = .ok .alreadyApplied ∨ ∃ error, result = .error error) :
      Turn setup c operation committed rows clock next record result
        (⟨committed.withRows setup.table.name
            (Database.registered operation clock.now.micros rows), left.map (c, ·),
              clock.advanced, next⟩,
          { record with journal })
  /-- The action fails, or what it did cannot be committed. -/
  | failed {row : StatusRow} {seen : Content δ} {clock' : Clock} {calls : List (Entry δ)}
      {error : GuardError} {left : Option (Content δ)} {journal : Journal}
      (hrow : rowOf operation (Database.registered operation clock.now.micros rows) = some row)
      (hcompleted : row.completed = none) (hclock : clock.advanced.Precedes clock')
      (hcalls : ∀ entry ∈ calls, Entry.IsRefused entry (setup.beside committed)) :
      Turn setup c operation committed rows clock next record (.error error)
        (⟨committed.withRows setup.table.name
            (Database.registered operation clock.now.micros rows), left.map (c, ·), clock', next⟩,
          { record with
            journal
            invocation := some (setup.beside committed, seen), log := record.log ++ calls })
  /-- The action is applied, and recorded as completed. -/
  | applied {row : StatusRow} {working : Content δ} {clock' : Clock} {calls : List (Entry δ)}
      (hrow : rowOf operation (Database.registered operation clock.now.micros rows) = some row)
      (hcompleted : row.completed = none) (hclock : clock.advanced.Precedes clock')
      (hworking : working.Holds setup.table (Database.registered operation clock.now.micros rows))
      (hcalls : ∀ entry ∈ calls, Entry.IsRefused entry (setup.beside committed)) :
      Turn setup c operation committed rows clock next record (.ok .applied)
        (⟨working.withRows setup.table.name (Database.marked operation clock'.now.micros
            (Database.registered operation clock.now.micros rows)), none, clock'.advanced, next⟩,
          { record with
            invocation := some (setup.beside committed, setup.beside working)
            log := record.log ++ calls })

/-- Whatever a transaction did is taken back, but it may not have ended. -/
theorem takeBack_ends (left : Option (Content δ)) (occasion : String)
    (h : look w = (⟨committed, left.map (c, ·), clock, next⟩, record)) :
    Ends look (Guard.takeBack (setup.target c) occasion) w fun _ stop =>
      ∃ (left' : Option (Content δ)) (journal : Journal),
        stop = (⟨committed, left'.map (c, ·), clock, next⟩, { record with journal }) := by
  have hback : Ends look (setup.target c).rollback w fun _ stop =>
      ∃ left' : Option (Content δ),
        stop = (⟨committed, left'.map (c, ·), clock, next⟩, record) := by
    cases left with
    | some working =>
      refine (perform_ends h fun _ => Database.rollback_inside).mono ?_
      rintro _ stop ⟨⟨left', hleft'⟩, hrecord⟩
      exact ⟨left', Prod.ext hleft' hrecord⟩
    | none => exact (perform_leads h fun _ hdb => Database.rollback_free hdb c).ends ⟨none, rfl⟩
  refine (hback.mono ?_).bind
  rintro answer _ ⟨left', rfl⟩ w' h'
  cases answer with
  | ok => exact (Leads.pure h' ()).ends ⟨left', record.journal, rfl⟩
  -- A rollback that fails leaves a warning.
  | error error => exact (warn_leads h' _).ends ⟨left', _, rfl⟩

/-- A transaction is committed, or the call fails and what it did is taken back. -/
theorem conclude_inside (execution : Execution)
    (h : look w = (⟨committed, some (c, working), clock, next⟩, record)) :
    Ends look (Guard.conclude (setup.target c) operation execution) w fun result stop =>
      result = .ok execution ∧ stop = (⟨working, none, clock, next⟩, record) ∨
        (∃ error, result = .error error) ∧ ∃ (left : Option (Content δ)) (journal : Journal),
          stop = (⟨committed, left.map (c, ·), clock, next⟩, { record with journal }) := by
  refine ((perform_ends h fun _ => Database.commit_inside).mono ?_).bind
  rintro answer ⟨_, record⟩ ⟨⟨rfl, rfl⟩ | ⟨⟨error, rfl⟩, left, rfl⟩, rfl⟩ w₁ h₁
  · exact (Leads.pure h₁ _).ends (.inl ⟨rfl, rfl⟩)
  · refine ((takeBack_ends left "commit" h₁).mono ?_).bind
    rintro - _ ⟨left', journal, rfl⟩ w₂ h₂
    -- If the action may have taken effect nevertheless, the call warns of that.
    split
    · refine (notRecorded_leads h₂ operation error).ends_bind fun w₃ h₃ => ?_
      exact (Leads.pure h₃ _).ends (.inr ⟨⟨_, rfl⟩, left', _, rfl⟩)
    · exact (Leads.pure h₂ _).ends (.inr ⟨⟨_, rfl⟩, left', journal, rfl⟩)

/-- A watched action inside a transaction that has changed nothing but the status table. -/
theorem watched_inside {action : Action} (hsparing : action.IsSparing setup c)
    {old : List StatusRow} (hcommitted : committed.Holds setup.table old)
    (hworking : working.Holds setup.table rows)
    (h : look w = (⟨committed, some (c, working), clock, next⟩, record)) :
    Ends look (setup.watched c (action.perform setup)) w fun answer stop =>
      ∃ (left : Option (Content δ)) (clock' : Clock) (calls : List (Entry δ)),
        (∀ working' ∈ left, working'.Holds setup.table rows) ∧
        (left = none → ∃ error, answer = .error error) ∧ clock.Precedes clock' ∧
        (∀ entry ∈ calls, Entry.IsRefused entry (setup.beside committed)) ∧
        stop = (⟨committed, left.map (c, ·), clock', next⟩,
          { record with
            invocation := some (setup.beside working, setup.beside (left.getD committed))
            log := record.log ++ calls }) := by
  refine watched_ends ((perform_inside hsparing hcommitted hworking h).mono ?_)
  rintro answer _ ⟨left, clock', calls, hleft, hgone, hclock, hcalls, rfl⟩ w' h'
  refine ⟨left, clock', calls, hleft, hgone, hclock, hcalls, ?_⟩
  have hview : w'.database.view c = left.getD committed := by
    cases left with
    | some working' => exact Database.view_inside (Prod.mk.inj h').1
    | none => exact Database.view_free (Prod.mk.inj h').1 c
  rw [Database.view_inside (Prod.mk.inj h).1, hview]

/-- Inside the transaction the action is run and recorded unless the row says it was completed. -/
theorem runLocked_inside {action : Action} (hsparing : action.IsSparing setup c)
    {old : List StatusRow} (hcommitted : committed.Holds setup.table old)
    (hworking : working.Holds setup.table rows) {row : StatusRow}
    (hrow : rowOf operation rows = some row)
    (h : look w = (⟨committed, some (c, working), clock, next⟩, record)) :
    Ends look (Guard.runLocked (setup.target c) setup.table operation
        (setup.watched c (action.perform setup))) w fun result stop =>
      (row.completed ≠ none ∧ (result = .ok .alreadyApplied ∨ ∃ error, result = .error error) ∧
        stop = (⟨committed, some (c, working), clock, next⟩, record)) ∨
      (row.completed = none ∧ ∃ clock' calls, clock.Precedes clock' ∧
        (∀ entry ∈ calls, Entry.IsRefused entry (setup.beside committed)) ∧
        ((∃ error, result = .error error ∧ ∃ (left : Option (Content δ)) (seen : Content δ),
            stop = (⟨committed, left.map (c, ·), clock', next⟩,
              { record with
                invocation := some (setup.beside working, seen), log := record.log ++ calls })) ∨
          (result = .ok .applied ∧ ∃ working', working'.Holds setup.table rows ∧
            stop = (⟨committed, some (c, working'.withRows setup.table.name
                (Database.marked operation clock'.now.micros rows)), clock'.advanced, next⟩,
              { record with
                invocation := some (setup.beside working, setup.beside working')
                log := record.log ++ calls })))) := by
  refine (perform_leads h fun _ hdb =>
    Database.lookAt_inside hdb hworking operation).ends_bind fun w₁ h₁ => ?_
  -- What the lookup answers is known from the row.
  by_cases hcompleted : row.completed = none
  · rw [Database.completion_of_open hrow hcompleted]
    refine (watched_inside hsparing hcommitted hworking h₁).mono ?_ |>.bind
    rintro answer _ ⟨left, clock', calls, hleft, hgone, hclock, hcalls, rfl⟩ w₂ h₂
    cases answer with
    | error error =>
      exact (Leads.pure h₂ _).ends (.inr ⟨hcompleted, clock', calls, hclock, hcalls,
        .inl ⟨error.ofAction, rfl, left, _, rfl⟩⟩)
    | ok =>
      obtain ⟨working', rfl⟩ : ∃ working', left = some working' :=
        Option.ne_none_iff_exists'.mp fun hnone => by cases (hgone hnone).choose_spec
      have hworking' := hleft working' rfl
      refine (perform_leads h₂ fun _ hdb =>
        Database.mark_inside hdb hworking' operation).ends_bind fun w₃ h₃ => ?_
      exact (Leads.pure h₃ _).ends (.inr ⟨hcompleted, clock', calls, hclock, hcalls,
        .inr ⟨rfl, working', hworking', rfl⟩⟩)
  · rcases Database.completion_of_completed hrow hcompleted with ⟨t, ht⟩ | ⟨error, herror⟩
    · rw [ht]
      exact (Leads.pure h₁ _).ends (.inl ⟨hcompleted, .inl rfl, rfl⟩)
    · rw [herror]
      exact (Leads.pure h₁ _).ends (.inl ⟨hcompleted, .inr ⟨error, rfl⟩, rfl⟩)

/-- A call where nobody is in a transaction takes a turn. -/
theorem executeStrict_free {action : Action} (hsparing : action.IsSparing setup c)
    (hrows : committed.Holds setup.table rows)
    (h : look w = (⟨committed, none, clock, next⟩, record)) (operation : String) :
    Ends look (Guard.executeStrict (setup.target c) setup.table operation
        (setup.watched c (action.perform setup))) w
      (setup.Turn c operation committed rows clock next record) := by
  have hrow : rowOf operation (Database.registered operation clock.now.micros rows) =
      some ((rowOf operation rows).getD ⟨operation, clock.now.micros, none⟩) :=
    Database.rowOf_registered_self _
  have hregistered := hrows.withRows (Database.registered operation clock.now.micros rows)
  -- The registration commits by itself, and the transaction begins with the registered row.
  refine (perform_leads h fun _ hdb =>
    Database.register_free hdb hrows c operation).ends_bind fun w₁ h₁ => ?_
  refine (perform_leads h₁ fun _ hdb => Database.start_free hdb c).ends_bind fun w₂ h₂ => ?_
  refine ((runLocked_inside hsparing hregistered hregistered hrow h₂).mono ?_).bind
  rintro result _ (⟨hcompleted, hresult, rfl⟩ | ⟨hopen, clock', calls, hclock, hcalls,
    ⟨error, rfl, left, seen, rfl⟩ | ⟨rfl, working, hworking, rfl⟩⟩) w₃ h₃
  -- Nothing was done to the working copy, so it does not matter how the transaction ends.
  · rcases hresult with rfl | ⟨error, rfl⟩
    · refine (conclude_inside _ h₃).mono ?_
      rintro _ _ (⟨rfl, rfl⟩ | ⟨herror, left, journal, rfl⟩)
      · exact .kept none record.journal hrow hcompleted (.inl rfl)
      · exact .kept left journal hrow hcompleted (.inr herror)
    · refine ((takeBack_ends (some _) "guarded action" h₃).mono ?_).bind
      rintro - _ ⟨left, journal, rfl⟩ w₄ h₄
      exact (Leads.pure h₄ _).ends (.kept left journal hrow hcompleted (.inr ⟨_, rfl⟩))
  · rw [beside_withRows] at hcalls h₃
    refine ((takeBack_ends left "guarded action" h₃).mono ?_).bind
    rintro - _ ⟨left', journal, rfl⟩ w₄ h₄
    exact (Leads.pure h₄ _).ends (.failed hrow hopen hclock hcalls)
  · rw [beside_withRows] at hcalls h₃
    refine (conclude_inside _ h₃).mono ?_
    rintro _ _ (⟨rfl, rfl⟩ | ⟨⟨error, rfl⟩, left, journal, rfl⟩)
    · exact .applied hrow hopen hclock hworking hcalls
    · exact .failed hrow hopen (hclock.trans (.advanced clock')) hcalls

/-- A call where nobody is in a transaction takes a turn, and an entry is left of it. -/
theorem called_free {action : Action} (hsparing : action.IsSparing setup c)
    (hrows : committed.Holds setup.table rows)
    (h : look w = (⟨committed, none, clock, next⟩, record)) (operation : String) :
    Ends look (setup.called c operation (action.perform setup)) w fun result stop =>
      ∃ stop', setup.Turn c operation committed rows clock next { record with invocation := none }
          result stop' ∧
        stop = setup.recorded operation false (⟨committed, none, clock, next⟩, record) result
          stop' := by
  have hunlocked := Database.lockedFor_free (Prod.mk.inj h).1 c
  refine called_ends h fun w' h' => (executeStrict_free hsparing hrows h' operation).mono ?_
  intro result stop' hturn
  exact ⟨stop', hturn, by rw [hunlocked]⟩

end Setup

namespace Setup

variable {setup : Setup δ} {w : World δ} {committed working : Content δ} {clock : Clock}
  {next o : ConnectionId} {record : Record δ} {rows : List StatusRow}

/-- A retention that is too long is refused before the clock is read. -/
theorem happen_cleanup_of_long (c : ConnectionId)
    (hlong : Guard.longestRetention < setup.retention.nanos) :
    setup.happen (.cleanup c) = pure () := by
  simp [happen, Guard.cleanup, guard, hlong]

/-- Any other cleanup reads the clock, and deletes what comes before its cutoff, if it has one. -/
theorem happen_cleanup (c : ConnectionId)
    (hshort : ¬Guard.longestRetention < setup.retention.nanos) :
    setup.happen (.cleanup c) = (setup.target c).now >>= fun now =>
      (now.minus? setup.retention.nanos).elim (pure ()) fun cutoff =>
        (setup.target c).purge setup.table cutoff >>= fun _ => pure () := by
  simp only [happen, Guard.cleanup, guard, hshort, if_false, ExceptT.run_bind,
    ExceptT.run_liftM, bind_map_left, bind_pure_comp, map_bind]
  refine bind_congr fun now => ?_
  cases now.minus? setup.retention.nanos <;> simp

/-- A cleanup where nobody is in a transaction deletes the rows before its cutoff, if it has one. -/
theorem cleanup_free (hrows : committed.Holds setup.table rows)
    (h : look w = (⟨committed, none, clock, next⟩, record)) (c : ConnectionId) :
    Ends look (setup.happen (.cleanup c)) w fun _ stop =>
      ∃ committed' rows' clock', committed'.Holds setup.table rows' ∧ clock.Precedes clock' ∧
        (rows' = rows ∨ ∃ cutoff, clock.now.minus? setup.retention.nanos = some cutoff ∧
          rows' = rows.filter fun row => !Database.isStale cutoff.micros row) ∧
        stop = (⟨committed', none, clock', next⟩, record) := by
  by_cases hlong : Guard.longestRetention < setup.retention.nanos
  · rw [happen_cleanup_of_long c hlong]
    exact (Leads.pure h ()).ends ⟨committed, rows, clock, hrows, .refl clock, .inl rfl, rfl⟩
  · rw [happen_cleanup c hlong]
    refine (perform_leads h fun _ hdb => Database.now_leads hdb).ends_bind fun w' h' => ?_
    cases hcutoff : clock.now.minus? setup.retention.nanos with
    | none =>
      exact (Leads.pure h' ()).ends ⟨committed, rows, clock.advanced, hrows, .advanced clock,
        .inl rfl, rfl⟩
    | some cutoff =>
      refine (perform_leads h' fun _ hdb =>
        Database.purge_free hdb hrows c cutoff).ends_bind fun w'' h'' => ?_
      exact (Leads.pure h'' ()).ends ⟨_, _, clock.advanced, hrows.withRows _, .advanced clock,
        .inr ⟨cutoff, rfl, rfl⟩, rfl⟩

/-- Whoever is in a transaction, a cleanup deletes nothing that is committed until it has ended. -/
theorem cleanup_busy (h : look w = (⟨committed, some (o, working), clock, next⟩, record))
    (hrows : committed.Holds setup.table rows) (c : ConnectionId) :
    Ends look (setup.happen (.cleanup c)) w fun _ stop =>
      ∃ (working' : Content δ) (clock' : Clock), clock.Precedes clock' ∧
        stop = (⟨committed, some (o, working'), clock', next⟩, record) := by
  by_cases hlong : Guard.longestRetention < setup.retention.nanos
  · rw [happen_cleanup_of_long c hlong]
    exact (Leads.pure h ()).ends ⟨working, clock, .refl clock, rfl⟩
  · rw [happen_cleanup c hlong]
    refine (perform_leads h fun _ hdb => Database.now_leads hdb).ends_bind fun w' h' => ?_
    cases clock.now.minus? setup.retention.nanos with
    | none => exact (Leads.pure h' ()).ends ⟨working, clock.advanced, .advanced clock, rfl⟩
    | some cutoff =>
      by_cases hown : o = c
      · subst hown
        refine ((perform_ends h' fun _ hdb =>
          Database.purge_stays hdb setup.table cutoff).mono ?_).bind
        rintro - ⟨_, record⟩ ⟨⟨working', rfl⟩, rfl⟩ w'' h''
        exact (Leads.pure h'' ()).ends ⟨working', clock.advanced, .advanced clock, rfl⟩
      · refine (perform_leads h' fun _ hdb =>
          Database.purge_locked hdb hown hrows cutoff).ends_bind fun w'' h'' => ?_
        exact (Leads.pure h'' ()).ends ⟨working, clock.advanced, .advanced clock, rfl⟩

end Setup

/-! ## A database with one number -/

/-- The content of a table that holds one number. -/
structure Counter where
  value : Nat
  deriving DecidableEq, Repr

namespace Counter

instance : HasTables Counter := ⟨fun _ => [⟨"counter", ["n"], false⟩]⟩

/-- The text that adds one to the number. -/
def increment : String := "UPDATE counter SET n = n + 1"

/-- The text that would delete the number, which is kept at the price of the transaction. -/
def reset : String := "DELETE FROM counter"

/-- A language that knows two texts. -/
def script (text : String) : Script Counter :=
  if text = increment then
    [.ok
      { demand := Demand.changeable "counter" (Demand.assigned "n")
        run := fun content => .done { content with data := ⟨content.data.value + 1⟩ } 1 }]
  else if text = reset then
    [.ok
      { demand := Demand.changeable "counter" fun _ => none
        run := fun _ => .rollback "the counter is kept" }]
  else [.error "incomplete input"]

/-- A guard with the usual table, and connections of a database that counts. -/
def setup (retention : Duration) : Setup Counter :=
  { language := script, table := .standard, retention }

/-- A database that has counted nothing yet. -/
def database (reading : Nat → Instant) : Database Counter :=
  { committed := ⟨⟨0⟩, []⟩, clock := ⟨reading, 0⟩ }

/-- A statement counts, or it fails with its transaction. -/
theorem run_of_mem {text : String} {statement : Statement Counter}
    (hmem : .ok statement ∈ script text) (content : Content Counter) :
    statement.run content = .done { content with data := ⟨content.data.value + 1⟩ } 1 ∨
      statement.run content = .rollback "the counter is kept" := by
  simp only [script] at hmem
  split at hmem
  · obtain rfl := Except.ok.inj (List.mem_singleton.mp hmem)
    exact .inl rfl
  · split at hmem
    · obtain rfl := Except.ok.inj (List.mem_singleton.mp hmem)
      exact .inr rfl
    · cases List.mem_singleton.mp hmem

theorem spares (retention : Duration) (text : String) : (setup retention).Spares text := by
  intro statement hmem content rows content' hholds hcontent
  rcases run_of_mem hmem content with hrun | hrun <;> rw [hrun] at hcontent
  · obtain rfl := Option.some.inj hcontent
    exact ⟨hholds.rows, hholds.shape⟩
  · cases hcontent

theorem stays_increment (retention : Duration) : (setup retention).Stays increment := by
  intro statement hmem content message hrun
  simp only [setup, script, if_true] at hmem
  obtain rfl := Except.ok.inj (List.mem_singleton.mp hmem)
  cases hrun

/-- To count and to end well is to spare the table. -/
theorem increment_sparing (retention : Duration) (c : ConnectionId) :
    Action.IsSparing (setup retention) c (.run c increment fun _ => .finish (.ok ())) :=
  ⟨spares retention _, fun _ => .inl (stays_increment retention), fun _ => trivial⟩

end Counter

end RetrySafe
