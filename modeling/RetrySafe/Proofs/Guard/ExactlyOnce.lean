import RetrySafe.Proofs.Guard.History

/-!
# Exactly once

The status table of a database and the log of the calls on it tell the same story: an operation is
completed in the one exactly when a call of it was applied in the other, and what is stored changes
only there, by what the action of that call did. Neither a commit that fails nor a rollback that
does changes this: what such a call did is gone, or stays in a transaction that keeps every later
call out.

## Main definitions

* `Continuous` — every entry of a log starts where the one before it ended.
* `Sound` — a log agrees with what is committed.
* `ExactlyOnce` — what a log says of an operation.

## Main results

* `Sound.extend`, `Sound.turn` — a call keeps the agreement.
* `exactly_once` — every operation is applied at most once, whatever the history.
-/

namespace RetrySafe

open Time (Clock)
open World

variable {δ : Type}

/-- The row of an operation says that it was completed. -/
def IsCompleted (operation : String) (rows : List StatusRow) : Prop :=
  ∃ row, rowOf operation rows = some row ∧ row.completed ≠ none

namespace Entry

/-- The call changed what is stored exactly if it was applied, and then as its action did. During
somebody else's transaction it was told to wait. -/
structure IsFaithful (entry : Entry δ) : Prop where
  applied : entry.IsApplied → entry.invocation = some (entry.before, entry.after)
  unchanged : ¬entry.IsApplied → entry.after = entry.before
  locked : entry.wasLocked = true →
    entry.result = .error (.lockConflict entry.operation) ∧ entry.invocation = none

namespace IsRefused

variable {entry : Entry δ} {committed : Content δ}

theorem isFaithful (h : entry.IsRefused committed) : entry.IsFaithful where
  applied happlied := absurd happlied h.not_isApplied
  unchanged _ := h.after.trans h.before.symm
  locked hlocked := ⟨h.locked hlocked, h.invocation⟩

end IsRefused

end Entry

/-- Every entry starts with what the one before it left behind, from what was stored first to what
is stored last. -/
def Continuous (first : Content δ) : List (Entry δ) → Content δ → Prop
  | [], last => last = first
  | entry :: log, last => entry.before = first ∧ Continuous entry.after log last

theorem Continuous.extend {first last : Content δ} {log : List (Entry δ)} {entry : Entry δ}
    (h : Continuous first log last) (hbefore : entry.before = last) :
    Continuous first (log ++ [entry]) entry.after := by
  induction log generalizing first with
  | nil => exact ⟨hbefore.trans h, rfl⟩
  | cons head log ih => exact ⟨h.1, ih h.2⟩

/-- What a log says of an operation whose row is given: at most one call was applied, its row says
whether there was one, nothing else was stored, and no later call invoked its action. -/
structure ExactlyOnce (operation : String) (row : Option StatusRow) (log : List (Entry δ)) :
    Prop where
  atMostOnce : (log.filter fun entry => entry.operation = operation ∧ entry.IsApplied).length ≤ 1
  completed : (∃ r, row = some r ∧ r.completed ≠ none) ↔
    ∃ entry ∈ log, entry.operation = operation ∧ entry.IsApplied
  faithful : ∀ entry ∈ log, entry.operation = operation → entry.IsFaithful
  later : (log.filter fun entry => entry.operation = operation).Pairwise fun earlier later =>
    earlier.IsApplied → later.IsIdle

/-! ## Completed operations -/

section Completed

variable {operation other created completed : String} {rows : List StatusRow}

theorem isCompleted_registered :
    IsCompleted other (Database.registered operation created rows) ↔ IsCompleted other rows := by
  by_cases h : other = operation
  · subst h
    unfold IsCompleted
    rw [Database.rowOf_registered_self]
    cases rowOf other rows <;> simp
  · rw [IsCompleted, Database.rowOf_registered_of_ne created h, IsCompleted]

theorem not_isCompleted_of_open {row : StatusRow} (hrow : rowOf operation rows = some row)
    (hopen : row.completed = none) : ¬IsCompleted operation rows := by
  rintro ⟨row', hrow', hcompleted⟩
  rw [hrow, Option.some.injEq] at hrow'
  exact hcompleted (hrow' ▸ hopen)

theorem isCompleted_marked {row : StatusRow} (hrow : rowOf operation rows = some row) :
    IsCompleted other (Database.marked operation completed rows) ↔
      IsCompleted other rows ∨ operation = other := by
  by_cases h : other = operation
  · subst h
    unfold IsCompleted
    rw [Database.rowOf_marked_self, hrow]
    simp
  · rw [IsCompleted, Database.rowOf_marked_of_ne completed h, ← IsCompleted]
    simp [Ne.symm h]

end Completed

/-! ## Logs that agree with the database -/

/-- A log agrees with what is committed, and with the rows of the status table. -/
structure Sound [HasTables δ] (setup : Setup δ) (first committed : Content δ)
    (rows : List StatusRow) (log : List (Entry δ)) : Prop where
  holds : committed.Holds setup.table rows
  continuous : Continuous first log (setup.beside committed)
  faithful : ∀ entry ∈ log, entry.IsFaithful
  completed : ∀ operation, IsCompleted operation rows ↔
    ∃ entry ∈ log, entry.operation = operation ∧ entry.IsApplied
  once : log.Pairwise fun earlier later =>
    earlier.IsApplied → later.operation = earlier.operation → later.IsIdle

namespace Sound

variable [HasTables δ] {setup : Setup δ} {first committed committed' : Content δ}
  {rows rows' : List StatusRow} {log : List (Entry δ)} {entry : Entry δ}

/-- Before the first call. -/
theorem start (hholds : committed.Holds setup.table []) :
    Sound setup (setup.beside committed) committed [] [] where
  holds := hholds
  continuous := rfl
  faithful := by simp
  completed := by simp [IsCompleted, rowOf]
  once := .nil

/-- One more entry. -/
theorem extend (h : Sound setup first committed rows log)
    (hholds : committed'.Holds setup.table rows') (hfaithful : entry.IsFaithful)
    (hbefore : entry.before = setup.beside committed)
    (hafter : entry.after = setup.beside committed')
    (hcompleted : ∀ operation, IsCompleted operation rows' ↔
      IsCompleted operation rows ∨ entry.operation = operation ∧ entry.IsApplied)
    (hidle : IsCompleted entry.operation rows → entry.IsIdle) :
    Sound setup first committed' rows' (log ++ [entry]) where
  holds := hholds
  continuous := hafter ▸ h.continuous.extend hbefore
  faithful e he := by
    rcases List.mem_append.mp he with he | he
    · exact h.faithful e he
    · rwa [List.mem_singleton.mp he]
  completed operation := by
    rw [hcompleted, h.completed]
    simp [or_and_right, exists_or]
  once := by
    -- Only the pairs with the new entry are new.
    refine List.pairwise_append.mpr ⟨h.once, List.pairwise_singleton _ _, ?_⟩
    intro earlier hearlier later hlater happlied hsame
    rw [List.mem_singleton.mp hlater] at hsame ⊢
    exact hidle ((h.completed _).mpr ⟨earlier, hearlier, hsame.symm, happlied⟩)

/-- Calls that are refused. -/
theorem refuse (h : Sound setup first committed rows log) {calls : List (Entry δ)}
    (hcalls : ∀ entry ∈ calls, Entry.IsRefused entry (setup.beside committed)) :
    Sound setup first committed rows (log ++ calls) := by
  -- By induction on the calls: each is one more entry that changes nothing.
  induction calls generalizing log with
  | nil => rwa [List.append_nil]
  | cons entry calls ih =>
    have hrefused := hcalls entry List.mem_cons_self
    have hextended := h.extend h.holds hrefused.isFaithful hrefused.before hrefused.after
      (by simp [hrefused.not_isApplied]) fun _ => hrefused.isIdle
    rw [List.append_cons]
    exact ih hextended fun e he => hcalls e (List.mem_cons_of_mem _ he)

/-- A turn. Only an applied call completes an operation, and only one that was not completed. -/
theorem turn {c : ConnectionId} {operation : String} {clock : Clock} {next : ConnectionId}
    {record : Record δ} {result : Except GuardError Execution} {stop : Standing δ × Record δ}
    (h : Sound setup first committed rows record.log)
    (hturn : setup.Turn c operation committed rows clock next { record with invocation := none }
      result stop) {stop' : Standing δ × Record δ}
    (hstop : setup.recorded operation false (⟨committed, none, clock, next⟩, record) result stop =
      stop') :
    ∃ rows', Sound setup first stop'.1.committed rows' stop'.2.log := by
  subst hstop
  have hregistered := h.holds.withRows (Database.registered operation clock.now.micros rows)
  have hbeside := setup.beside_withRows committed
    (Database.registered operation clock.now.micros rows)
  -- In each case the log is first extended by the calls that were refused meanwhile, and then by
  -- the call itself.
  cases hturn with
  | kept left journal hrow hcompleted hresult =>
    -- A registration completes no operation.
    have hnot : result ≠ .ok .applied := by rcases hresult with rfl | ⟨_, rfl⟩ <;> simp
    refine ⟨_, h.extend hregistered ?_ rfl rfl ?_ fun _ => ⟨rfl, hresult⟩⟩
    · exact ⟨fun happlied => absurd happlied hnot, fun _ => hbeside, by simp⟩
    · simp [isCompleted_registered, Entry.IsApplied, hnot]
  | failed hrow hopen hclock hcalls =>
    have hnot := mt isCompleted_registered.mpr (not_isCompleted_of_open hrow hopen)
    refine ⟨_, (h.refuse hcalls).extend hregistered ?_ rfl rfl ?_
      fun hcompleted => absurd hcompleted hnot⟩
    · exact ⟨by simp [Entry.IsApplied], fun _ => hbeside, by simp⟩
    · simp [isCompleted_registered, Entry.IsApplied]
  | @applied row working clock' calls hrow hopen hclock hworking hcalls =>
    have hnot := mt isCompleted_registered.mpr (not_isCompleted_of_open hrow hopen)
    -- The row was open, so no entry so far says that the operation was applied.
    have hmarked := hworking.withRows (Database.marked operation clock'.now.micros
      (Database.registered operation clock.now.micros rows))
    refine ⟨_, (h.refuse hcalls).extend hmarked ?_ rfl rfl ?_
      fun hcompleted => absurd hcompleted hnot⟩
    · refine ⟨fun _ => ?_, fun hother => absurd rfl hother, by simp⟩
      rw [setup.beside_withRows]
    · intro other
      rw [isCompleted_marked hrow, isCompleted_registered]
      simp [Entry.IsApplied]

theorem exactlyOnce (h : Sound setup first committed rows log) (operation : String) :
    ExactlyOnce operation (rowOf operation rows) log where
  atMostOnce := by
    have hpairwise := h.once.sublist (List.filter_sublist
      (p := fun entry => entry.operation = operation ∧ entry.IsApplied))
    have hall : ∀ entry ∈ log.filter fun entry => entry.operation = operation ∧ entry.IsApplied,
        entry.operation = operation ∧ entry.IsApplied := by simp
    match hfilter : log.filter fun entry => entry.operation = operation ∧ entry.IsApplied with
    | [] => rw [hfilter]; exact Nat.zero_le 1
    | [_] => rw [hfilter]; exact Nat.le_refl 1
    -- Of two applied calls the later one would be idle.
    | earlier :: later :: _ =>
      rw [hfilter] at hpairwise hall
      have hearlier := hall earlier List.mem_cons_self
      have hlater := hall later (List.mem_cons_of_mem _ List.mem_cons_self)
      have hidle := List.rel_of_pairwise_cons hpairwise List.mem_cons_self hearlier.2
        (hlater.1.trans hearlier.1.symm)
      exact absurd hlater.2 hidle.not_isApplied
  completed := h.completed operation
  faithful entry hentry _ := h.faithful entry hentry
  later := by
    refine (h.once.sublist List.filter_sublist).imp_of_mem ?_
    intro earlier later hearlier hlater hidle happlied
    have hoperation : ∀ entry ∈ log.filter (fun entry => entry.operation = operation),
        entry.operation = operation := by simp
    exact hidle happlied ((hoperation later hlater).trans (hoperation earlier hearlier).symm)

end Sound

/-! ## Whole histories -/

section History

variable [HasTables δ] {setup : Setup δ} {first : Content δ} {w : World δ}

/-- The log agrees with what is committed, whoever is in a transaction. -/
def IsSoundAt (setup : Setup δ) (first : Content δ) (place : Standing δ × Record δ) : Prop :=
  ∃ rows, Sound setup first place.1.committed rows place.2.log

/-- One call. -/
theorem called_sound (h : IsSoundAt setup first (look w)) {call : Call}
    (hsparing : call.action.IsSparing setup call.connection) :
    Ends look (setup.happen (.call call)) w fun _ stop => IsSoundAt setup first stop := by
  obtain ⟨⟨⟨committed, writer, clock, next⟩, record⟩, hlook⟩ : ∃ place, look w = place := ⟨_, rfl⟩
  rw [hlook] at h
  obtain ⟨rows, hsound⟩ := h
  cases writer with
  | none =>
    refine ((Setup.called_free hsparing hsound.holds hlook call.operation).mono ?_).bind
    rintro result stop' ⟨stop, hturn, hstop⟩ w' h'
    exact (Leads.pure h' ()).ends (hsound.turn hturn hstop.symm)
  -- A transaction that could not be ended keeps every call out.
  | some writer =>
    refine ((Setup.called_busy hlook hsound.holds call.connection call.operation _).mono ?_).bind
    rintro result _ ⟨entry, working, hrefused, rfl⟩ w' h'
    exact (Leads.pure h' ()).ends ⟨rows, hsound.refuse (by simpa using hrefused)⟩

/-- Any number of calls. -/
theorem history_sound (h : IsSoundAt setup first (look w)) {calls : List Call}
    (hsparing : ∀ call ∈ calls, call.action.IsSparing setup call.connection) :
    Ends look (setup.history (calls.map .call)) w fun _ stop => IsSoundAt setup first stop := by
  induction calls generalizing w with
  | nil => exact (Leads.pure rfl ()).ends h
  | cons call calls ih =>
    refine ((called_sound h (hsparing call List.mem_cons_self)).mono ?_).bind
    rintro - place hplace w' rfl
    exact ih hplace fun other hother => hsparing other (List.mem_cons_of_mem _ hother)

/-- A status table that has just been created agrees with an empty log. -/
theorem prepared_sound {db : Database δ} {c : ConnectionId} {start : World δ}
    (hfree : db.writer = none) (habsent : db.committed.catalog.has setup.table.name = false)
    (hprepared : ((setup.guard.prepare (setup.target c)).run ⟨db, {}⟩).run = (.ok (), start)) :
    IsSoundAt setup (setup.beside start.database.committed) (look start) := by
  have hdb : look (⟨db, {}⟩ : World δ) =
      (⟨db.committed, none, db.clock, db.nextConnection⟩, {}) := by
    rw [look, Database.standing, hfree]
  cases hname : Catalog.isReserved setup.table.name with
  | true =>
    have hrefused := (World.perform_leads hdb fun db' hdb' =>
      (Database.createTable_reserved hname db' c).mono hdb').answers
    have hanswer := (congrArg Prod.fst hprepared).symm.trans hrefused
    cases hanswer
  | false =>
    have hcreated := (World.perform_leads hdb fun db' hdb' =>
      Database.createTable_free hdb' c hname).leaves
    have hstart := (congrArg (fun p => look p.2) hprepared).symm.trans hcreated
    rw [habsent, if_neg Bool.false_ne_true] at hstart
    have hcommitted : start.database.committed = db.committed.withTable setup.table.name :=
      congrArg (fun place => place.1.committed) hstart
    rw [hstart, hcommitted]
    exact ⟨[], Sound.start (Content.holds_withTable habsent)⟩

end History

/-! ## Calls that count -/

namespace Counter

open Time (Duration Instant)

/-- Give up where a statement has failed. -/
def orGiveUp : Except GuardError Nat → Action
  | .ok _ => .finish (.ok ())
  | .error error => .finish (.error error)

/-- Four calls of one operation. The first one makes a fifth while it runs, and the second one loses
its transaction to a statement. -/
def loads : List Call :=
  [⟨0, "load", .run 0 increment fun _ =>
      .call 1 "load" (.run 1 increment fun _ => .finish (.ok ())) fun _ => .finish (.ok ())⟩,
    ⟨1, "load", .run 1 increment fun _ => .run 1 reset orGiveUp⟩,
    ⟨1, "load", .run 1 increment fun _ => .finish (.ok ())⟩,
    ⟨0, "load", .run 0 increment fun _ => .finish (.ok ())⟩]

/-- A database that turns down the first commit, and reports a failure for the rollback after it. -/
def troubled : Database Counter :=
  { database fun n => .ofSeconds n with
    commits := [.refused (.failed "FOREIGN KEY constraint failed")], rollbacks := [.lost .busy] }

theorem loads_sparing (retention : Duration) :
    ∀ call ∈ loads, call.action.IsSparing (setup retention) call.connection := by
  have hstays (c on : ConnectionId) (next : Except GuardError Nat → Action) (_ : on = c) :
      (setup retention).Stays increment ∨ Action.GivesUp next := .inl (stays_increment retention)
  have hreset : Action.IsSparing (setup retention) 1 (.run 1 reset orGiveUp) :=
    ⟨spares retention _, fun _ => .inr fun error => ⟨error, rfl⟩,
      fun answer => by cases answer <;> trivial⟩
  intro call hcall
  simp only [loads, List.mem_cons, List.not_mem_nil, or_false] at hcall
  rcases hcall with rfl | rfl | rfl | rfl
  · exact ⟨spares retention _, hstays 0 0 _, fun _ =>
      ⟨Nat.one_ne_zero, increment_sparing retention 1, fun _ => trivial⟩⟩
  · exact ⟨spares retention _, hstays 1 1 _, fun _ => hreset⟩
  · exact increment_sparing retention 1
  · exact increment_sparing retention 0

/-- The database with its status table, before the calls. -/
def prepared : World Counter :=
  (((setup (.ofSecs 86400)).guard.prepare ((setup (.ofSecs 86400)).target 0)).run
    ⟨troubled, {}⟩).run.2

theorem prepare_troubled :
    (((setup (.ofSecs 86400)).guard.prepare ((setup (.ofSecs 86400)).target 0)).run
      ⟨troubled, {}⟩).run = (.ok (), prepared) := by
  have hname : Catalog.isReserved StatusTable.standard.name = false := by decide +kernel
  have hanswer := (World.perform_leads (w := ⟨troubled, {}⟩) rfl fun _ hdb =>
    Database.createTable_free hdb 0 hname).answers
  exact (Prod.eta _).symm.trans (congrArg (·, prepared) hanswer)

/-- The database after the calls. -/
def loaded : World Counter :=
  (((setup (.ofSecs 86400)).history (loads.map .call)).run prepared).run.2

/-- The commit of the first call fails, the second call gives up, and only the third one counts. The
entry before the first one is that of the call inside it. -/
example : loaded.record.log.map (fun entry => (decide entry.IsApplied, entry.invocation.isSome,
      entry.after.data.value)) =
    [(false, false, 0), (false, true, 0), (false, true, 0), (true, true, 1),
      (false, false, 1)] := by
  decide +kernel

end Counter

end RetrySafe
