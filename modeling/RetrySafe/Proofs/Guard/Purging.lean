import RetrySafe.Proofs.Guard.Cleanup
import RetrySafe.Proofs.Target.Changes
import RetrySafe.Proofs.Time.Reading

/-!
# What a cleanup deletes

A cleanup compares texts: those that registrations left in a status table, and the one of its cutoff. Times
of plain years come in the same order as texts and in time, up to a microsecond. A cutoff is not later than
the clock, so its year has four digits or a sign, which comes before all digits. So a cleanup deletes
exactly the rows that were registered before its cutoff, and nothing else in any table.

## Main definitions

* `StatusRow.RegisteredAt`, `AreRegistered` — rows as registrations leave them.
* `Content.DiffersIn` — contents that differ in the rows of one status table at most.
* `Setup.IsPurged` — what a cleanup leaves where some rows are kept.

## Main results

* `Instant.micros_lt_micros_cutoff` — a cutoff and a time of a plain year are ordered as texts as in time.
* `happen_registered`, `history_registered` — all rows that a history leaves were registered.
* `Setup.cleanup_purges` — the rows that a cleanup deletes, by their texts.
* `purge_exact` — and by their times.
-/

namespace RetrySafe

open Time (Clock Date Duration Instant)
open World

/-! ## Times before a cutoff -/

namespace Time.Instant

variable {t now cutoff : Instant} {nanos : Nat}

theorem le_of_minus? (h : now.minus? nanos = some cutoff) : cutoff ≤ now := by
  change cutoff.seconds < now.seconds ∨ cutoff.seconds = now.seconds ∧ cutoff.nanos ≤ now.nanos
  unfold minus? at h
  dsimp only at h
  split at h
  · obtain ⟨-, h⟩ := Option.ite_none_right_eq_some.mp h
    obtain rfl := Option.some.inj h
    exact .inr ⟨rfl, Nat.sub_le _ _⟩
  · obtain ⟨-, h⟩ := Option.ite_none_right_eq_some.mp h
    obtain rfl := Option.some.inj h
    have hnanos := now.nanos_lt
    unfold ofTotalNanos totalNanos
    dsimp only
    omega

/-- A cutoff is a time up to the year 9999, and a time of a plain year comes before it as a text if it
does so up to a microsecond. -/
theorem micros_lt_micros_cutoff (ht : t.HasPlainYear) (hnow : now.HasPlainYear)
    (hcutoff : now.minus? nanos = some cutoff) :
    t.micros < cutoff.micros ↔ t.truncated < cutoff.truncated := by
  have hle : cutoff.seconds < now.seconds ∨ cutoff.seconds = now.seconds ∧ cutoff.nanos ≤ now.nanos :=
    le_of_minus? hcutoff
  have hyear : cutoff.date.year ≤ 9999 :=
    Int.le_trans (Date.ofDays_year_mono (by omega)) hnow.2
  by_cases hnegative : cutoff.date.year < 0
  · -- Before the year 0 no text of a plain year comes, and no time.
    have hlt : cutoff.seconds < t.seconds := by
      refine Int.not_le.mp fun hge => ?_
      have hmono : t.date.year ≤ cutoff.date.year := Date.ofDays_year_mono (by omega)
      have hplain := ht.1
      omega
    refine iff_of_false (not_micros_lt_micros (.inl hlt) ht) ?_
    rw [truncated_lt_truncated]
    omega
  · exact micros_lt_micros_iff ht ⟨by omega, hyear⟩

/-- A retention that leads to a cutoff is not too long. -/
theorem not_longest_of_minus? (hnow : now.HasPlainYear) (hcutoff : now.minus? nanos = some cutoff) :
    ¬Guard.longestRetention < nanos := by
  -- So long before a plain year there is no second of the calendar left.
  intro hlong
  have hday : now.seconds / 86400 < 2932897 := by
    refine Int.not_le.mp fun hge => ?_
    have hmono : (Date.ofDays 2932897).year ≤ now.date.year := Date.ofDays_year_mono hge
    have hvalue : (Date.ofDays 2932897).year = 10000 := by decide
    have hyear := hnow.2
    omega
  have hnone : now.minus? nanos = none := by
    rw [minus?_eq_none_iff (hasPlainYear_inCalendar hnow)]
    have hfirst : firstSecond = -8334601228800 := by decide
    have hnanos := now.nanos_lt
    unfold totalNanos
    unfold Guard.longestRetention at hlong
    omega
  rw [hnone] at hcutoff
  cases hcutoff

end Time.Instant

/-! ## Rows that were registered -/

/-- A row was registered at a time of a plain year. -/
structure StatusRow.RegisteredAt (row : StatusRow) (t : Instant) : Prop where
  year : t.HasPlainYear
  created : row.created = t.micros

/-- Rows as registrations at times of plain years leave them, with completions and deletions in
between. -/
inductive AreRegistered : List StatusRow → Prop
  | empty : AreRegistered []
  | register {rows : List StatusRow} (h : AreRegistered rows) (operation : String) {t : Instant}
      (ht : t.HasPlainYear) : AreRegistered (Database.registered operation t.micros rows)
  | mark {rows : List StatusRow} (h : AreRegistered rows) (operation completed : String) :
      AreRegistered (Database.marked operation completed rows)
  | delete {rows : List StatusRow} (h : AreRegistered rows) (keep : StatusRow → Bool) :
      AreRegistered (rows.filter keep)

/-- Each row was registered at some time. -/
theorem AreRegistered.exists_time {rows : List StatusRow} (h : AreRegistered rows) :
    ∀ row ∈ rows, ∃ t, row.RegisteredAt t := by
  induction h with
  | empty => exact fun row hrow => absurd hrow List.not_mem_nil
  | @register rows h operation t ht ih =>
    intro row hrow
    rw [Database.registered] at hrow
    split at hrow
    · exact ih row hrow
    · obtain hrow | hrow := List.mem_append.mp hrow
      · exact ih row hrow
      · obtain rfl := List.mem_singleton.mp hrow
        exact ⟨t, ht, rfl⟩
  | mark h operation completed ih =>
    -- A row that is marked keeps the time of its registration.
    intro row hrow
    obtain ⟨old, hold, rfl⟩ := List.mem_map.mp hrow
    obtain ⟨t, ht⟩ := ih old hold
    refine ⟨t, ht.year, ?_⟩
    split <;> exact ht.created
  | delete h keep ih => exact fun row hrow => ih row (List.mem_filter.mp hrow).1

section History

variable {δ : Type} [HasTables δ] {setup : Setup δ}

/-- The clock reads plain years, and the rows of the status table were registered. -/
def IsRegisteredAt (setup : Setup δ) (place : Standing δ × Record δ) : Prop :=
  (∀ n, (place.1.clock.reading n).HasPlainYear) ∧
    ∃ rows, place.1.committed.Holds setup.table rows ∧ AreRegistered rows

theorem isRegisteredAt_look {w : World δ} :
    IsRegisteredAt setup (look w) ↔ (∀ n, (w.database.clock.reading n).HasPlainYear) ∧
      ∃ rows, w.database.committed.Holds setup.table rows ∧ AreRegistered rows :=
  Iff.rfl

/-- A turn of a call. -/
theorem turn_registered {c : ConnectionId} {operation : String} {committed : Content δ}
    {rows : List StatusRow} {clock : Clock} {next : ConnectionId} {record record' : Record δ}
    {result : Except GuardError Execution} {stop : Standing δ × Record δ}
    (hyears : ∀ n, (clock.reading n).HasPlainYear) (hholds : committed.Holds setup.table rows)
    (h : AreRegistered rows)
    (hturn : setup.Turn c operation committed rows clock next record result stop) :
    IsRegisteredAt setup (stop.1, record') := by
  have hregistered := h.register operation (hyears clock.taken)
  -- Whatever comes of the call, a turn begins with a registration.
  cases hturn with
  | kept left journal hrow hcompleted hresult => exact ⟨hyears, _, hholds.withRows _, hregistered⟩
  | failed hrow hcompleted hclock hcalls =>
    refine ⟨fun n => ?_, _, hholds.withRows _, hregistered⟩
    exact hclock.reading ▸ hyears n
  | applied hrow hcompleted hclock hworking hcalls =>
    refine ⟨fun n => ?_, _, hworking.withRows _, hregistered.mark _ _⟩
    exact hclock.reading ▸ hyears n

/-- One event. -/
theorem happen_registered {w : World δ} (h : IsRegisteredAt setup (look w)) {event : Event}
    (hsparing : event.IsSparing setup) :
    Ends look (setup.happen event) w fun _ stop => IsRegisteredAt setup stop := by
  obtain ⟨⟨⟨committed, writer, clock, next⟩, record⟩, hlook⟩ : ∃ place, look w = place := ⟨_, rfl⟩
  rw [hlook] at h
  obtain ⟨hyears, rows, hholds, hregistered⟩ := h
  match event, writer with
  | .call call, none =>
    refine ((Setup.called_free hsparing hholds hlook call.operation).mono ?_).bind
    rintro result _ ⟨stop, hturn, rfl⟩ w' h'
    exact (Leads.pure h' ()).ends (turn_registered hyears hholds hregistered hturn)
  -- While a transaction goes on, nothing is committed to the table.
  | .call call, some writer =>
    refine ((Setup.called_busy hlook hholds call.connection call.operation _).mono ?_).bind
    rintro result _ ⟨entry, working, hrefused, rfl⟩ w' h'
    exact (Leads.pure h' ()).ends ⟨hyears, rows, hholds, hregistered⟩
  | .cleanup c, none =>
    refine (Setup.cleanup_free hholds hlook c).mono ?_
    rintro - _ ⟨committed', rows', clock', hholds', hclock, hrows, rfl⟩
    refine ⟨fun n => hclock.reading ▸ hyears n, rows', hholds', ?_⟩
    obtain rfl | ⟨cutoff, -, rfl⟩ := hrows
    · exact hregistered
    · exact hregistered.delete _
  | .cleanup c, some writer =>
    refine (Setup.cleanup_busy hlook hholds c).mono ?_
    rintro - _ ⟨working, clock', hclock, rfl⟩
    exact ⟨fun n => hclock.reading ▸ hyears n, rows, hholds, hregistered⟩

/-- Any calls and cleanups, in any order: all rows there are were registered. -/
theorem history_registered {w : World δ} (h : IsRegisteredAt setup (look w)) {events : List Event}
    (hsparing : ∀ event ∈ events, event.IsSparing setup) :
    Ends look (setup.history events) w fun _ stop => IsRegisteredAt setup stop := by
  induction events generalizing w with
  | nil => exact (Leads.pure rfl ()).ends h
  | cons event events ih =>
    refine ((happen_registered h (hsparing event List.mem_cons_self)).mono ?_).bind
    rintro - place hplace w' rfl
    exact ih hplace fun other hother => hsparing other (List.mem_cons_of_mem _ hother)

end History

/-! ## Cleanups -/

namespace Content

variable {δ : Type}

/-- Two contents with the same tables, whose rows differ in one status table at most. -/
structure DiffersIn [HasTables δ] (table : String) (content content' : Content δ) : Prop where
  data : content'.data = content.data
  catalog : content'.catalog = content.catalog
  others : ∀ other, isSame other table = false → content'.rows? other = content.rows? other

theorem rows?_withRows_of_ne {table other : String} (hne : isSame other table = false)
    (content : Content δ) (rows : List StatusRow) :
    (content.withRows table rows).rows? other = content.rows? other := by
  have hnot (name : String) (hsame : isSame name table = true) : isSame name other = false := by
    have htable : foldName name = foldName table := of_decide_eq_true hsame
    have hother : foldName other ≠ foldName table := of_decide_eq_false hne
    exact decide_eq_false fun h => hother (h.symm.trans htable)
  simp only [rows?, withRows]
  induction content.tables with
  | nil => rfl
  | cons t tables ih =>
    rw [List.map_cons, List.find?_cons, List.find?_cons]
    by_cases hsame : isSame t.1 table = true
    · -- A table whose rows are replaced is not the one that is looked for.
      rw [if_pos hsame, hnot t.1 hsame]
      exact ih
    · rw [if_neg hsame]
      cases isSame t.1 other
      · exact ih
      · rfl

theorem differsIn_withRows [HasTables δ] (content : Content δ) (table : String)
    (rows : List StatusRow) : DiffersIn table content (content.withRows table rows) where
  data := rfl
  catalog := catalog_withRows content table rows
  others _ hne := rows?_withRows_of_ne hne content rows

end Content

namespace Database

variable {δ : Type} {db db' : Database δ} {c : ConnectionId}

/-- The database after a look at its clock. -/
def ticked (db : Database δ) : Database δ := { db with clock := db.clock.advanced }

variable [HasTables δ] {table : StatusTable} {rows : List StatusRow} {cutoff : Instant}

theorem lockedFor_updated (db : Database δ) (c : ConnectionId) (content : Content δ) :
    (db.updated c content).lockedFor c = db.lockedFor c := by
  cases hwriter : db.writer with
  | none => simp [updated, lockedFor, hwriter]
  | some writer => by_cases h : writer.1 = c <;> simp [updated, lockedFor, hwriter, h]

/-- Rows are deleted from what a connection sees, where nobody else is in a transaction. -/
theorem purge_leads (hstanding : db'.standing = db.standing) (hfree : db.lockedFor c = false)
    (hrows : (db.view c).Holds table rows) :
    Leads standing (purge c table cutoff) db' (.ok (rows.countP (isStale cutoff.micros)))
      (db.updated c ((db.view c).withRows table.name
        (rows.filter fun row => !isStale cutoff.micros row))).standing := by
  -- Both databases stand alike, so they show and lock the same.
  rw [← lockedFor_congr hstanding] at hfree
  rw [← view_congr hstanding] at hrows ⊢
  rw [← standing_updated_congr hstanding]
  exact write_leads hfree (hrows.purges _ _) (by rw [hrows.getD])

theorem purge_refused (hstanding : db'.standing = db.standing) (hlocked : db.lockedFor c = true)
    (hrows : (db.view c).Holds table rows) :
    Leads standing (purge c table cutoff) db' (.error (.lockConflict table.name)) db.standing := by
  cases hwriter : db.writer with
  | none => simp [lockedFor, hwriter] at hlocked
  | some writer =>
    obtain ⟨o, working⟩ := writer
    have hne : o ≠ c := by simpa [lockedFor, hwriter] using hlocked
    have hdb : db.standing = ⟨db.committed, some (o, working), db.clock, db.nextConnection⟩ :=
      congrArg (Standing.mk _ · _ _) hwriter
    rw [view_locked hdb hne] at hrows
    rw [hdb]
    exact purge_locked (hstanding.trans hdb) hne hrows cutoff

end Database

namespace Setup

variable {δ : Type} [HasTables δ] {setup : Setup δ} {w : World δ} {c : ConnectionId}
  {rows : List StatusRow} {cutoff : Instant}

/-- What a cleanup makes of a world where some rows are kept: those are the rows of the status table, no
other table is touched, and nothing else changes but the clock. -/
structure IsPurged (setup : Setup δ) (c : ConnectionId) (kept : List StatusRow) (w w' : World δ) :
    Prop where
  rows : (w'.database.view c).Holds setup.table kept
  others : (w.database.view c).DiffersIn setup.table.name (w'.database.view c)
  standing : w'.database.standing = (w.database.ticked.updated c (w'.database.view c)).standing
  record : w'.record = w.record

/-- Who was not locked out is not so afterwards. -/
theorem IsPurged.lockedFor {w' : World δ} {kept : List StatusRow} (h : setup.IsPurged c kept w w') :
    w'.database.lockedFor c = w.database.lockedFor c := by
  rw [Database.lockedFor_congr h.standing, Database.lockedFor_updated]
  rfl

theorem IsPurged.clock {w' : World δ} {kept : List StatusRow} (h : setup.IsPurged c kept w w') :
    w'.database.clock = w.database.clock.advanced :=
  (congrArg Standing.clock h.standing).trans (Database.clock_updated _ _ _)

/-- A cleanup whose retention is not too long reads the clock, and goes on if there is a cutoff. -/
theorem cleanup_run (hshort : ¬Guard.longestRetention < setup.retention.nanos) :
    (setup.guard.cleanup (setup.target c)).run =
      ((setup.target c).now >>= fun now =>
        (now.minus? setup.retention.nanos).elim (pure (.error {})) fun cutoff =>
          (setup.target c).purge setup.table cutoff >>= fun answer => pure (.ok answer)) := by
  simp only [Guard.cleanup, guard, hshort, if_false, ExceptT.run_bind, ExceptT.run_liftM,
    bind_map_left, bind_pure_comp]
  refine bind_congr fun now => ?_
  cases now.minus? setup.retention.nanos <;> rfl

theorem cleanup_leads (hshort : ¬Guard.longestRetention < setup.retention.nanos)
    (hcutoff : w.database.clock.now.minus? setup.retention.nanos = some cutoff)
    {answer : Except GuardError Nat} {after : Standing δ}
    (hpurge : ∀ db : Database δ, db.standing = w.database.ticked.standing →
      Leads Database.standing (Database.purge c setup.table cutoff) db answer after) :
    ∃ w', ((setup.guard.cleanup (setup.target c)).run.run w).run = (.ok answer, w') ∧
      w'.database.standing = after ∧ w'.record = w.record := by
  have hrun : Leads look (setup.guard.cleanup (setup.target c)).run w (.ok answer)
      (after, w.record) := by
    rw [cleanup_run hshort]
    have hnow : Leads look (setup.target c).now w w.database.clock.now
        (w.database.ticked.standing, w.record) :=
      perform_leads rfl fun _ hdb => Database.now_leads hdb
    refine hnow.bind fun w₁ h₁ => ?_
    rw [hcutoff]
    exact (perform_leads h₁ hpurge).bind fun w₂ h₂ => Leads.pure h₂ _
  obtain ⟨w', hrun', hlook⟩ := hrun.run
  exact ⟨w', hrun', congrArg Prod.fst hlook, congrArg Prod.snd hlook⟩

/-- A cleanup that is not locked out deletes the rows whose texts come before that of the cutoff. -/
theorem cleanup_purges (hfree : w.database.lockedFor c = false)
    (hrows : (w.database.view c).Holds setup.table rows)
    (hshort : ¬Guard.longestRetention < setup.retention.nanos)
    (hcutoff : w.database.clock.now.minus? setup.retention.nanos = some cutoff) :
    ∃ w', ((setup.guard.cleanup (setup.target c)).run.run w).run =
        (.ok (.ok (rows.countP (Database.isStale cutoff.micros))), w') ∧
      setup.IsPurged c (rows.filter fun row => !Database.isStale cutoff.micros row) w w' := by
  obtain ⟨w', hrun, hstanding, hrecord⟩ := cleanup_leads hshort hcutoff fun _ hdb =>
    Database.purge_leads hdb hfree hrows
  have hview := (Database.view_congr hstanding).trans (Database.view_updated _ c _)
  refine ⟨w', hrun, ?_, ?_, ?_, hrecord⟩
  · rw [hview]
    exact hrows.withRows _
  · rw [hview]
    exact Content.differsIn_withRows _ _ _
  · rw [hview, hstanding]

end Setup

section Purging

variable {δ : Type} [HasTables δ]

/-- **A cleanup deletes exactly what is old.** Let the rows of a status table have been registered at
times of plain years, the clock read a plain year, and the time before it by the retention be a date,
of whatever year. A cleanup during somebody else's transaction is told to wait, and nothing but the clock
has changed. Any other deletes the rows that were registered before the cutoff, both up to a microsecond,
and answers how many those are; all other rows and all other tables stay as they are. A second cleanup at
the same time deletes nothing. -/
theorem purge_exact (setup : Setup δ) (c : ConnectionId) {w : World δ} {rows : List StatusRow}
    {cutoff : Instant} (hrows : (w.database.view c).Holds setup.table rows)
    (hregistered : AreRegistered rows) (hnow : w.database.clock.now.HasPlainYear)
    (hcutoff : w.database.clock.now.minus? setup.retention.nanos = some cutoff) :
    (w.database.lockedFor c = true → ∃ w',
        ((setup.guard.cleanup (setup.target c)).run.run w).run =
            (.ok (.error (.lockConflict setup.table.name)), w') ∧
          w'.database.standing = w.database.ticked.standing ∧ w'.record = w.record) ∧
      (w.database.lockedFor c = false → ∃ (keep : StatusRow → Bool) (w' : World δ),
        (∀ row ∈ rows, (∃ t, row.RegisteredAt t) ∧
          ∀ t, row.RegisteredAt t → (keep row = false ↔ t.truncated < cutoff.truncated)) ∧
        ((setup.guard.cleanup (setup.target c)).run.run w).run =
          (.ok (.ok (rows.countP fun row => !keep row)), w') ∧
        setup.IsPurged c (rows.filter keep) w w' ∧
        (w'.database.clock.now = w.database.clock.now → ∃ w'',
          ((setup.guard.cleanup (setup.target c)).run.run w').run = (.ok (.ok 0), w'') ∧
            setup.IsPurged c (rows.filter keep) w' w'')) := by
  have hshort := Instant.not_longest_of_minus? hnow hcutoff
  refine ⟨fun hlocked => ?_, fun hfree => ?_⟩
  · exact Setup.cleanup_leads hshort hcutoff fun db hdb =>
      Database.purge_refused hdb hlocked hrows
  · obtain ⟨w', hrun, hpurged⟩ := Setup.cleanup_purges hfree hrows hshort hcutoff
    refine ⟨fun row => !Database.isStale cutoff.micros row, w', fun row hrow => ?_, ?_, hpurged, ?_⟩
    · refine ⟨hregistered.exists_time row hrow, fun t ht => ?_⟩
      rw [Bool.not_eq_false', Database.isStale, decide_eq_true_iff, ht.created]
      exact Instant.micros_lt_micros_cutoff ht.year hnow hcutoff
    · simpa only [Bool.not_not] using hrun
    · intro hsame
      rw [← hsame] at hcutoff
      obtain ⟨w'', hrun', hpurged'⟩ := Setup.cleanup_purges (hpurged.lockedFor.trans hfree)
        hpurged.rows hshort hcutoff
      -- What was kept by the first one is kept by the second one.
      have hkept : (rows.filter fun row => !Database.isStale cutoff.micros row).countP
          (Database.isStale cutoff.micros) = 0 := by
        rw [List.countP_eq_zero]
        intro row hrow
        simpa using (List.mem_filter.mp hrow).2
      rw [hkept] at hrun'
      simp only [List.filter_filter, Bool.and_self] at hpurged'
      exact ⟨w'', hrun', hpurged'⟩

end Purging

/-! ## An old and a new operation -/

namespace Counter

/-- One operation is registered and completed at once, and another one more than a day later. -/
def ageing (n : Nat) : Instant := .ofSeconds (if n < 2 then 0 else 100000)

/-- A database that counts, with its status table, and with that clock. -/
def young : World Counter :=
  ⟨{ committed := Content.withTable ⟨⟨0⟩, []⟩ StatusTable.standard.name, clock := ⟨ageing, 0⟩ }, {}⟩

/-- The calls of the two operations. -/
def twice : List Event :=
  ["old", "new"].map fun operation =>
    .call ⟨0, operation, .run 0 increment fun _ => .finish (.ok ())⟩

/-- The rows of the two operations. -/
def agedRows : List StatusRow :=
  [⟨"old", (ageing 0).micros, some (ageing 0).micros⟩,
    ⟨"new", (ageing 2).micros, some (ageing 2).micros⟩]

theorem hasPlainYear_ageing (n : Nat) : (ageing n).HasPlainYear := by
  unfold ageing Instant.HasPlainYear
  split <;> decide +kernel

theorem twice_isSparing (retention : Duration) :
    ∀ event ∈ twice, event.IsSparing (setup retention) := by
  intro event hevent
  obtain ⟨operation, -, rfl⟩ := List.mem_map.mp hevent
  exact increment_sparing retention 0

/-- The database after the two calls, and its clock. -/
def aged : World Counter := (((setup (.ofSecs 86400)).history twice).run young).run.2

theorem aged_readings :
    aged.database.writer.isNone = true ∧
      aged.database.committed.rows? StatusTable.standard.name = some agedRows ∧
      aged.database.clock.now.minus? (Duration.ofSecs 86400).nanos = some (.ofSeconds 13600) ∧
      aged.database.clock.advanced.now = aged.database.clock.now := by
  decide +kernel

theorem aged_registered : IsRegisteredAt (setup (.ofSecs 86400)) (look aged) := by
  have hyoung : IsRegisteredAt (setup (.ofSecs 86400)) (look young) :=
    ⟨hasPlainYear_ageing, [], Content.holds_withTable (by decide +kernel), .empty⟩
  have hends := history_registered hyoung (twice_isSparing (.ofSecs 86400))
  rwa [Ends, ← aged] at hends

/-- A cleanup after a day deletes the row of the first operation, and a second one nothing. -/
theorem purge_exact_aged :
    AreRegistered agedRows ∧ ∃ w' w'',
      (((setup (.ofSecs 86400)).guard.cleanup ((setup (.ofSecs 86400)).target 0)).run.run aged).run =
          (.ok (.ok 1), w') ∧
        (setup (.ofSecs 86400)).IsPurged 0
          [⟨"new", (ageing 2).micros, some (ageing 2).micros⟩] aged w' ∧
        (((setup (.ofSecs 86400)).guard.cleanup ((setup (.ofSecs 86400)).target 0)).run.run w').run =
          (.ok (.ok 0), w'') := by
  obtain ⟨hwriter, hrows, hcutoff, hsame⟩ := aged_readings
  have hfree := Option.isNone_iff_eq_none.mp hwriter
  obtain ⟨hyears, rows, hholds, hregistered⟩ := isRegisteredAt_look.mp aged_registered
  -- From here on it does not matter how the database came about.
  generalize aged = w at *
  obtain rfl : rows = agedRows := Option.some.inj (hholds.rows.symm.trans hrows)
  have hstanding : w.database.standing = ⟨w.database.committed, none, w.database.clock,
      w.database.nextConnection⟩ := congrArg (Standing.mk _ · _ _) hfree
  have hseen : (w.database.view 0).Holds (setup (.ofSecs 86400)).table agedRows := by
    rw [Database.view_free hstanding 0]
    exact hholds
  have hnow : w.database.clock.now.HasPlainYear := by
    rw [Clock.now]
    exact hyears _
  obtain ⟨-, hpurge⟩ := purge_exact (setup (.ofSecs 86400)) 0 hseen hregistered hnow hcutoff
  obtain ⟨keep, w', hkeep, hrun, hpurged, hagain⟩ := hpurge (Database.lockedFor_free hstanding 0)
  -- The first operation was registered before the cutoff, and the second one after it.
  have hold : keep ⟨"old", (ageing 0).micros, some (ageing 0).micros⟩ = false :=
    ((hkeep _ List.mem_cons_self).2 _ ⟨hasPlainYear_ageing 0, rfl⟩).mpr (by decide)
  have hnew : keep ⟨"new", (ageing 2).micros, some (ageing 2).micros⟩ = true := by
    refine Bool.ne_false_iff.mp fun hdeleted => ?_
    have hearly := ((hkeep _ (List.mem_cons_of_mem _ List.mem_cons_self)).2 _
      ⟨hasPlainYear_ageing 2, rfl⟩).mp hdeleted
    exact absurd hearly (by decide)
  obtain ⟨w'', hrun', -⟩ := hagain (by rw [hpurged.clock, hsame])
  simp only [agedRows, List.countP_cons, List.countP_nil, List.filter_cons, List.filter_nil, hold,
    hnew] at hrun hpurged
  exact ⟨hregistered, w', w'', hrun, hpurged, hrun'⟩

end Counter

end RetrySafe
