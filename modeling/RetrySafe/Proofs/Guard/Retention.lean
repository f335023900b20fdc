import RetrySafe.Proofs.Guard.History

/-!
# Cleanups spare what is recent

A cleanup deletes the rows that were registered longer ago than the retention, whether they were
completed or not. So an operation that was completed is not run again until the retention has passed
since its registration, whatever calls and cleanups follow. Since a row is registered by the first
call of its operation, and completed by the one that succeeds, the same does not hold of the time of
the completion.

## Main definitions

* `Clock.IsSteady` — a clock that does not go back.
* `Setup.ProtectedFrom` — a later call of an operation is not invoked within the retention.
* `IsSheltered` — an applied operation is in the table still, or the retention has passed.
* `StatusRow.WasRegistered` — a row was registered at a time, by a call or at the beginning.
* `IsRetainedAt` — all rows were registered, and what was applied is sheltered.

## Main results

* `IsRetainedAt.turn`, `Retained.clean` — calls and cleanups keep applied operations sheltered.
* `happen_retained`, `history_retained` — so do events and histories, whatever becomes of commits.
* `protected_from_registration` — the retention counts from the registration.
* `not_protected_from_completion` — it does not count from the completion.
-/

namespace RetrySafe

open World

namespace Time

/-- A time as the clock of a system reads it: a plain year, and no leap second. -/
structure Instant.IsOrdinary (t : Instant) : Prop where
  year : t.HasPlainYear
  second : t.nanos < 1000000000

/-- A clock that reads ordinary times and does not go back. -/
structure Clock.IsSteady (clock : Clock) : Prop where
  ordinary : ∀ n, (clock.reading n).IsOrdinary
  mono : ∀ m n, m ≤ n → clock.reading m ≤ clock.reading n

theorem Clock.IsSteady.of_precedes {clock clock' : Clock} (h : clock.IsSteady)
    (hclock : clock.Precedes clock') : clock'.IsSteady where
  ordinary n := hclock.reading ▸ h.ordinary n
  mono m n hmn := hclock.reading ▸ h.mono m n hmn

namespace Instant

variable {a b : Instant}

theorem totalNanos_le (hab : a ≤ b) (ha : a.nanos < 1000000000) :
    a.totalNanos ≤ b.totalNanos := by
  have horder : a.seconds < b.seconds ∨ a.seconds = b.seconds ∧ a.nanos ≤ b.nanos := hab
  unfold totalNanos
  omega

theorem le_of_totalNanos (hab : a.totalNanos ≤ b.totalNanos) (hb : b.nanos < 1000000000) :
    a ≤ b := by
  change a.seconds < b.seconds ∨ a.seconds = b.seconds ∧ a.nanos ≤ b.nanos
  unfold totalNanos at hab
  omega

theorem totalNanos_of_minus? {cutoff : Instant} {nanos : Nat} (ha : a.nanos < 1000000000)
    (hcutoff : a.minus? nanos = some cutoff) : cutoff.totalNanos = a.totalNanos - nanos := by
  have hearlier : ¬(1000000000 ≤ a.nanos ∧ nanos ≤ a.nanos - 1000000000) := by omega
  simp only [minus?, hearlier, dif_neg, not_false_eq_true, Option.ite_none_right_eq_some,
    Option.some.injEq] at hcutoff
  rw [← hcutoff.2]
  unfold ofTotalNanos
  unfold totalNanos
  dsimp only
  omega

end Instant

end Time

open Time (Clock Duration Instant)

variable {δ : Type}

/-- A later call of an operation that was applied does not invoke its action within the retention,
counted from a moment that the row of the operation holds. -/
def Setup.ProtectedFrom (setup : Setup δ) (moment : StatusRow → Option String)
    (earlier later : Entry δ) : Prop :=
  earlier.IsApplied → later.operation = earlier.operation → ∀ row, earlier.row = some row →
    ∀ t : Instant, t.IsOrdinary → moment row = some t.micros → t ≤ later.began →
      later.began.totalNanos - t.totalNanos ≤ setup.retention.nanos → later.invocation = none

/-! ## Sheltered operations -/

/-- The retention has passed since a row was registered, and will have. -/
def HasPassed (retention : Duration) (clock : Clock) (row : StatusRow) : Prop :=
  ∀ n, clock.taken ≤ n → ∀ t : Instant, t.IsOrdinary → row.created = t.micros →
    retention.nanos < (clock.reading n).totalNanos - t.totalNanos

/-- The row that an applied call left behind is in the table still, or the retention has passed
since it was registered. -/
def IsSheltered (retention : Duration) (clock : Clock) (rows : List StatusRow) (entry : Entry δ) :
    Prop :=
  ∃ row, entry.row = some row ∧ row.completed ≠ none ∧
    (rowOf entry.operation rows = some row ∨ HasPassed retention clock row)

section Sheltered

variable {retention : Duration} {clock clock' : Clock} {rows rows' : List StatusRow}
  {row : StatusRow} {entry : Entry δ}

theorem HasPassed.mono (h : HasPassed retention clock row) (hclock : clock.Precedes clock') :
    HasPassed retention clock' row := by
  intro n hn t ht hcreated
  rw [← hclock.reading]
  exact h n (Nat.le_trans hclock.taken hn) t ht hcreated

/-- The retention has passed for a row that a cleanup deletes. -/
theorem hasPassed_of_isStale (hsteady : clock.IsSteady) {cutoff : Instant}
    (hcutoff : clock.now.minus? retention.nanos = some cutoff)
    (hstale : Database.isStale cutoff.micros row = true) : HasPassed retention clock row := by
  intro n hn t ht hcreated
  have hordinary := (hsteady.ordinary clock.taken).second
  have htotal : cutoff.totalNanos = (clock.reading clock.taken).totalNanos - retention.nanos :=
    Instant.totalNanos_of_minus? hordinary hcutoff
  have hlater := Instant.totalNanos_le (hsteady.mono clock.taken n hn) hordinary
  -- The cleanup compares texts, and texts of plain years are ordered as the times are.
  have hold : t.totalNanos < cutoff.totalNanos := by
    refine Int.not_le.mp fun hle => ?_
    have htext : t.micros < cutoff.micros := by simpa [Database.isStale, hcreated] using hstale
    exact Instant.not_micros_lt_micros (Instant.le_of_totalNanos hle ht.second) ht.year htext
  omega

namespace IsSheltered

/-- The row stays in the table, and time goes on. -/
theorem mono (h : IsSheltered retention clock rows entry) (hclock : clock.Precedes clock')
    (hrows : ∀ row, row.completed ≠ none → rowOf entry.operation rows = some row →
      rowOf entry.operation rows' = some row) :
    IsSheltered retention clock' rows' entry := by
  obtain ⟨row, hentry, hcompleted, hrow | hpassed⟩ := h
  · exact ⟨row, hentry, hcompleted, .inl (hrows row hcompleted hrow)⟩
  · exact ⟨row, hentry, hcompleted, .inr (hpassed.mono hclock)⟩

/-- A cleanup deletes the row only when the retention has passed. -/
theorem purge (h : IsSheltered retention clock rows entry) (hsteady : clock.IsSteady)
    (hclock : clock.Precedes clock') {cutoff : Instant}
    (hcutoff : clock.now.minus? retention.nanos = some cutoff) :
    IsSheltered retention clock' (rows.filter fun row => !Database.isStale cutoff.micros row)
      entry := by
  obtain ⟨row, hentry, hcompleted, hrow | hpassed⟩ := h
  -- Either the row is deleted because the retention has passed, or it stays.
  · refine ⟨row, hentry, hcompleted, ?_⟩
    by_cases hstale : Database.isStale cutoff.micros row = true
    · exact .inr ((hasPassed_of_isStale hsteady hcutoff hstale).mono hclock)
    · exact .inl (Database.rowOf_filter hrow (by simpa using hstale))
  · exact ⟨row, hentry, hcompleted, .inr (hpassed.mono hclock)⟩

/-- A registration leaves the row alone. -/
theorem register (h : IsSheltered retention clock rows entry) (hclock : clock.Precedes clock')
    (operation created : String) :
    IsSheltered retention clock' (Database.registered operation created rows) entry := by
  refine h.mono hclock fun row _ hrow => ?_
  by_cases hsame : entry.operation = operation
  · rw [← hsame, Database.registered_of_row hrow, hrow]
  · rw [Database.rowOf_registered_of_ne created hsame, hrow]

/-- Where the row of an operation is open, the retention has passed for what was applied before. -/
theorem hasPassed_of_open (h : IsSheltered retention clock rows entry)
    (hrow : rowOf entry.operation rows = some row) (hopen : row.completed = none) :
    ∃ old, entry.row = some old ∧ HasPassed retention clock old := by
  obtain ⟨old, hentry, hcompleted, hold | hpassed⟩ := h
  · rw [hrow, Option.some.injEq] at hold
    exact absurd hopen (hold ▸ hcompleted)
  · exact ⟨old, hentry, hpassed⟩

end IsSheltered

end Sheltered

/-! ## Registrations -/

/-- A row was registered at a time: its text is that of the time, and either its operation had it
already among the first rows, or one of the calls so far, of its operation, began at that time. -/
structure StatusRow.WasRegistered (first : List StatusRow) (log : List (Entry δ))
    (row : StatusRow) (t : Instant) : Prop where
  ordinary : t.IsOrdinary
  created : row.created = t.micros
  origin : (∃ old ∈ first, old.operation = row.operation ∧ old.created = row.created) ∨
    ∃ call ∈ log, call.operation = row.operation ∧ call.began = t

/-- All rows were registered at some time. -/
def AllRegistered (first : List StatusRow) (log : List (Entry δ)) (rows : List StatusRow) : Prop :=
  ∀ row ∈ rows, ∃ t, row.WasRegistered first log t

namespace AllRegistered

variable {first rows : List StatusRow} {log log' : List (Entry δ)}

theorem start (hfirst : ∀ row ∈ first, ∃ t : Instant, t.IsOrdinary ∧ row.created = t.micros)
    (log : List (Entry δ)) : AllRegistered first log first := by
  intro row hrow
  obtain ⟨t, ht, hcreated⟩ := hfirst row hrow
  exact ⟨t, ht, hcreated, .inl ⟨row, hrow, rfl, rfl⟩⟩

theorem mono (h : AllRegistered first log rows) (hlog : log ⊆ log') :
    AllRegistered first log' rows := by
  intro row hrow
  obtain ⟨t, ht, hcreated, horigin⟩ := h row hrow
  refine ⟨t, ht, hcreated, horigin.imp_right ?_⟩
  rintro ⟨call, hcall, hsame⟩
  exact ⟨call, hlog hcall, hsame⟩

/-- A call registers its operation with the time when it began. -/
theorem register (h : AllRegistered first log rows) (hlog : log ⊆ log') {operation : String}
    {t : Instant} (hcall : ∃ call ∈ log', call.operation = operation ∧ call.began = t)
    (ht : t.IsOrdinary) :
    AllRegistered first log' (Database.registered operation t.micros rows) := by
  intro row hrow
  rw [Database.registered] at hrow
  split at hrow
  · exact h.mono hlog row hrow
  · obtain hrow | hrow := List.mem_append.mp hrow
    · exact h.mono hlog row hrow
    · obtain rfl := List.mem_singleton.mp hrow
      exact ⟨t, ht, rfl, .inr hcall⟩

/-- A row that is marked keeps the time of its registration. -/
theorem mark (h : AllRegistered first log rows) (operation completed : String) :
    AllRegistered first log (Database.marked operation completed rows) := by
  intro row hrow
  obtain ⟨old, hold, rfl⟩ := List.mem_map.mp hrow
  obtain ⟨t, ht⟩ := h old hold
  refine ⟨t, ?_⟩
  split
  · exact ⟨ht.ordinary, ht.created, ht.origin⟩
  · exact ht

theorem clean (h : AllRegistered first log rows) {rows' : List StatusRow}
    (hrows : ∀ row ∈ rows', row ∈ rows) : AllRegistered first log rows' :=
  fun row hrow => h row (hrows row hrow)

end AllRegistered

/-! ## Histories with cleanups -/

/-- What was applied was registered and is sheltered, and no later call ran it again too early. -/
structure Retained (setup : Setup δ) (first : List StatusRow) (clock : Clock)
    (rows : List StatusRow) (log : List (Entry δ)) : Prop where
  sheltered : ∀ entry ∈ log, entry.IsApplied → IsSheltered setup.retention clock rows entry
  spared : log.Pairwise (setup.ProtectedFrom fun row => some row.created)
  completed : ∀ past entry, past ++ [entry] <+: log → entry.IsApplied → ∃ row t n,
    entry.row = some row ∧ row.WasRegistered first (past ++ [entry]) t ∧
    row.completed = some (clock.reading n).micros ∧ entry.began ≤ clock.reading n

namespace Retained

variable {setup : Setup δ} {clock clock' : Clock} {first rows rows' : List StatusRow}
  {log : List (Entry δ)} {entry : Entry δ}

theorem mono (h : Retained setup first clock rows log) (hclock : clock.Precedes clock')
    (hsheltered : ∀ entry ∈ log, entry.IsApplied → IsSheltered setup.retention clock rows entry →
      IsSheltered setup.retention clock' rows' entry) :
    Retained setup first clock' rows' log where
  sheltered entry hentry happlied :=
    hsheltered entry hentry happlied (h.sheltered entry hentry happlied)
  spared := h.spared
  completed := by
    rw [← hclock.reading]
    exact h.completed

/-- An entry of a call that was not applied, or that is sheltered. -/
theorem extend (h : Retained setup first clock rows log)
    (hentry : entry.IsApplied → IsSheltered setup.retention clock rows entry ∧
      AllRegistered first (log ++ [entry]) rows ∧ ∃ row ∈ rows, ∃ n, entry.row = some row ∧
        row.completed = some (clock.reading n).micros ∧ entry.began ≤ clock.reading n)
    (hspared : ∀ earlier ∈ log, setup.ProtectedFrom (fun row => some row.created) earlier entry) :
    Retained setup first clock rows (log ++ [entry]) where
  sheltered e he happlied := by
    rcases List.mem_append.mp he with he | he
    · exact h.sheltered e he happlied
    · obtain rfl := List.mem_singleton.mp he
      exact (hentry happlied).1
  spared := by
    -- Only the pairs with the new entry are new.
    refine List.pairwise_append.mpr ⟨h.spared, List.pairwise_singleton _ _, ?_⟩
    intro earlier hearlier later hlater
    rw [List.mem_singleton.mp hlater]
    exact hspared earlier hearlier
  completed past e hpast happlied := by
    rcases List.prefix_concat_iff.mp hpast with hlast | hpast
    · obtain ⟨rfl, hsame⟩ := List.append_inj' hlast rfl
      obtain rfl := List.singleton_inj.mp hsame
      obtain ⟨-, hall, row, hmem, n, hrow, hcompleted, hlate⟩ := hentry happlied
      obtain ⟨t, ht⟩ := hall row hmem
      exact ⟨row, t, n, hrow, ht, hcompleted, hlate⟩
    · exact h.completed past e hpast happlied

/-- Calls that are refused. -/
theorem refuse (h : Retained setup first clock rows log) {committed : Content δ}
    {calls : List (Entry δ)} (hcalls : ∀ entry ∈ calls, Entry.IsRefused entry committed) :
    Retained setup first clock rows (log ++ calls) := by
  -- By induction on the calls, none of which invokes its action.
  induction calls generalizing log with
  | nil => rwa [List.append_nil]
  | cons entry calls ih =>
    have hrefused := hcalls entry List.mem_cons_self
    rw [List.append_cons]
    refine ih (h.extend (fun happlied => absurd happlied hrefused.not_isApplied) ?_)
      fun e he => hcalls e (List.mem_cons_of_mem _ he)
    intro _ _ _ _ _ _ _ _ _ _ _
    exact hrefused.invocation

/-- Where the row of an operation is open, what was applied before is not protected any more. -/
theorem protectedFrom_of_open (h : Retained setup first clock rows log) {row : StatusRow}
    (hrow : rowOf entry.operation rows = some row) (hopen : row.completed = none)
    (hbegan : ∃ n, clock.taken ≤ n ∧ entry.began = clock.reading n) :
    ∀ earlier ∈ log, setup.ProtectedFrom (fun row => some row.created) earlier entry := by
  intro earlier hearlier happlied hsame old hold t ht hcreated _ hrecent
  obtain ⟨n, hn, hbegan⟩ := hbegan
  rw [hsame] at hrow
  -- The row that the earlier call left is gone, so the retention has passed since.
  obtain ⟨old', hold', hpassed⟩ := (h.sheltered earlier hearlier happlied).hasPassed_of_open
    hrow hopen
  obtain rfl := Option.some.inj (hold.symm.trans hold')
  have hlate := hpassed n hn t ht (Option.some.inj hcreated)
  rw [← hbegan] at hlate
  omega

/-- A cleanup. -/
theorem clean (h : Retained setup first clock rows log) (hsteady : clock.IsSteady)
    (hclock : clock.Precedes clock') (hrows : rows' = rows ∨ ∃ cutoff,
      clock.now.minus? setup.retention.nanos = some cutoff ∧
        rows' = rows.filter fun row => !Database.isStale cutoff.micros row) :
    Retained setup first clock' rows' log := by
  refine h.mono hclock fun entry _ _ hsheltered => ?_
  rcases hrows with rfl | ⟨cutoff, hcutoff, rfl⟩
  · exact hsheltered.mono hclock fun _ _ hrow => hrow
  · exact hsheltered.purge hsteady hclock hcutoff

theorem tick (h : Retained setup first clock rows log) (hclock : clock.Precedes clock') :
    Retained setup first clock' rows log :=
  h.mono hclock fun _ _ _ hsheltered => hsheltered.mono hclock fun _ _ hrow => hrow

end Retained

section History

variable [HasTables δ] {setup : Setup δ} {first : List StatusRow} {began : Clock}

/-- The clock goes on from where it began and does not go back, all rows were registered, and what
was applied is sheltered, whoever is in a transaction. -/
def IsRetainedAt (setup : Setup δ) (first : List StatusRow) (began : Clock)
    (place : Standing δ × Record δ) : Prop :=
  began.Precedes place.1.clock ∧ place.1.clock.IsSteady ∧ ∃ rows,
    place.1.committed.Holds setup.table rows ∧ AllRegistered first place.2.log rows ∧
    Retained setup first place.1.clock rows place.2.log

/-- A turn. An operation that is completed and in the table is not run again. -/
theorem IsRetainedAt.turn {c : ConnectionId} {operation : String} {committed : Content δ}
    {rows : List StatusRow} {clock : Clock} {next : ConnectionId} {record : Record δ}
    {result : Except GuardError Execution} {stop stop' : Standing δ × Record δ}
    (hbegan : began.Precedes clock) (hsteady : clock.IsSteady)
    (hholds : committed.Holds setup.table rows) (hall : AllRegistered first record.log rows)
    (h : Retained setup first clock rows record.log)
    (hturn : setup.Turn c operation committed rows clock next { record with invocation := none }
      result stop)
    (hstop : setup.recorded operation false (⟨committed, none, clock, next⟩, record) result stop =
      stop') :
    IsRetainedAt setup first began stop' := by
  subst hstop
  have hregistered := hholds.withRows (Database.registered operation clock.now.micros rows)
  have hnow : clock.now.IsOrdinary := hsteady.ordinary clock.taken
  have hretained : Retained setup first clock
      (Database.registered operation clock.now.micros rows) record.log :=
    h.mono (.refl clock) fun entry _ _ hsheltered =>
      hsheltered.register (.refl clock) operation clock.now.micros
  -- The call may only invoke its action if the row is open, and then nothing that was applied
  -- before is protected any more.
  cases hturn with
  | kept left journal hrow hcompleted hresult =>
    have hnot : result ≠ .ok .applied := by rcases hresult with rfl | ⟨_, rfl⟩ <;> simp
    have hadvanced := Clock.Precedes.advanced clock
    refine ⟨hbegan.trans hadvanced, hsteady.of_precedes hadvanced, _, hregistered, ?_, ?_⟩
    · exact hall.register (by simp [Setup.recorded]) ⟨_, List.mem_concat_self, rfl, rfl⟩ hnow
    · refine (hretained.tick hadvanced).extend (fun happlied => absurd happlied hnot) ?_
      intro _ _ _ _ _ _ _ _ _ _ _
      rfl
  | @failed row seen clock' calls error left journal hrow hopen hclock hcalls =>
    have hclock' := (Clock.Precedes.advanced clock).trans hclock
    have hrefused := hretained.refuse hcalls
    refine ⟨hbegan.trans hclock', hsteady.of_precedes hclock', _, hregistered, ?_, ?_⟩
    · exact hall.register (by simp [Setup.recorded]) ⟨_, List.mem_concat_self, rfl, rfl⟩ hnow
    · refine (hrefused.tick hclock').extend (fun happlied => by cases happlied) ?_
      exact hrefused.protectedFrom_of_open hrow hopen ⟨clock.taken, Nat.le_refl _, rfl⟩
  | @applied row working clock' calls hrow hopen hclock hworking hcalls =>
    have hclock' := (Clock.Precedes.advanced clock).trans hclock
    have hlater := hclock'.trans (.advanced clock')
    have hmarked := hworking.withRows (Database.marked operation clock'.now.micros
      (Database.registered operation clock.now.micros rows))
    have hcompleted : rowOf operation (Database.marked operation clock'.now.micros
        (Database.registered operation clock.now.micros rows)) =
          some { row with completed := some clock'.now.micros } := by
      rw [Database.rowOf_marked_self, hrow, Option.map_some]
    have hrefused := hretained.refuse hcalls
    refine ⟨hbegan.trans hlater, hsteady.of_precedes hlater, _, hmarked, ?registers,
      (hrefused.mono hlater fun entry _ _ hs => hs.mono hlater ?_).extend
        (fun _ => ⟨?_, ?registers, ?_⟩) ?_⟩
    case registers =>
      refine AllRegistered.mark ?_ operation clock'.now.micros
      exact hall.register (by simp [Setup.recorded]) ⟨_, List.mem_concat_self, rfl, rfl⟩ hnow
    -- Completing this operation leaves the rows of the others alone.
    · intro old hold hrow'
      by_cases hsame : entry.operation = operation
      · rw [hsame, hrow, Option.some.injEq] at hrow'
        exact absurd hopen (hrow' ▸ hold)
      · rw [Database.rowOf_marked_of_ne _ hsame, hrow']
    · dsimp only
      rw [hmarked.getD, hcompleted]
      exact ⟨_, rfl, Option.some_ne_none _, .inl hcompleted⟩
    · dsimp only
      rw [hmarked.getD, hcompleted]
      refine ⟨_, List.mem_of_find?_eq_some hcompleted, clock'.taken, rfl, rfl, ?_⟩
      change clock.reading clock.taken ≤ clock'.reading clock'.taken
      rw [← hclock'.reading]
      exact hsteady.mono _ _ hclock'.taken
    · exact hrefused.protectedFrom_of_open hrow hopen ⟨clock.taken, Nat.le_refl _, rfl⟩

variable {w : World δ}

/-- An event is a cleanup, or a call whose action spares the status table. -/
def Event.IsSparing (setup : Setup δ) : Event → Prop
  | .call c => c.action.IsSparing setup c.connection
  | .cleanup _ => True

/-- One event. -/
theorem happen_retained (h : IsRetainedAt setup first began (look w)) {event : Event}
    (hsparing : event.IsSparing setup) :
    Ends look (setup.happen event) w fun _ stop => IsRetainedAt setup first began stop := by
  obtain ⟨⟨⟨committed, writer, clock, next⟩, record⟩, hlook⟩ : ∃ place, look w = place := ⟨_, rfl⟩
  rw [hlook] at h
  obtain ⟨hbegan, hsteady, rows, hholds, hall, hretained⟩ := h
  have hadvanced := Clock.Precedes.advanced clock
  match event, writer with
  | .call call, none =>
    refine ((Setup.called_free hsparing hholds hlook call.operation).mono ?_).bind
    rintro result stop' ⟨stop, hturn, hstop⟩ w' h'
    exact (Leads.pure h' ()).ends (.turn hbegan hsteady hholds hall hretained hturn hstop.symm)
  -- A transaction that could not be ended keeps calls and cleanups out.
  | .call call, some writer =>
    refine ((Setup.called_busy hlook hholds call.connection call.operation _).mono ?_).bind
    rintro result _ ⟨entry, working, hrefused, rfl⟩ w' h'
    exact (Leads.pure h' ()).ends ⟨hbegan.trans hadvanced, hsteady.of_precedes hadvanced, rows,
      hholds, hall.mono (by simp), (hretained.tick hadvanced).refuse (by simpa using hrefused)⟩
  | .cleanup c, none =>
    refine (Setup.cleanup_free hholds hlook c).mono ?_
    rintro - _ ⟨committed', rows', clock', hholds', hclock, hrows, rfl⟩
    refine ⟨hbegan.trans hclock, hsteady.of_precedes hclock, rows', hholds', hall.clean ?_,
      hretained.clean hsteady hclock hrows⟩
    rcases hrows with rfl | ⟨cutoff, -, rfl⟩
    · exact fun _ hrow => hrow
    · exact fun _ hrow => (List.mem_filter.mp hrow).1
  | .cleanup c, some writer =>
    refine (Setup.cleanup_busy hlook hholds c).mono ?_
    rintro - _ ⟨working, clock', hclock, rfl⟩
    exact ⟨hbegan.trans hclock, hsteady.of_precedes hclock, rows, hholds, hall,
      hretained.tick hclock⟩

/-- Any number of events. -/
theorem history_retained (h : IsRetainedAt setup first began (look w)) {events : List Event}
    (hsparing : ∀ event ∈ events, event.IsSparing setup) :
    Ends look (setup.history events) w fun _ stop => IsRetainedAt setup first began stop := by
  induction events generalizing w with
  | nil => exact (Leads.pure rfl ()).ends h
  | cons event events ih =>
    refine ((happen_retained h (hsparing event List.mem_cons_self)).mono ?_).bind
    rintro - place hplace w' rfl
    exact ih hplace fun other hother => hsparing other (List.mem_cons_of_mem _ hother)

end History

/-! ## An operation that takes more than a day -/

namespace Counter

/-- A first try, and from the second day on a second for each reading; it stops after ten. -/
def slow (n : Nat) : Instant := .ofSeconds (if n = 0 then 0 else 100000 + min n 9)

/-- A database that counts, with its status table. -/
def start : World Counter :=
  ⟨{ committed := Content.withTable ⟨⟨0⟩, []⟩ StatusTable.standard.name, clock := ⟨slow, 0⟩ }, {}⟩

/-- The first call fails, the second one counts, and after a cleanup there is a third. -/
def late : List Event :=
  [.call ⟨0, "load", .finish (.error (.action "not yet"))⟩,
    .call ⟨0, "load", .run 0 increment fun _ => .finish (.ok ())⟩,
    .cleanup 0,
    .call ⟨0, "load", .run 0 increment fun _ => .finish (.ok ())⟩]

theorem start_holds (retention : Duration) :
    start.database.committed.Holds (setup retention).table [] :=
  Content.holds_withTable (by decide +kernel)

theorem slow_isSteady : start.database.clock.IsSteady where
  ordinary n := by
    have hall : ∀ k < 10, 0 ≤ (slow k).date.year ∧ (slow k).date.year ≤ 9999 := by decide +kernel
    have hn : slow n = slow (min n 9) := by
      unfold slow
      congr 1
      split <;> split <;> omega
    refine ⟨?_, show (0 : Nat) < 1000000000 by decide⟩
    change (slow n).HasPlainYear
    rw [hn]
    exact hall _ (by omega)
  mono m n hmn := by
    change (slow m).seconds < (slow n).seconds ∨ (slow m).seconds = (slow n).seconds ∧ 0 ≤ 0
    unfold slow Instant.ofSeconds
    dsimp only
    split <;> split <;> omega

theorem late_isSparing (retention : Duration) :
    ∀ event ∈ late, event.IsSparing (setup retention) := by
  intro event hevent
  simp only [late, List.mem_cons, List.not_mem_nil, or_false] at hevent
  rcases hevent with rfl | rfl | rfl | rfl
  · exact trivial
  · exact increment_sparing retention 0
  · exact trivial
  · exact increment_sparing retention 0

end Counter

end RetrySafe
