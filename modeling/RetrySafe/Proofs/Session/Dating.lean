import RetrySafe.Proofs.Session.Findable
import RetrySafe.Proofs.Target.StatusTable
import RetrySafe.Proofs.Time.Bytes

/-!
# Stored times

Status tables and the tables of a store keep times as texts. A reader of such a text gets the time that
was written without what is below a microsecond. A store cuts that off before it answers with a time, and
no row changes when it was created. So what is said of its creation when a project or an attempt is created
is said by every later reader.

## Main definitions

* `Store.Reaches` — stores that come of one another.
* `Store.Shows` — the attempts that a store answers with.

## Main results

* `Database.completion_marked` — the time of a completion as it is read.
* `project_dated`, `attempt_dated` — the time of a creation as it is read later on.
* `times_survive` — stored times in order, and as they are read.
-/

namespace RetrySafe

open Time (Clock Instant)

/-! ## Status tables -/

/-- The time of a completion as it is read. -/
theorem Database.completion_marked {t : Instant} (ht : t.HasPlainYear) (operation created : String)
    (rows : List StatusRow) :
    completion operation (marked operation t.micros (registered operation created rows)) =
      .ok (some t.truncated) := by
  have hrow : rowOf operation (marked operation t.micros (registered operation created rows)) =
      some { (rowOf operation rows).getD ⟨operation, created, none⟩ with completed := some t.micros } := by
    rw [rowOf_marked_self, rowOf_registered_self]
    rfl
  unfold rowOf at hrow
  simp [completion, hrow, Instant.readStrict_micros ht]

theorem Database.isStale_micros_iff {a b : Instant} (ha : a.HasPlainYear) (hb : b.HasPlainYear)
    (operation : String) (completed : Option String) :
    isStale b.micros ⟨operation, a.micros, completed⟩ = true ↔ a.truncated < b.truncated := by
  rw [isStale, decide_eq_true_iff, Instant.micros_lt_micros_iff ha hb]

namespace Session

/-! ## Later stores -/

/-- A store comes from another one by operations whose arguments are values of their types. -/
def Store.Reaches (store store' : Store) : Prop :=
  ∃ operations events, (∀ operation ∈ operations, operation.IsProper) ∧
    ((history operations).run store).run = (events, store')

namespace Store.Reaches

variable {clock : Clock} {store store' store'' : Store}

theorem refl (store : Store) : store.Reaches store :=
  ⟨[], [], fun _ h => absurd h List.not_mem_nil, rfl⟩

theorem trans (h : store.Reaches store') (h' : store'.Reaches store'') : store.Reaches store'' := by
  obtain ⟨operations, events, hproper, hrun⟩ := h
  obtain ⟨operations', events', hproper', hrun'⟩ := h'
  refine ⟨operations ++ operations', events ++ events', fun operation hmem => ?_,
    history_append hrun hrun'⟩
  exact (List.mem_append.mp hmem).elim (hproper operation) (hproper' operation)

/-- One operation. -/
theorem single {operation : Operation} {reply : Reply} (hproper : operation.IsProper)
    (h : (operation.perform.run store).run = (reply, store')) : store.Reaches store' := by
  refine ⟨[operation], [⟨operation, reply⟩], fun _ hmem => List.mem_singleton.mp hmem ▸ hproper, ?_⟩
  have hrun : ((history [operation]).run store).run =
      ([⟨operation, (operation.perform.run store).run.1⟩], (operation.perform.run store).run.2) := rfl
  rw [hrun, h]

theorem createProject {site : Int} {name : String} {result : Except StoreError Project}
    (hsite : IsSite site) (h : ((Store.createProject site name).run store).run = (result, store')) :
    store.Reaches store' := by
  have hrun : (((Operation.createProject site name).perform).run store).run =
      (.project ((Store.createProject site name).run store).run.1,
        ((Store.createProject site name).run store).run.2) := rfl
  have hproper : (Operation.createProject site name).IsProper := hsite
  exact single hproper (hrun.trans (by rw [h]))

theorem submit {limits : Limits} {request : Request} {dependent : Option Int}
    {result : Except AttemptError AttemptWithSession}
    (hproper : (Operation.submit limits request dependent).IsProper)
    (h : ((Session.submit limits request dependent).run store).run = (result, store')) :
    store.Reaches store' :=
  ⟨_, _, fun _ hmem => List.mem_singleton.mp hmem ▸ hproper, history_submit h⟩

theorem reads (h : store.Reaches store') (hclock : ∀ n, (store.clock.reading n).HasPlainYear) (n : Nat) :
    (store'.clock.reading n).HasPlainYear := by
  obtain ⟨_, _, -, hrun⟩ := h
  exact (history_clock hrun).reading ▸ hclock n

theorem grows (h : store.Reaches store') (hconsistent : store.tables.IsConsistent) :
    store.tables.Grows store'.tables := by
  obtain ⟨_, _, -, hrun⟩ := h
  exact history_grows hconsistent hrun

/-- What comes from nothing is consistent and legible. -/
theorem legible (hclock : ∀ n, (clock.reading n).HasPlainYear)
    (h : Store.Reaches { clock := clock } store) :
    store.tables.IsConsistent ∧ ∃ events, IsLegible store.tables events := by
  obtain ⟨operations, events, hproper, hrun⟩ := h
  exact ⟨(history_kept hrun).consistent, events, history_legible hclock hproper hrun⟩

end Store.Reaches

variable {clock : Clock} {tables : Tables} {store store₁ store₂ : Store} {t : Instant}

/-! ## Projects -/

theorem created_of_project {row : ProjectRow} {project : Project} (h : row.project = .ok project) :
    timeColumn 3 row.created = .ok project.created := by
  obtain ⟨_, -, h⟩ := bind_ok h
  obtain ⟨_, hcreated, h⟩ := bind_ok h
  obtain ⟨_, -, h⟩ := bind_ok h
  cases h
  exact hcreated

/-- A project is created at a reading of the clock, and its row says so. -/
theorem createProject_ok {site : Int} {name : String} {project : Project}
    (h : ((Store.createProject site name).run store).run = (.ok project, store₁)) :
    project.created = store.clock.now.truncated ∧
      ∃ row ∈ store₁.tables.projects, row.id = project.id ∧
        row.created = store.clock.now.truncated.micros := by
  cases hid : store.tables.nextProject with
  | error fault =>
    simp [Store.createProject, Store.now, Store.ask, hid] at h
  | ok id =>
    simp [Store.createProject, Store.now, Store.ask, Store.edit, hid] at h
    obtain ⟨rfl, rfl⟩ := h
    exact ⟨rfl, _, List.mem_append_right _ (List.mem_singleton_self _), rfl, rfl⟩

/-- A project that was dated is read with its date later on. -/
theorem project_dated (hgrows : tables.Grows store₂.tables) (hconsistent : store₂.tables.IsConsistent)
    {events : List Event} (hlegible : IsLegible store₂.tables events) {row : ProjectRow}
    (hrow : row ∈ tables.projects) (hdate : HoldsTime row.created t) :
    ∃ found, ((Store.project row.id).run store₂).run.1 = .ok found ∧ found.created = t := by
  obtain ⟨row', hrow', hbecomes⟩ := hgrows.projects.exists_becomes hrow
  obtain ⟨found, hfound⟩ := hlegible.projects row' hrow'
  -- No two projects have the same id.
  have hfind : store₂.tables.projects.find? (·.id = row.id) = some row' :=
    find?_eq_of_unique hrow' (decide_eq_true hbecomes.id) fun other hother hid =>
      List.inj_on_of_nodup_map hconsistent.sound.projects hother hrow'
        ((of_decide_eq_true hid).trans hbecomes.id.symm)
  have hread : ((Store.project row.id).run store₂).run.1 = .ok found := by
    change Store.projectIn store₂.tables row.id = .ok found
    rw [Store.projectIn, hfind]
    exact congrArg Store.orDatabase hfound
  have hsame : row'.created = row.created := by rw [hbecomes.1]
  have hcolumn := created_of_project hfound
  rw [hsame, hdate.column] at hcolumn
  exact ⟨found, hread, (Except.ok.inj hcolumn).symm⟩

/-! ## Attempts -/

theorem created_of_attempt {row : AttemptRow} {attempt : Attempt} (h : row.attempt = .ok attempt) :
    timeColumn 14 row.created = .ok attempt.created := by
  obtain ⟨_, -, h⟩ := bind_ok h
  obtain ⟨_, -, h⟩ := bind_ok h
  obtain ⟨_, -, h⟩ := bind_ok h
  obtain ⟨_, -, h⟩ := bind_ok h
  obtain ⟨_, hcreated, h⟩ := bind_ok h
  obtain ⟨_, -, h⟩ := bind_ok h
  obtain ⟨_, -, h⟩ := bind_ok h
  cases h
  exact hcreated

/-- What a lookup finds, or a submission finds in its place. -/
inductive Store.Shows (store : Store) (shown : AttemptWithSession) : Prop
  | found {limits : Limits} {key : Key} {retryName : Option String}
      (h : ((find limits key retryName).run store).run.1 = .ok shown) : store.Shows shown
  | existing {limits : Limits} {request : Request} {dependent : Option Int}
      (h : ((Session.submit limits request dependent).run store).run.1 =
        .error (.alreadyExists shown)) : store.Shows shown

/-- Both look it up in the same way. -/
theorem Store.Shows.attemptIn {shown : AttemptWithSession} (h : store.Shows shown) :
    ∃ site key retryName, Store.attemptIn store.tables site key retryName = .ok shown := by
  cases h with
  | @found limits key retryName h =>
    refine ⟨limits.site, key, retryName, ?_⟩
    by_cases hwhole : key.time.IsWholeSecond
    · rw [find_run hwhole] at h
      cases hread : Store.attemptIn store.tables limits.site key retryName with
      | error error =>
        rw [hread] at h
        cases h
      | ok other =>
        rw [hread] at h
        cases h
        rfl
    · rw [find_fractional hwhole] at h
      cases h
  | existing h =>
    obtain ⟨-, -, hread⟩ := submitted_alreadyExists (submitted_of_run (Prod.ext h rfl))
    exact ⟨_, _, _, hread⟩

/-- An attempt that is shown was read from the row with its id. -/
theorem Store.Shows.exists_row (hconsistent : store.tables.IsConsistent) {shown : AttemptWithSession}
    (h : store.Shows shown) :
    ∃ row ∈ store.tables.attempts, row.id = shown.attempt.id ∧ row.attempt = .ok shown.attempt := by
  obtain ⟨site, key, retryName, hread⟩ := h.attemptIn
  obtain ⟨s, a, hrows, -⟩ := attemptIn_ok hconsistent hread
  exact ⟨a, hrows.attempt, (attempt_ok hrows.storedAttempt).1.symm, hrows.storedAttempt⟩

/-- An attempt that was dated keeps its date in its row, and is read with it later on. -/
theorem attempt_dated (hgrows : tables.Grows store₂.tables) (hconsistent : store₂.tables.IsConsistent)
    {row : AttemptRow} (hrow : row ∈ tables.attempts) (hdate : HoldsTime row.created t) :
    (∃ row' ∈ store₂.tables.attempts, row'.id = row.id ∧ timeColumn 14 row'.created = .ok t) ∧
      ∀ shown, store₂.Shows shown → shown.attempt.id = row.id → shown.attempt.created = t := by
  obtain ⟨row', hrow', hbecomes⟩ := hgrows.attempts.exists_becomes hrow
  have hsame : row'.created = row.created := by rw [hbecomes.1]
  have hcolumn : timeColumn 14 row'.created = .ok t := hsame ▸ hdate.column 14
  refine ⟨⟨row', hrow', hbecomes.id, hcolumn⟩, fun shown hshown hid => ?_⟩
  obtain ⟨other, hother, hotherid, hread⟩ := hshown.exists_row hconsistent
  -- No two attempts have the same id.
  obtain rfl := List.inj_on_of_nodup_map hconsistent.sound.attempts hother hrow'
    ((hotherid.trans hid).trans hbecomes.id.symm)
  exact Except.ok.inj ((created_of_attempt hread).symm.trans hcolumn)

/-! ## After any history -/

section History

variable (hclock : ∀ n, (clock.reading n).HasPlainYear)
  (hbefore : Store.Reaches { clock := clock } store) (hlater : store₁.Reaches store₂)

include hclock hbefore hlater

/-- A project is read with the time of its creation. -/
theorem createProject_dated {site : Int} {name : String} {project : Project} (hsite : IsSite site)
    (h : ((Store.createProject site name).run store).run = (.ok project, store₁)) :
    project.created = store.clock.now.truncated ∧
      ∃ found, ((Store.project project.id).run store₂).run.1 = .ok found ∧
        found.created = project.created := by
  -- The store after the creation comes from nothing, and so does the later one.
  have hreaches : Store.Reaches { clock := clock } store₁ :=
    hbefore.trans (Store.Reaches.createProject hsite h)
  obtain ⟨hconsistent, -⟩ := hreaches.legible hclock
  obtain ⟨hconsistent', _, hlegible⟩ := (hreaches.trans hlater).legible hclock
  obtain ⟨hdate, row, hrow, hid, hwritten⟩ := createProject_ok h
  have hreads : ∀ n, (store.clock.reading n).HasPlainYear := hbefore.reads hclock
  have hholds : HoldsTime row.created project.created := by
    rw [hwritten, hdate]
    exact holdsTime_truncated (hreads _)
  refine ⟨hdate, ?_⟩
  rw [← hid]
  exact project_dated (hlater.grows hconsistent) hconsistent' hlegible hrow hholds

/-- An attempt is shown with the time of its creation. -/
theorem submit_dated {limits : Limits} {request : Request} {dependent : Option Int}
    {created : AttemptWithSession} (hproper : (Operation.submit limits request dependent).IsProper)
    (h : ((submit limits request dependent).run store).run = (.ok created, store₁)) :
    created.attempt.created = store.clock.advanced.now.truncated ∧
      (∃ row ∈ store₂.tables.attempts, row.id = created.attempt.id ∧
        timeColumn 14 row.created = .ok created.attempt.created) ∧
      ∀ shown, store₂.Shows shown → shown.attempt.id = created.attempt.id →
        shown.attempt.created = created.attempt.created := by
  have hreaches : Store.Reaches { clock := clock } store₁ :=
    hbefore.trans (Store.Reaches.submit hproper h)
  obtain ⟨hconsistent, -⟩ := hreaches.legible hclock
  obtain ⟨hconsistent', -⟩ := (hreaches.trans hlater).legible hclock
  have hreads : ∀ n, (store.clock.reading n).HasPlainYear := hbefore.reads hclock
  have hkeyed := (hbefore.legible hclock).1.sound.sessions
  obtain ⟨-, hinserted⟩ := submitted_ok (submitted_of_run h)
  -- The new row holds the attempt, its date included, and rows grow only by being finished.
  obtain ⟨-, -, -, -, -, s, row, hstored, -⟩ :=
    exists_isStoredAs hkeyed hreads hproper.1 hproper.2.params h
  rw [← hstored.holds.id]
  exact ⟨(inserts_of_inserted hkeyed hinserted).1,
    attempt_dated (hlater.grows hconsistent) hconsistent' hstored.attempt hstored.holds.created⟩

end History

/-- **Times survive storage.** Times of plain years are written as texts of one width, whose bytes are in
the order of the times up to a microsecond; so who compares the texts of a status table compares times. A
status table and the columns of a store give a written time back without what is below a microsecond. A
project and an attempt are created at a reading of the clock without that part. Whatever is done to the
store afterwards, a reader of the project gets the same time of its creation, the row of the attempt holds
it, and so does every answer in which the attempt is shown. -/
theorem times_survive {a b : Instant} (ha : a.HasPlainYear) (hb : b.HasPlainYear) :
    ((Text.bytes a.micros).length = 27 ∧ (Text.bytes b.micros).length = 27) ∧
      (Text.bytes a.micros < Text.bytes b.micros ↔ a.truncated < b.truncated) ∧
      (∀ operation completed,
        Database.isStale b.micros ⟨operation, a.micros, completed⟩ = true ↔ a.truncated < b.truncated) ∧
      (∀ operation created rows, Database.completion operation
        (Database.marked operation a.micros (Database.registered operation created rows)) =
          .ok (some a.truncated)) ∧
      (∀ index, timeColumn index a.micros = .ok a.truncated ∧
        optionalTimeColumn index (some a.micros) = .ok (some a.truncated)) ∧
      ∀ (clock : Clock) (store store₁ store₂ : Store), (∀ n, (clock.reading n).HasPlainYear) →
        Store.Reaches { clock := clock } store → store₁.Reaches store₂ →
        (∀ site name project, IsSite site →
          ((Store.createProject site name).run store).run = (.ok project, store₁) →
            project.created = store.clock.now.truncated ∧
            ∃ found, ((Store.project project.id).run store₂).run.1 = .ok found ∧
              found.created = project.created) ∧
        ∀ limits request dependent created, (Operation.submit limits request dependent).IsProper →
          ((submit limits request dependent).run store).run = (.ok created, store₁) →
            created.attempt.created = store.clock.advanced.now.truncated ∧
            (∃ row ∈ store₂.tables.attempts, row.id = created.attempt.id ∧
              timeColumn 14 row.created = .ok created.attempt.created) ∧
            ∀ shown, store₂.Shows shown → shown.attempt.id = created.attempt.id →
              shown.attempt.created = created.attempt.created := by
  refine ⟨⟨Instant.length_bytes_micros ha, Instant.length_bytes_micros hb⟩,
    Instant.bytes_micros_lt_iff ha hb, Database.isStale_micros_iff ha hb,
    Database.completion_marked ha, fun index => ⟨(holdsTime_micros ha).column index, ?_⟩, ?_⟩
  · exact optionalTimeColumn_of_rel (.some (holdsTime_micros ha)) index
  · intro clock store store₁ store₂ hclock hbefore hlater
    exact ⟨fun _ _ _ => createProject_dated hclock hbefore hlater,
      fun _ _ _ _ => submit_dated hclock hbefore hlater⟩

namespace Daily

/-- The middle of the leap second at the end of 2016, and some nanoseconds more. -/
def leapSecond : Instant := ⟨1483228799, 1500000999, by decide, fun _ => by decide⟩

/-- The beginning of 2017. -/
def newYear : Instant := .ofSeconds 1483228800

theorem hasPlainYear_leapSecond : leapSecond.HasPlainYear := by
  constructor <;> decide

theorem hasPlainYear_newYear : newYear.HasPlainYear := by
  constructor <;> decide

/-- A store whose clock stands still in the leap second. -/
def inLeapSecond : Store := { clock := ⟨fun _ => leapSecond, 0⟩ }

/-- The store with a project. -/
def founded : Store := ((Store.createProject 0 "etl").run inLeapSecond).run.2

/-- The store with an attempt too. -/
def attempted : Store := ((submit {} dayRetry none).run founded).run.2

theorem createProject_inLeapSecond :
    ((Store.createProject 0 "etl").run inLeapSecond).run =
      (.ok { id := 1, site := 0, name := "etl", created := leapSecond.truncated }, founded) := rfl

/-- The store with the attempt finished. -/
def finished : Store := ((Store.finish 1 true).run attempted).run.2

theorem founded_reaches_attempted : founded.Reaches attempted :=
  Store.Reaches.submit (submit_isProper (some "retry1") dayParams_isProper) (run_eq _ _)

theorem attempted_reaches_finished : attempted.Reaches finished := by
  have hproper : (Operation.finish 1 true).IsProper := trivial
  exact Store.Reaches.single hproper rfl

/-- A leap second is before the new year. In a leap second a project and an attempt are created, and the
attempt is finished; who looks for them reads the leap second up to a microsecond. -/
theorem times_survive_daily :
    Text.bytes leapSecond.micros < Text.bytes newYear.micros ∧
      Database.completion "load" (Database.marked "load" leapSecond.micros
        (Database.registered "load" newYear.micros [])) = .ok (some leapSecond.truncated) ∧
      (∃ found, ((Store.project 1).run attempted).run.1 = .ok found ∧
        found.created = leapSecond.truncated) ∧
      ∃ found, ((find {} dayRetry.key none).run finished).run.1 = .ok found ∧
        found.attempt.created = leapSecond.truncated := by
  have hyears : ∀ n, (inLeapSecond.clock.reading n).HasPlainYear := fun _ => hasPlainYear_leapSecond
  have hcreated : ((submit {} dayRetry none).run founded).run.1.toOption.map (·.attempt.id) = some 1 := by
    decide +kernel
  have hlookup : ((find {} dayRetry.key none).run finished).run.1.toOption.map (·.attempt.id) = some 1 := by
    decide +kernel
  obtain ⟨created, hsubmit, hid⟩ := exists_of_created hcreated
  obtain ⟨found, hfound, hsame⟩ := exists_of_created hlookup
  obtain ⟨-, hbytes, -, hcompletion, -, hhistory⟩ :=
    times_survive hasPlainYear_leapSecond hasPlainYear_newYear
  have hfounded : inLeapSecond.Reaches founded :=
    Store.Reaches.createProject (by constructor <;> decide) createProject_inLeapSecond
  obtain ⟨-, project, hproject, hdate⟩ :=
    (hhistory _ _ _ _ hyears (.refl _) founded_reaches_attempted).1 0 "etl" _
      (by constructor <;> decide) createProject_inLeapSecond
  obtain ⟨hnow, -, hread⟩ :=
    (hhistory _ _ _ _ hyears hfounded attempted_reaches_finished).2 _ _ _ created
      (submit_isProper (some "retry1") dayParams_isProper) (Prod.ext hsubmit rfl)
  refine ⟨hbytes.mpr (by decide), hcompletion "load" newYear.micros [], ⟨project, hproject, hdate⟩,
    found, hfound, ?_⟩
  rw [hread found (.found hfound) (hsame.trans hid.symm), hnow]
  rfl

end Daily

end Session

end RetrySafe
