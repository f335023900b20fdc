import RetrySafe.Proofs.Results
import RetrySafe.Proofs.Time.Order
import RetrySafe.Session.Manager

/-!
# What operations do to the tables

A submission reads the clock twice at most. Apart from that it is a function of the tables, which
are put back where it fails. So what it answers and leaves behind is written down as such a
function, and the reasons for each answer are read off it.

## Main definitions

* `inserted`, `submitted` — a submission as a function of the tables and of two readings.
* `Operation`, `Operation.perform` — the operations of a store.
* `history` — one operation after the other, with the replies.

## Main results

* `submit_eq` — a submission is that function.
* `inserted_ok`, `inserted_conflict` — why a transaction ends in an attempt, or in a conflict.
* `submitted_alreadyExists` — why a submission ends in an attempt that is stored already.
* `perform_step` — what an operation can do to the tables.
* `history_invariant` — what every step keeps holds after every history.
-/

namespace RetrySafe.Session

open Time (Clock Instant)

/-! ## Submissions as functions -/

namespace Store

/-- The project of a request, which has to be live and of the site. -/
def liveIn (tables : Tables) (site id : Int) : Except StoreError Project :=
  match projectIn tables id with
  | .error error => .error error
  | .ok p => if p.isDeleted ∨ p.site ≠ site then .error (.notFound (.project id)) else .ok p

/-- The row of a session that was just found or added. -/
def lockedIn (tables : Tables) (key : Key) : Except StoreError Stored :=
  match tables.session? key with
  | some row => orDatabase row.stored
  | none => .error (.database .foreignKey)

/-- The tables with one more attempt of a session. -/
def attempted (tables : Tables) (site : Int) (session : Stored) (spec : AttemptSpec)
    (dependent : Option Int) (created : Instant) : Except StoreError (Attempt × Tables) :=
  match tables.nextAttempt with
  | .error fault => .error (.database fault)
  | .ok id =>
    if tables.hasAttempt session.id spec.retryName then
      .error (.conflict spec.retryName session.id)
    else if !(tables.hasSession session.id && tables.hasProject session.key.project) then
      .error (.database .foreignKey)
    else
      .ok ({ id, session := session.id, site, retryName := spec.retryName
             params := spec.params, timeZone := spec.timeZone
             definition := spec.definition, dependent, created },
        withAttempt tables (newRow id site session spec dependent created))

/-- The tables with the attempt of a request, and the attempt beside its session. -/
def inserted (tables : Tables) (site : Int) (request : Request) (dependent : Option Int)
    (first second : Instant) : Except StoreError (AttemptWithSession × Tables) :=
  match liveIn tables site request.project with
  | .error error => .error error
  | .ok _ =>
    match withSession tables request.key first.micros with
    | .error fault => .error (.database fault)
    | .ok locked =>
      match lockedIn locked request.key with
      | .error error => .error error
      | .ok session =>
        match attempted locked site session request.spec dependent second.truncated with
        | .error error => .error error
        | .ok (attempt, tables) =>
          .ok (⟨site, { session with lastAttempt := some attempt.id }, attempt⟩, tables)

/-- The attempt of a session with a retry name, or the last one where none is given. -/
def attemptIn (tables : Tables) (site : Int) (key : Key) (retryName : Option String) :
    Except StoreError AttemptWithSession :=
  match retryName with
  | some name => foundOr site key (some name) (rowsByName tables site key name)
  | none => foundOr site key none (rowsOfLast tables site key)

theorem attemptOf_run (store : Store) (site : Int) (key : Key) (retryName : Option String) :
    ((attemptOf site key retryName).run store).run =
      (attemptIn store.tables site key retryName, store) := by
  cases retryName <;> rfl

theorem liveProject_run (store : Store) (site id : Int) :
    ((liveProject site id).run store).run = (liveIn store.tables site id, store) := by
  have hproject : ((project id).run store).run = (projectIn store.tables id, store) := rfl
  cases hp : projectIn store.tables id with
  | error error => simp [liveProject, liveIn, hproject, hp]
  | ok p => by_cases h : p.isDeleted ∨ p.site ≠ site <;> simp [liveProject, liveIn, hproject, hp, h]

theorem lockSession_run (store : Store) (key : Key) :
    ((lockSession key).run store).run =
      match withSession store.tables key store.clock.now.micros with
      | .error fault => (.error (.database fault), { store with clock := store.clock.advanced })
      | .ok tables =>
        (lockedIn tables key, { store with tables, clock := store.clock.advanced }) := by
  cases h : withSession store.tables key store.clock.now.micros with
  | error fault => simp [lockSession, now, ask, h]
  | ok tables =>
    cases hs : tables.session? key <;> simp [lockSession, now, ask, edit, lockedIn, h, hs]

theorem insertAttempt_run (store : Store) (site : Int) (session : Stored) (spec : AttemptSpec)
    (dependent : Option Int) :
    ((insertAttempt site session spec dependent).run store).run =
      match attempted store.tables site session spec dependent store.clock.now.truncated with
      | .error error => (.error error, { store with clock := store.clock.advanced })
      | .ok (attempt, tables) =>
        (.ok attempt, { store with tables, clock := store.clock.advanced }) := by
  unfold attempted
  cases hid : store.tables.nextAttempt with
  | error fault => simp [insertAttempt, now, ask, hid]
  | ok id =>
    by_cases htaken : store.tables.hasAttempt session.id spec.retryName = true
    · simp [insertAttempt, now, ask, hid, htaken]
    · cases hsession : store.tables.hasSession session.id <;>
        cases hproject : store.tables.hasProject session.key.project <;>
        simp [insertAttempt, now, ask, edit, hid, htaken, hsession, hproject]

/-- What is done inside a transaction is the function of the tables; the clock goes on. Where it
fails it may have added the session already. -/
theorem insertRequested_run (store : Store) (site : Int) (request : Request)
    (dependent : Option Int) :
    ∃ clock left, store.clock.Precedes clock ∧
      ((insertRequested site request dependent).run store).run =
        match inserted store.tables site request dependent store.clock.now
            store.clock.advanced.now with
        | .ok (created, tables) => (.ok created, { store with tables, clock })
        | .error error => (.error error, { store with tables := left, clock }) := by
  have hlive := liveProject_run store site request.project
  have hlock := lockSession_run store request.key
  unfold inserted
  -- Every step has an equation of its own. The cases are those of the function, and the clock has
  -- been read once for the session and twice with the attempt.
  cases hp : liveIn store.tables site request.project with
  | error error =>
    rw [hp] at hlive
    exact ⟨store.clock, store.tables, .refl _, by simp [insertRequested, hlive]⟩
  | ok p =>
    rw [hp] at hlive
    cases hs : withSession store.tables request.key store.clock.now.micros with
    | error fault =>
      rw [hs] at hlock
      exact ⟨store.clock.advanced, store.tables, .advanced _,
        by simp [insertRequested, hlive, hlock]⟩
    | ok tables =>
      rw [hs] at hlock
      dsimp only at hlock ⊢
      cases hl : lockedIn tables request.key with
      | error error =>
        rw [hl] at hlock
        exact ⟨store.clock.advanced, tables, .advanced _, by simp [insertRequested, hlive, hlock]⟩
      | ok session =>
        rw [hl] at hlock
        have hinsert := insertAttempt_run { store with tables, clock := store.clock.advanced } site
          session request.spec dependent
        refine ⟨store.clock.advanced.advanced, tables,
          (Clock.Precedes.advanced _).trans (.advanced _), ?_⟩
        dsimp only at hinsert ⊢
        cases ha : attempted tables site session request.spec dependent
            store.clock.advanced.now.truncated with
        | error error =>
          rw [ha] at hinsert
          simp [insertRequested, hlive, hlock, hinsert]
        | ok result =>
          rw [ha] at hinsert
          simp [insertRequested, hlive, hlock, hinsert]

/-- A transaction takes back what a failing body did, and is not left open. -/
theorem transaction_run {ε α : Type} (body : StoreM (Except ε α)) (store : Store)
    (hopen : ((body.run { store with undo := some store.tables }).run).2.undo =
      some store.tables) :
    ((transaction body).run store).run =
      match (body.run { store with undo := some store.tables }).run with
      | (.ok a, after) => (.ok a, { after with undo := none })
      | (.error error, after) =>
        (.error error, { after with tables := store.tables, undo := none }) := by
  obtain ⟨⟨result, after⟩, hbody⟩ : ∃ p,
    (body.run { store with undo := some store.tables }).run = p := ⟨_, rfl⟩
  rw [hbody] at hopen ⊢
  cases result <;> simp_all [transaction, start, commit, rollback]

/-- A transaction that inserts is the function of the tables; the clock goes on, and no transaction
is left open. -/
theorem transaction_insertRequested (store : Store) (site : Int) (request : Request)
    (dependent : Option Int) :
    ∃ clock, store.clock.Precedes clock ∧
      ((transaction (insertRequested site request dependent)).run store).run =
        match inserted store.tables site request dependent store.clock.now
            store.clock.advanced.now with
        | .ok (created, tables) => (.ok created, { tables, clock })
        | .error error => (.error error, { tables := store.tables, clock }) := by
  obtain ⟨clock, left, hclock, hbody⟩ :=
    insertRequested_run { store with undo := some store.tables } site request dependent
  refine ⟨clock, hclock, ?_⟩
  dsimp only at hbody
  generalize inserted store.tables site request dependent store.clock.now
    store.clock.advanced.now = outcome at hbody ⊢
  cases outcome <;> rw [transaction_run _ _ (by rw [hbody]), hbody]

end Store

/-- What a submission answers, and the tables that it leaves behind. -/
def submitted (tables : Tables) (limits : Limits) (request : Request) (dependent : Option Int)
    (first second : Instant) : Except AttemptError AttemptWithSession × Tables :=
  match request.validate limits.maxParamsBytes with
  | .error reason => (.error (.invalid reason), tables)
  | .ok () =>
    if limits.maxActive < Store.activeIn tables limits.site + 1 then
      (.error (.limitExceeded limits.maxActive (Store.activeIn tables limits.site)), tables)
    else
      match Store.inserted tables limits.site request dependent first second with
      | .ok (created, tables) => (.ok created, tables)
      | .error (.conflict _ _) =>
        match Store.attemptIn tables limits.site request.key request.retryName with
        | .ok existing => (.error (.alreadyExists existing), tables)
        | .error error => (.error (.ofStore error), tables)
      | .error error => (.error (.ofStore error), tables)

theorem run_bind {α β : Type} (action : StoreM α) (next : α → StoreM β) (store : Store) :
    ((action >>= next).run store).run =
      ((next (action.run store).run.1).run (action.run store).run.2).run := rfl

/-- A well-formed submission without its steps in the monad. -/
theorem submit_run (store : Store) {limits : Limits} {request : Request} {dependent : Option Int}
    (hvalid : request.validate limits.maxParamsBytes = .ok ()) :
    ((submit limits request dependent).run store).run =
      if limits.maxActive < Store.activeIn store.tables limits.site + 1 then
        (.error (.limitExceeded limits.maxActive (Store.activeIn store.tables limits.site)), store)
      else
        match ((Store.transaction (Store.insertRequested limits.site request dependent)).run
          store).run with
        | (.ok created, store) => (.ok created, store)
        | (.error (.conflict _ _), store) =>
          match Store.attemptIn store.tables limits.site request.key request.retryName with
          | .ok existing => (.error (.alreadyExists existing), store)
          | .error error => (.error (.ofStore error), store)
        | (.error error, store) => (.error (.ofStore error), store) := by
  unfold submit
  rw [hvalid]
  change ((if limits.maxActive < Store.activeIn store.tables limits.site + 1 then _ else _ :
    StoreM (Except AttemptError AttemptWithSession)).run store).run = _
  split
  · rfl
  -- The transaction itself is not looked into.
  · rw [run_bind]
    generalize ((Store.transaction (Store.insertRequested limits.site request dependent)).run
      store).run = outcome
    obtain ⟨result, store'⟩ := outcome
    cases result with
    | ok created => rfl
    | error error =>
      cases error with
      | conflict retryName session =>
        dsimp only
        rw [run_bind, Store.attemptOf_run]
        cases Store.attemptIn store'.tables limits.site request.key request.retryName <;> rfl
      | notFound missing => rfl
      | database fault => rfl
      | migration fault => rfl

/-- A submission is a function of the tables; the clock goes on, and no transaction is opened that
is left open. -/
theorem submit_eq (store : Store) (limits : Limits) (request : Request) (dependent : Option Int) :
    ∃ after : Store, (store.clock.Precedes after.clock ∧ (store.undo = none → after.undo = none)) ∧
      ∀ result tables,
        submitted store.tables limits request dependent store.clock.now store.clock.advanced.now =
          (result, tables) →
        ((submit limits request dependent).run store).run = (result, { after with tables }) := by
  obtain ⟨clock, hclock, htransaction⟩ :=
    Store.transaction_insertRequested store limits.site request dependent
  unfold submitted
  cases hvalid : request.validate limits.maxParamsBytes with
  | error reason =>
    refine ⟨store, ⟨.refl _, id⟩, ?_⟩
    rintro _ _ ⟨⟩
    simp [submit, hvalid]
  | ok =>
    rw [submit_run store hvalid, htransaction]
    dsimp only
    split
    · refine ⟨store, ⟨.refl _, id⟩, ?_⟩
      rintro _ _ ⟨⟩
      rfl
    · refine ⟨{ clock }, ⟨hclock, fun _ => rfl⟩, ?_⟩
      cases Store.inserted store.tables limits.site request dependent store.clock.now
          store.clock.advanced.now with
      | ok result =>
        rintro _ _ ⟨⟩
        rfl
      | error error =>
        cases error with
        | conflict retryName session =>
          dsimp only
          cases Store.attemptIn store.tables limits.site request.key request.retryName <;>
          · rintro _ _ ⟨⟩
            rfl
        | notFound missing =>
          rintro _ _ ⟨⟩
          rfl
        | database fault =>
          rintro _ _ ⟨⟩
          rfl
        | migration fault =>
          rintro _ _ ⟨⟩
          rfl

/-- What a submission answered and left behind. -/
theorem submitted_of_run {store after : Store} {limits : Limits} {request : Request}
    {dependent : Option Int} {result : Except AttemptError AttemptWithSession}
    (h : ((submit limits request dependent).run store).run = (result, after)) :
    submitted store.tables limits request dependent store.clock.now store.clock.advanced.now =
      (result, after.tables) := by
  obtain ⟨left, -, heq⟩ := submit_eq store limits request dependent
  rw [heq _ _ rfl] at h
  cases h
  rfl

/-! ## Reasons for the answers -/

section Reasons

variable {tables tables' locked : Tables} {site : Int} {request : Request} {dependent : Option Int}
  {first second : Instant} {limits : Limits} {created existing : AttemptWithSession}

theorem lt_of_nextId {last id : Int} {ids : List Int} (h : Tables.nextId last ids = .ok id) :
    ∀ other ∈ ids, other < id := by
  -- The largest id is found by a fold, which has to be followed from any start.
  have hfold : ∀ (ids : List Int) (last : Int),
      last ≤ ids.foldl max last ∧ ∀ other ∈ ids, other ≤ ids.foldl max last := by
    intro ids
    induction ids with
    | nil => simp
    | cons head rest ih =>
      intro last
      obtain ⟨hlast, hrest⟩ := ih (max last head)
      rw [List.foldl_cons]
      refine ⟨by omega, fun other hother => ?_⟩
      rcases List.mem_cons.mp hother with rfl | hother
      · omega
      · exact hrest other hother
  intro other hother
  have hle := (hfold ids last).2 other hother
  unfold Tables.nextId at h
  dsimp only at h
  split at h
  · cases h
  · cases h
    omega

/-- A project that is there, not deleted, and of a site. -/
def IsLiveProject (tables : Tables) (site id : Int) (row : ProjectRow) : Prop :=
  row ∈ tables.projects ∧ row.id = id ∧ row.site = .whole site ∧ row.deleted = none

theorem eq_whole_of_whole? {cell : Cell} {index : Nat} {column : String} {n : Int}
    (h : cell.whole? index column = .ok n) : cell = .whole n := by
  cases cell <;> simp [Cell.whole?] at h
  rw [h]

/-- The site of a row, and whether it is marked as deleted. -/
theorem site_of_project {row : ProjectRow} {project : Project} (h : row.project = .ok project) :
    row.site = .whole project.site ∧
      ∀ text, row.deleted = some text → project.isDeleted = true := by
  obtain ⟨site, hsite, h⟩ := bind_ok h
  obtain ⟨created, -, h⟩ := bind_ok h
  obtain ⟨deleted, hdeleted, h⟩ := bind_ok h
  cases h
  constructor
  · obtain ⟨n, hwhole, hsite⟩ := bind_ok hsite
    split at hsite
    · cases hsite
      exact eq_whole_of_whole? hwhole
    · cases hsite
  · intro text htext
    rw [htext] at hdeleted
    obtain ⟨t, -, rfl⟩ := map_ok hdeleted
    rfl

theorem isLiveProject_of_liveIn {id : Int} {project : Project}
    (h : Store.liveIn tables site id = .ok project) :
    ∃ row, IsLiveProject tables site id row := by
  unfold Store.liveIn Store.projectIn at h
  cases hrow : tables.projects.find? (·.id = id) with
  | none => simp [hrow] at h
  | some row =>
    have hid : row.id = id := by simpa using List.find?_some hrow
    refine ⟨row, List.mem_of_find?_eq_some hrow, hid, ?_⟩
    rw [hrow] at h
    cases hproject : row.project with
    | error fault => simp [hproject, Store.orDatabase] at h
    | ok p =>
      obtain ⟨hsite, hdeleted⟩ := site_of_project hproject
      -- What was read of the row decides, but it is the row that has the site and is not deleted.
      by_cases hrefused : p.isDeleted = true ∨ p.site ≠ site
      · simp [hproject, Store.orDatabase, hrefused] at h
      · obtain ⟨hlive, hsame⟩ := not_or.mp hrefused
        rw [hsite, Decidable.of_not_not hsame]
        refine ⟨rfl, ?_⟩
        cases hd : row.deleted with
        | none => rfl
        | some text => exact absurd (hdeleted text hd) hlive

theorem withSession_cases {key : Key} {created : String}
    (h : Store.withSession tables key created = .ok locked) :
    ∃ id, tables.nextSession = .ok id ∧
      ((∃ row, tables.session? key = some row) ∧ locked = { tables with lastSession := id } ∨
        tables.session? key = none ∧ tables.hasProject key.project = true ∧
          locked = { tables with
            sessions := tables.sessions ++
              [{ id, project := key.project, workflow := key.workflow,
                 time := .whole key.time.seconds, created }]
            lastSession := id }) := by
  unfold Store.withSession at h
  cases hid : tables.nextSession with
  | error fault =>
    rw [hid] at h
    cases h
  | ok id =>
    rw [hid] at h
    refine ⟨id, rfl, ?_⟩
    cases hrow : tables.session? key with
    | some row =>
      simp only [bind, Except.bind, pure, Except.pure, hrow, Option.isSome_some, if_true,
        Except.ok.injEq] at h
      exact .inl ⟨⟨row, rfl⟩, h.symm⟩
    | none =>
      by_cases hproject : tables.hasProject key.project = true
      · simp only [bind, Except.bind, pure, Except.pure, hrow, Option.isSome_none,
          Bool.false_eq_true, if_false, hproject, if_true, Except.ok.injEq] at h
        exact .inr ⟨rfl, hproject, h.symm⟩
      · simp [bind, Except.bind, hrow, hproject, throw, throwThe, MonadExceptOf.throw] at h

theorem row_of_lockedIn {key : Key} {session : Stored}
    (h : Store.lockedIn tables key = .ok session) :
    ∃ row, tables.session? key = some row ∧ row.stored = .ok session := by
  unfold Store.lockedIn at h
  split at h
  · rename_i row hrow
    refine ⟨row, hrow, ?_⟩
    cases hstored : row.stored <;> simp [hstored, Store.orDatabase] at h
    rw [h]
  · cases h

theorem liveIn_ne_conflict {id : Int} (retryName : Option String) (taken : Int) :
    Store.liveIn tables site id ≠ .error (.conflict retryName taken) := by
  unfold Store.liveIn Store.projectIn
  cases tables.projects.find? (·.id = id) with
  | none => simp
  | some row =>
    cases hproject : row.project with
    | error fault => simp [Store.orDatabase, hproject]
    | ok p =>
      by_cases h : p.isDeleted = true ∨ p.site ≠ site <;> simp [Store.orDatabase, hproject, h]

theorem lockedIn_ne_conflict {key : Key} (retryName : Option String) (taken : Int) :
    Store.lockedIn tables key ≠ .error (.conflict retryName taken) := by
  unfold Store.lockedIn
  cases tables.session? key with
  | none => simp
  | some row => cases hstored : row.stored <;> simp [Store.orDatabase, hstored]

/-- An insertion of an attempt that succeeds. -/
theorem attempted_ok {session : Stored} {spec : AttemptSpec} {now : Instant} {attempt : Attempt}
    (h : Store.attempted tables site session spec dependent now = .ok (attempt, tables')) :
    ∃ id, tables.nextAttempt = .ok id ∧ tables.hasAttempt session.id spec.retryName = false ∧
      attempt = { id, session := session.id, site, retryName := spec.retryName
                  params := spec.params, timeZone := spec.timeZone, definition := spec.definition
                  dependent, created := now } ∧
      tables' = Store.withAttempt tables (Store.newRow id site session spec dependent now) := by
  unfold Store.attempted at h
  split at h
  · cases h
  rename_i id hid
  split at h
  · cases h
  rename_i hfree
  split at h
  · cases h
  cases h
  exact ⟨id, hid, Bool.eq_false_iff.mpr hfree, rfl, rfl⟩

/-- An insertion of an attempt fails if no id is left, if its name is taken, or if what it refers to
is missing. -/
theorem attempted_error {session : Stored} {spec : AttemptSpec} {now : Instant} {error : StoreError}
    (h : Store.attempted tables site session spec dependent now = .error error) :
    (∃ fault, tables.nextAttempt = .error fault ∧ error = .database fault) ∨
      (tables.hasAttempt session.id spec.retryName = true ∧
        error = .conflict spec.retryName session.id) ∨
      (tables.hasSession session.id && tables.hasProject session.key.project) = false ∧
        error = .database .foreignKey := by
  unfold Store.attempted at h
  split at h
  · rename_i fault hfull
    cases h
    exact .inl ⟨fault, hfull, rfl⟩
  split at h
  · rename_i htaken
    cases h
    exact .inr (.inl ⟨htaken, rfl⟩)
  split at h
  · rename_i hmissing
    cases h
    exact .inr (.inr ⟨Bool.not_eq_true' _ ▸ hmissing, rfl⟩)
  · cases h

/-- A transaction that inserts an attempt. -/
theorem inserted_ok (h : Store.inserted tables site request dependent first second =
      .ok (created, tables')) :
    ∃ project locked row session id, IsLiveProject tables site request.project project ∧
      Store.withSession tables request.key first.micros = .ok locked ∧
      locked.session? request.key = some row ∧ row.stored = .ok session ∧
      locked.nextAttempt = .ok id ∧ locked.hasAttempt session.id request.retryName = false ∧
      created = ⟨site, { session with lastAttempt := some id },
        { id, session := session.id, site, retryName := request.retryName
          params := request.params, timeZone := request.timeZone
          definition := request.definition, dependent, created := second.truncated }⟩ ∧
      tables' = Store.withAttempt locked
        (Store.newRow id site session request.spec dependent second.truncated) := by
  -- Every branch but one ends in an error.
  unfold Store.inserted at h
  split at h
  · cases h
  rename_i p hlive
  obtain ⟨project, hproject⟩ := isLiveProject_of_liveIn hlive
  split at h
  · cases h
  rename_i locked hlocked
  split at h
  · cases h
  rename_i session hsession
  obtain ⟨row, hrow, hstored⟩ := row_of_lockedIn hsession
  split at h
  · cases h
  rename_i attempt tables'' hattempted
  obtain ⟨id, hid, hfree, rfl, rfl⟩ := attempted_ok hattempted
  cases h
  exact ⟨project, locked, row, session, id, hproject, hlocked, hrow, hstored, hid, hfree, rfl, rfl⟩

/-- A transaction that finds its attempt taken. -/
theorem inserted_conflict {retryName : Option String} {taken : Int}
    (h : Store.inserted tables site request dependent first second =
      .error (.conflict retryName taken)) :
    ∃ project locked row session, IsLiveProject tables site request.project project ∧
      Store.withSession tables request.key first.micros = .ok locked ∧
      locked.session? request.key = some row ∧ row.stored = .ok session ∧
      locked.hasAttempt session.id request.retryName = true := by
  -- Neither the project nor the session can be in conflict, so the attempt is.
  unfold Store.inserted at h
  split at h
  · rename_i error hlive
    cases h
    exact absurd hlive (liveIn_ne_conflict _ _)
  rename_i p hlive
  obtain ⟨project, hproject⟩ := isLiveProject_of_liveIn hlive
  split at h
  · cases h
  rename_i locked hlocked
  split at h
  · rename_i error hsession
    cases h
    exact absurd hsession (lockedIn_ne_conflict _ _)
  rename_i session hsession
  obtain ⟨row, hrow, hstored⟩ := row_of_lockedIn hsession
  split at h
  · rename_i error hattempted
    cases h
    refine ⟨project, locked, row, session, hproject, hlocked, hrow, hstored, ?_⟩
    obtain ⟨_, -, herror⟩ | ⟨htaken, -⟩ | ⟨-, herror⟩ := attempted_error hattempted
    · cases herror
    · exact htaken
    · cases herror
  · cases h

/-- A submission that creates an attempt. -/
theorem submitted_ok (h : submitted tables limits request dependent first second =
      (.ok created, tables')) :
    request.validate limits.maxParamsBytes = .ok () ∧
      Store.inserted tables limits.site request dependent first second =
        .ok (created, tables') := by
  unfold submitted at h
  split at h
  · cases h
  rename_i hvalid
  split at h
  · cases h
  split at h
  · rename_i result hinserted
    cases h
    exact ⟨hvalid, hinserted⟩
  · split at h <;> cases h
  · cases h

/-- A submission that fails leaves the tables as they were. -/
theorem submitted_error {error : AttemptError}
    (h : submitted tables limits request dependent first second = (.error error, tables')) :
    tables' = tables := by
  unfold submitted at h
  split at h
  · cases h
    rfl
  split at h
  · cases h
    rfl
  split at h
  · cases h
  · split at h <;>
    · cases h
      rfl
  · cases h
    rfl

/-- A submission whose attempt is stored already. -/
theorem submitted_alreadyExists
    (h : submitted tables limits request dependent first second =
      (.error (.alreadyExists existing), tables')) :
    request.validate limits.maxParamsBytes = .ok () ∧
      (∃ retryName taken, Store.inserted tables limits.site request dependent first second =
        .error (.conflict retryName taken)) ∧
      Store.attemptIn tables limits.site request.key request.retryName = .ok existing := by
  -- No error of the store is reported as an attempt that exists.
  have hother (error : StoreError) : AttemptError.ofStore error ≠ .alreadyExists existing := by
    cases error <;> simp [AttemptError.ofStore]
  unfold submitted at h
  split at h
  · cases h
  rename_i hvalid
  split at h
  · cases h
  split at h
  · cases h
  · rename_i retryName taken hinserted
    split at h
    · rename_i found hfound
      cases h
      exact ⟨hvalid, ⟨retryName, taken, hinserted⟩, hfound⟩
    · exact absurd (Except.error.inj (Prod.mk.inj h).1) (hother _)
  · exact absurd (Except.error.inj (Prod.mk.inj h).1) (hother _)

end Reasons

/-! ## Operations -/

/-- What is done to a store. -/
inductive Operation
  | createProject (site : Int) (name : String)
  | deleteProject (id : Int)
  | submit (limits : Limits) (request : Request) (dependent : Option Int)
  | finish (id : Int) (success : Bool)
  | find (limits : Limits) (key : Key) (retryName : Option String)

/-- What an operation answers. -/
inductive Reply
  | project (result : Except StoreError Project)
  | deleted (result : Except StoreError Unit)
  | attempt (result : Except AttemptError AttemptWithSession)
  | finished (result : Except StoreError Bool)

/-- An operation with what it answered. -/
structure Event where
  operation : Operation
  reply : Reply

/-- An attempt that a submission created, by its session, its name and its id. -/
structure Creation where
  key : Key
  retryName : Option String
  attempt : Int
  deriving DecidableEq

/-- The attempt that was created, if one was. -/
def Event.creation? : Event → Option Creation
  | ⟨.submit _ request _, .attempt (.ok created)⟩ =>
    some ⟨request.key, request.retryName, created.attempt.id⟩
  | _ => none

/-- Do an operation. -/
def Operation.perform : Operation → StoreM Reply
  | .createProject site name => return .project (← Store.createProject site name)
  | .deleteProject id => return .deleted (← Store.deleteProject id)
  | .submit limits request dependent => return .attempt (← Session.submit limits request dependent)
  | .finish id success => return .finished (← Store.finish id success)
  | .find limits key retryName => return .attempt (← Session.find limits key retryName)

/-- Do one operation after the other. -/
def history : List Operation → StoreM (List Event)
  | [] => return []
  | operation :: operations => do
    let reply ← operation.perform
    let events ← history operations
    return ⟨operation, reply⟩ :: events

/-- The flag and the answer of a call that finished an attempt, or found it finished. -/
def Event.finish? (id : Int) : Event → Option (Bool × Bool)
  | ⟨.finish id' success, .finished (.ok done)⟩ => if id' = id then some (success, done) else none
  | _ => none

/-- The cell of a flag. -/
def flagCell (success : Bool) : Cell := .whole (if success then 1 else 0)

/-- What an operation can do to the tables, and answer. It is dated by readings of a clock. -/
inductive Step (reads : Instant → Prop) (tables : Tables) : Event → Tables → Prop
  | unchanged {event : Event} (hnone : event.creation? = none)
      (hfinish : ∀ id, event.finish? id = none) : Step reads tables event tables
  | created {site id : Int} {name : String} {now : Instant} {reply : Reply} (hnow : reads now)
      (hid : tables.nextProject = .ok id) :
      Step reads tables ⟨.createProject site name, reply⟩
        { tables with
          projects := tables.projects ++
            [{ id, site := .whole site, name, created := now.truncated.micros }]
          lastProject := id }
  | deleted {id : Int} {now : Instant} {reply : Reply} (hnow : reads now) :
      Step reads tables ⟨.deleteProject id, reply⟩
        { tables with
          projects := tables.projects.map fun row =>
            if Store.isLive row id then { row with deleted := some now.micros } else row }
  | submitted {limits : Limits} {request : Request} {dependent : Option Int}
      {first second : Instant} {created : AttemptWithSession} {tables' : Tables}
      (hfirst : reads first) (hsecond : reads second)
      (hvalid : request.validate limits.maxParamsBytes = .ok ())
      (hinserted : Store.inserted tables limits.site request dependent first second =
        .ok (created, tables')) :
      Step reads tables ⟨.submit limits request dependent, .attempt (.ok created)⟩ tables'
  | finished {id : Int} {success : Bool} {now : Instant} (hnow : reads now)
      (hopen : tables.attempts.any (Store.isOpen · id) = true) :
      Step reads tables ⟨.finish id success, .finished (.ok true)⟩
        { tables with
          attempts := tables.attempts.map fun row =>
            if Store.isOpen row id then
              { row with finished := some now.micros, success := some (flagCell success) }
            else row }
  | closed {id : Int} {success : Bool} (hclosed : tables.attempts.any (Store.isOpen · id) = false)
      (hthere : tables.attempts.any (·.id = id) = true) :
      Step reads tables ⟨.finish id success, .finished (.ok false)⟩ tables

/-- The answer to a call that finishes an attempt, and what it does. -/
theorem finish_run (store : Store) (id : Int) (success : Bool) :
    ((Store.finish id success).run store).run =
      if store.tables.attempts.any (Store.isOpen · id) then
        (.ok true,
          { store with
            clock := store.clock.advanced
            tables := { store.tables with
              attempts := store.tables.attempts.map fun row =>
                if Store.isOpen row id then
                  { row with
                    finished := some store.clock.now.micros, success := some (flagCell success) }
                else row } })
      else if store.tables.attempts.any (·.id = id) then
        (.ok false, { store with clock := store.clock.advanced })
      else (.error (.notFound (.attempt id)), { store with clock := store.clock.advanced }) := by
  cases hopen : store.tables.attempts.any (Store.isOpen · id) <;>
    cases hthere : store.tables.attempts.any (·.id = id) <;>
    simp [-List.any_eq_true, Store.finish, Store.now, Store.ask, Store.edit, hopen, hthere, flagCell]

/-- Every operation is such a step. -/
theorem perform_step (operation : Operation) (store : Store) :
    Step (fun now => ∃ n, now = store.clock.reading n) store.tables
      ⟨operation, (operation.perform.run store).run.1⟩
      (operation.perform.run store).run.2.tables := by
  cases operation with
  | createProject site name =>
    cases hid : store.tables.nextProject with
    | error fault =>
      simpa [Operation.perform, Store.createProject, Store.now, Store.ask, hid] using
        Step.unchanged rfl fun _ => rfl
    | ok id =>
      simpa [Operation.perform, Store.createProject, Store.now, Store.ask, Store.edit, hid] using
        Step.created ⟨_, rfl⟩ hid
  | deleteProject id =>
    cases hlive : store.tables.projects.any (Store.isLive · id) with
    | true =>
      simpa [-List.any_eq_true, Operation.perform, Store.deleteProject, Store.now, Store.ask,
        Store.edit, hlive] using Step.deleted ⟨_, rfl⟩
    | false =>
      have hkept : ((Store.deleteProject id).run store).run.2.tables = store.tables := by
        simp [-List.any_eq_true, Store.deleteProject, Store.now, Store.ask, Store.project, hlive]
      simpa [Operation.perform, hkept] using Step.unchanged rfl fun _ => rfl
  | submit limits request dependent =>
    obtain ⟨after, -, hrun⟩ := submit_eq store limits request dependent
    obtain ⟨⟨result, tables'⟩, hsubmitted⟩ : ∃ p, submitted store.tables limits request dependent
      store.clock.now store.clock.advanced.now = p := ⟨_, rfl⟩
    have hperform := hrun result tables' hsubmitted
    cases result with
    | ok created =>
      obtain ⟨hvalid, hinserted⟩ := submitted_ok hsubmitted
      simpa [Operation.perform, hperform] using
        Step.submitted ⟨_, rfl⟩ ⟨_, rfl⟩ hvalid hinserted
    | error error =>
      rw [submitted_error hsubmitted] at hperform
      simpa [Operation.perform, hperform] using Step.unchanged rfl fun _ => rfl
  | finish id success =>
    have hrun := finish_run store id success
    cases hopen : store.tables.attempts.any (Store.isOpen · id) with
    | true =>
      rw [hopen, if_pos rfl] at hrun
      simpa [-List.any_eq_true, Operation.perform, hrun] using Step.finished ⟨_, rfl⟩ hopen
    | false =>
      rw [hopen, if_neg Bool.false_ne_true] at hrun
      cases hthere : store.tables.attempts.any (·.id = id) with
      | true =>
        rw [hthere, if_pos rfl] at hrun
        simpa [-List.any_eq_true, Operation.perform, hrun] using Step.closed hopen hthere
      | false =>
        rw [hthere, if_neg Bool.false_ne_true] at hrun
        simpa [-List.any_eq_true, Operation.perform, hrun] using Step.unchanged rfl fun _ => rfl
  | find limits key retryName =>
    have hkept : ((Session.find limits key retryName).run store).run.2 = store := by
      unfold Session.find
      split
      · rfl
      · simp [Store.attemptOf_run]
    simpa [Operation.perform, hkept] using Step.unchanged rfl fun _ => rfl

/-- The clock of an operation goes on. -/
theorem perform_clock (operation : Operation) (store : Store) :
    store.clock.Precedes (operation.perform.run store).run.2.clock := by
  cases operation with
  | createProject site name =>
    cases hid : store.tables.nextProject <;>
      simpa [Operation.perform, Store.createProject, Store.now, Store.ask, Store.edit, hid] using
        Clock.Precedes.advanced store.clock
  | deleteProject id =>
    cases hlive : store.tables.projects.any (Store.isLive · id) <;>
      simpa [-List.any_eq_true, Operation.perform, Store.deleteProject, Store.now, Store.ask,
        Store.edit, Store.project, hlive] using Clock.Precedes.advanced store.clock
  | submit limits request dependent =>
    obtain ⟨after, ⟨hclock, -⟩, hrun⟩ := submit_eq store limits request dependent
    have hperform := hrun _ _ rfl
    simpa [Operation.perform, hperform] using hclock
  | finish id success =>
    have hrun := finish_run store id success
    split at hrun
    · simpa [Operation.perform, hrun] using Clock.Precedes.advanced store.clock
    · split at hrun <;> simpa [Operation.perform, hrun] using Clock.Precedes.advanced store.clock
  | find limits key retryName =>
    simp only [Operation.perform, Session.find]
    split
    · exact .refl _
    · simpa [Store.attemptOf_run] using Clock.Precedes.refl store.clock

/-- A history of one more operation. -/
theorem history_cons {operation : Operation} {operations : List Operation} {store store' : Store}
    {events : List Event}
    (h : ((history (operation :: operations)).run store).run = (events, store')) :
    ∃ rest, ((history operations).run (operation.perform.run store).run.2).run = (rest, store') ∧
      events = ⟨operation, (operation.perform.run store).run.1⟩ :: rest := by
  cases h
  exact ⟨_, rfl, rfl⟩

/-- One history after the other. -/
theorem history_append {operations later : List Operation} {store store' store'' : Store}
    {events events' : List Event}
    (hrun : ((history operations).run store).run = (events, store'))
    (hlater : ((history later).run store').run = (events', store'')) :
    ((history (operations ++ later)).run store).run = (events ++ events', store'') := by
  induction operations generalizing store events with
  | nil =>
    cases hrun
    exact hlater
  | cons operation operations ih =>
    obtain ⟨rest, hrest, rfl⟩ := history_cons hrun
    have hfirst : ((history (operation :: operations ++ later)).run store).run =
        (⟨operation, (operation.perform.run store).run.1⟩ ::
            ((history (operations ++ later)).run (operation.perform.run store).run.2).run.1,
          ((history (operations ++ later)).run (operation.perform.run store).run.2).run.2) := rfl
    rw [hfirst, ih hrest, List.cons_append]

/-- The clock of a history goes on. -/
theorem history_clock {operations : List Operation} {store store' : Store} {events : List Event}
    (hrun : ((history operations).run store).run = (events, store')) :
    store.clock.Precedes store'.clock := by
  induction operations generalizing store events with
  | nil =>
    cases hrun
    exact .refl _
  | cons operation operations ih =>
    obtain ⟨rest, hrest, -⟩ := history_cons hrun
    exact (perform_clock operation store).trans (ih hrest)

/-- What every step keeps holds of the tables and the events of every history. The steps are dated
by the clock that the history starts with. -/
theorem history_invariant (invariant : Tables → List Event → Prop) {operations : List Operation}
    {store store' : Store} {events : List Event}
    (hstep : ∀ tables tables' past event, event.operation ∈ operations → invariant tables past →
      Step (fun now => ∃ n, now = store.clock.reading n) tables event tables' →
      invariant tables' (past ++ [event]))
    (hstart : invariant store.tables [])
    (hrun : ((history operations).run store).run = (events, store')) :
    invariant store'.tables events := by
  suffices h : ∀ past, invariant store.tables past → invariant store'.tables (past ++ events) by
    exact h [] hstart
  clear hstart
  -- By induction on the operations; the past grows along the run, so it is any past.
  induction operations generalizing store events with
  | nil =>
    intro past hpast
    cases hrun
    rw [List.append_nil]
    exact hpast
  | cons operation operations ih =>
    intro past hpast
    obtain ⟨rest, hrest, rfl⟩ := history_cons hrun
    have hclock := (perform_clock operation store).reading
    have hnext := ih (fun tables tables' past event hmem htables hevent =>
      hstep tables tables' past event (List.mem_cons_of_mem _ hmem) htables (hclock ▸ hevent)) hrest _
      (hstep _ _ past _ List.mem_cons_self hpast (perform_step operation store))
    rwa [List.append_assoc, List.singleton_append] at hnext

end RetrySafe.Session
