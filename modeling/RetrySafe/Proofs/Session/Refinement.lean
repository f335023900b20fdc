import Mathlib.Data.List.Find
import RetrySafe.Proofs.Session.Sought
import RetrySafe.Proofs.Session.WellFormed

/-!
# Submissions as a map

A submission does what one does on a board that knows no more than which projects are live at a site,
how many attempts of a site are running, and which attempt is in which slot. Having no name is a slot
of its own. The board decides the answer, and what is put on it is what is stored.

## Main definitions

* `Slot`, `Board`, `Tables.board` — what the tables are to submissions.
* `Verdict`, `verdict` — an answer without the rows that come with it.
* `Board.submit` — a submission to a board.
* `IsAnswer` — what is answered to a request that got its slot.
* `Answers` — why a submission is answered as it is.

## Main results

* `board_of_inserts` — inserting an attempt puts it into its slot.
* `inserted_of_live` — why a transaction for a live project fails.
* `submitted_answers` — a submission is answered for one of these reasons.
* `submit_refines` — submissions to the store are submissions to its board.
-/

namespace RetrySafe.Session

open Time (Clock Instant)

/-! ## Boards -/

/-- A place for one attempt: a session and a name, or none. -/
structure Slot where
  project : Int
  workflow : String
  second : Int
  retryName : Option String
  deriving DecidableEq

/-- The session of a slot. -/
def Slot.key (slot : Slot) : Key := ⟨slot.project, slot.workflow, .ofSeconds slot.second⟩

/-- The slot of a request. -/
def Request.slot (request : Request) : Slot :=
  ⟨request.project, request.workflow, request.time.seconds, request.retryName⟩

/-- What submissions go by. -/
@[ext]
structure Board where
  /-- Whether a site has a project that is not deleted. -/
  live : Int → Int → Bool
  /-- How many attempts of a site are running. -/
  active : Int → Nat
  /-- The id of the attempt in a slot. -/
  held : Slot → Option Int

/-- An answer without the rows that come with it. -/
inductive Verdict
  | malformed
  | limitExceeded (limit active : Nat)
  | noProject (id : Int)
  | taken
  | created (id : Int)
  | failed
  deriving DecidableEq

/-- An answer without the rows that come with it. -/
def verdict : Except AttemptError AttemptWithSession → Verdict
  | .ok created => .created created.attempt.id
  | .error (.invalid _) => .malformed
  | .error (.limitExceeded limit active) => .limitExceeded limit active
  | .error (.notFound (.project id)) => .noProject id
  | .error (.alreadyExists _) => .taken
  | .error (.notFound _) => .failed
  | .error (.storage _) => .failed

namespace Board

/-- One more attempt, which is running. -/
def put (board : Board) (site : Int) (slot : Slot) (id : Int) : Board :=
  { board with
    active := Function.update board.active site (board.active site + 1)
    held := Function.update board.held slot (some id) }

/-- A submission, which gets an id if its slot is free. -/
def submit (board : Board) (limits : Limits) (request : Request) (id : Int) : Verdict × Board :=
  if ¬request.IsWellFormed limits.maxParamsBytes then (.malformed, board)
  else if limits.maxActive < board.active limits.site + 1 then
    (.limitExceeded limits.maxActive (board.active limits.site), board)
  else if board.live limits.site request.project = false then (.noProject request.project, board)
  else if board.held request.slot ≠ none then (.taken, board)
  else (.created id, board.put limits.site request.slot id)

end Board

/-- Whether a row is that of the attempt in a slot. -/
def Tables.isIn (tables : Tables) (row : AttemptRow) (slot : Slot) : Bool :=
  row.retryName = slot.retryName &&
    tables.sessions.any fun s => s.id = row.session && s.isOf slot.key

/-- The board of some tables. -/
def Tables.board (tables : Tables) : Board where
  live site id := tables.projects.any fun p => p.site = .whole site && Store.isLive p id
  active := Store.activeIn tables
  held slot := (tables.attempts.find? (tables.isIn · slot)).map (·.id)

variable {tables tables' : Tables} {events : List Event} {site : Int} {request : Request}
  {dependent : Option Int} {first second : Instant} {slot : Slot} {row : AttemptRow}

/-! ## What the tables are on the board -/

theorem live_iff {id : Int} :
    tables.board.live site id = true ↔ ∃ project, IsLiveProject tables site id project := by
  simp only [Tables.board, List.any_eq_true, Store.isLive, Bool.and_eq_true, decide_eq_true_eq,
    Option.isNone_iff_eq_none, IsLiveProject]
  constructor
  · rintro ⟨p, hp, hsite, hid, hlive⟩
    exact ⟨p, hp, hid, hsite, hlive⟩
  · rintro ⟨p, hp, hid, hsite, hlive⟩
    exact ⟨p, hp, hsite, hid, hlive⟩

theorem isIn_iff : tables.isIn row slot = true ↔
    row.retryName = slot.retryName ∧
      ∃ s ∈ tables.sessions, s.id = row.session ∧ s.isOf slot.key = true := by
  simp [Tables.isIn]

theorem held_ne_none_iff :
    tables.board.held slot ≠ none ↔ ∃ a ∈ tables.attempts, tables.isIn a slot = true := by
  simp [Tables.board]

/-- The rows of a slot that is taken. -/
theorem held_request_iff : tables.board.held request.slot ≠ none ↔
    ∃ s ∈ tables.sessions, s.isOf request.key = true ∧
      ∃ a ∈ tables.attempts, a.session = s.id ∧ a.retryName = request.retryName := by
  rw [held_ne_none_iff]
  constructor
  · rintro ⟨a, ha, hin⟩
    obtain ⟨hname, s, hs, hid, hkey⟩ := isIn_iff.mp hin
    exact ⟨s, hs, hkey, a, ha, hid.symm, hname⟩
  · rintro ⟨s, hs, hkey, a, ha, hid, hname⟩
    exact ⟨a, ha, isIn_iff.mpr ⟨hname, s, hs, hid.symm, hkey⟩⟩

/-! ## Insertions on the board -/

section Insertions

variable {created : AttemptWithSession}

/-- The session of the new attempt is of the key of the request only. -/
theorem isIn_row_iff (h : tables'.IsConsistent)
    (hinserts : Inserts tables site request dependent created row tables') :
    tables'.isIn row slot = true ↔ slot = request.slot := by
  have hname : row.retryName = request.retryName := by
    rw [hinserts.written]
    rfl
  obtain ⟨s, hs, hkey, hstored⟩ := hinserts.stored
  have hid : s.id = row.session := by
    rw [hinserts.written]
    exact (Tables.stored_ok hstored).1.symm
  rw [isIn_iff]
  constructor
  · rintro ⟨hslot, s', hs', hid', hkey'⟩
    obtain rfl := List.inj_on_of_nodup_map h.sound.sessions hs' hs (hid'.trans hid.symm)
    obtain ⟨hproject, hworkflow, htime⟩ := Tables.isOf_iff.mp hkey
    obtain ⟨hproject', hworkflow', htime'⟩ := Tables.isOf_iff.mp hkey'
    have hsecond : slot.second = request.time.seconds := Cell.whole.inj (htime'.symm.trans htime)
    obtain ⟨project, workflow, second, retryName⟩ := slot
    exact Slot.mk.injEq .. ▸ ⟨hproject'.symm.trans hproject, hworkflow'.symm.trans hworkflow, hsecond,
      hslot.symm.trans hname⟩
  · rintro rfl
    exact ⟨hname, s, hs, hid, hkey⟩

/-- Before an attempt is inserted its slot is free. -/
theorem held_of_inserts (h : tables.IsConsistent) (h' : tables'.IsConsistent)
    (hinserts : Inserts tables site request dependent created row tables') :
    tables.board.held request.slot = none := by
  by_contra htaken
  obtain ⟨s, hs, hkey, a, ha, hid, hname⟩ := held_request_iff.mp htaken
  -- The session that was found is the one that gets the attempt.
  have hsession : s.id = created.session.id := by
    obtain ⟨s', hs', hbecomes⟩ := (Tables.Grows.insert h hinserts).sessions.exists_becomes hs
    obtain ⟨s'', hs'', hkey'', hstored⟩ := hinserts.stored
    have hsame := row_eq_of_isOf h'.sound hs' hs'' ((hbecomes.isOf _).trans hkey) hkey''
    rw [← hbecomes.id, hsame]
    exact (Tables.stored_ok hstored).1.symm
  have hfree := List.any_eq_false.mp hinserts.free a ha
  exact hfree (by simp [hid, hsession, hname])

/-- **Insertion.** The attempt is put into its slot. -/
theorem board_of_inserts (h : tables.IsConsistent) (h' : tables'.IsConsistent)
    (hinserts : Inserts tables site request dependent created row tables') :
    tables'.board = tables.board.put site request.slot row.id := by
  have hsite : row.site = .whole site := by
    rw [hinserts.written]
    rfl
  have hrunning : row.finished = none := by
    rw [hinserts.written]
    rfl
  refine Board.ext ?_ ?_ ?_
  · simp only [Tables.board, Board.put, hinserts.projects]
  · funext other
    have hcount : Store.activeIn tables' other =
        Store.activeIn tables other + if site = other then 1 else 0 := by
      simp [Store.activeIn, hinserts.attempts, List.countP_append, List.countP_cons, hsite, hrunning]
    change Store.activeIn tables' other =
      Function.update (Store.activeIn tables) site (Store.activeIn tables site + 1) other
    rw [hcount]
    by_cases hsame : other = site
    · rw [hsame, if_pos rfl, Function.update_self]
    · rw [if_neg (Ne.symm hsame), Function.update_of_ne hsame, Nat.add_zero]
  · funext slot
    -- For the attempts that were there nothing has changed.
    have hgrows := Tables.Grows.insert h hinserts
    have hfind : tables.attempts.find? (tables'.isIn · slot) =
        tables.attempts.find? (tables.isIn · slot) := by
      refine List.find?_congr fun a ha => ?_
      have hsession := Tables.hasSession_iff.mp (h.sound.ofSession a ha).1
      rw [Bool.eq_iff_iff, isIn_iff, isIn_iff,
        hgrows.exists_isOf_iff h.sound.sessions h'.sound.sessions hsession]
    have hfound : tables'.board.held slot =
        ((tables.attempts.find? (tables.isIn · slot)).or
          ([row].find? (tables'.isIn · slot))).map (·.id) := by
      rw [← hfind, ← List.find?_append, ← hinserts.attempts]
      rfl
    rw [hfound]
    by_cases hslot : slot = request.slot
    · have hfree := held_of_inserts h h' hinserts
      rw [← hslot] at hfree
      have hnone : tables.attempts.find? (tables.isIn · slot) = none := Option.map_eq_none_iff.mp hfree
      rw [hnone, List.find?_singleton, if_pos ((isIn_row_iff h' hinserts).mpr hslot)]
      simp [Board.put, hslot]
    · have hother : ¬tables'.isIn row slot = true := fun hin => hslot ((isIn_row_iff h' hinserts).mp hin)
      rw [List.find?_singleton, if_neg hother]
      simp [Board.put, Function.update_of_ne hslot, Tables.board]

end Insertions

/-! ## Transactions -/

/-- A project is found unless it is missing, deleted or of another site. -/
theorem liveIn_eq (h : tables.IsSound) (hread : ∀ p ∈ tables.projects, ∃ project, p.project = .ok project)
    (id : Int) :
    ((∃ project, IsLiveProject tables site id project) →
        ∃ project, Store.liveIn tables site id = .ok project) ∧
      ((¬∃ project, IsLiveProject tables site id project) →
        Store.liveIn tables site id = .error (.notFound (.project id))) := by
  constructor
  · rintro ⟨row, hrow, hid, hsite, hlive⟩
    obtain ⟨project, hproject⟩ := hread row hrow
    have hfind : tables.projects.find? (fun p => p.id = id) = some row := by
      refine find?_eq_of_unique hrow (decide_eq_true hid) fun p hp hpid => ?_
      exact List.inj_on_of_nodup_map h.projects hp hrow ((of_decide_eq_true hpid).trans hid.symm)
    have hdeleted : project.isDeleted = false := by
      obtain ⟨_, -, hproject⟩ := bind_ok hproject
      obtain ⟨_, -, hproject⟩ := bind_ok hproject
      rw [hlive] at hproject
      cases hproject
      rfl
    have hsame : project.site = site :=
      Cell.whole.inj ((site_of_project hproject).1.symm.trans hsite)
    refine ⟨project, ?_⟩
    simp [Store.liveIn, Store.projectIn, hfind, hproject, Store.orDatabase, hdeleted, hsame]
  · intro hnone
    -- If the project was found, it would be live.
    cases hlive : Store.liveIn tables site id with
    | ok project => exact absurd (isLiveProject_of_liveIn hlive) hnone
    | error error =>
      unfold Store.liveIn Store.projectIn at hlive
      cases hrow : tables.projects.find? (·.id = id) with
      | none =>
        rw [hrow] at hlive
        exact hlive.symm
      | some row =>
        obtain ⟨project, hproject⟩ := hread row (List.mem_of_find?_eq_some hrow)
        rw [hrow] at hlive
        simp only [hproject, Store.orDatabase] at hlive
        split at hlive
        · exact hlive.symm
        · cases hlive

theorem eq_full_of_nextId {last : Int} {ids : List Int} {fault : StoreFault}
    (h : Tables.nextId last ids = .error fault) : fault = .full := by
  unfold Tables.nextId at h
  dsimp only at h
  split at h <;> cases h
  rfl

/-- A session of a project that is there is found or added, as long as there are ids. -/
theorem eq_full_of_withSession {key : Key} {text : String} {fault : StoreFault}
    (hproject : tables.hasProject key.project = true)
    (h : Store.withSession tables key text = .error fault) : fault = .full := by
  unfold Store.withSession at h
  cases hid : tables.nextSession with
  | error fault' =>
    rw [hid] at h
    cases h
    exact eq_full_of_nextId hid
  | ok id =>
    rw [hid] at h
    by_cases hsession : (tables.session? key).isSome = true <;>
      simp [bind, Except.bind, hsession, hproject] at h <;> cases h

/-- A session that was found or added can be read. -/
theorem exists_lockedIn {locked : Tables} {key : Key}
    (hread : ∀ s ∈ tables.sessions, ∃ session, s.stored = .ok session) (htime : key.time.InCalendar)
    (hfirst : first.HasPlainYear) (hlock : Store.withSession tables key first.micros = .ok locked) :
    ∃ s session, s ∈ locked.sessions ∧ s.isOf key = true ∧ s.stored = .ok session ∧
      Store.lockedIn locked key = .ok session := by
  have hfound {s : SessionRow} {session : Stored} (hs : locked.session? key = some s)
      (hstored : s.stored = .ok session) : ∃ s session, s ∈ locked.sessions ∧ s.isOf key = true ∧
        s.stored = .ok session ∧ Store.lockedIn locked key = .ok session := by
    refine ⟨s, session, List.mem_of_find?_eq_some hs, Tables.isOf_of_session? hs, hstored, ?_⟩
    rw [Store.lockedIn, hs]
    dsimp only
    rw [hstored]
    rfl
  obtain ⟨id, -, ⟨⟨s, hs⟩, rfl⟩ | ⟨hnone, -, rfl⟩⟩ := withSession_cases hlock
  · obtain ⟨session, hstored⟩ := hread s (List.mem_of_find?_eq_some hs)
    exact hfound hs hstored
  · obtain ⟨session, hstored⟩ := stored_newSession id htime hfirst
    refine hfound ?_ hstored
    unfold Tables.session? at hnone ⊢
    rw [List.find?_append, hnone, Option.none_or, List.find?_singleton, if_pos]
    exact Tables.isOf_iff.mpr ⟨rfl, rfl, rfl⟩

/-- A transaction for a live project fails only if its slot is taken, or no id is left. -/
theorem inserted_of_live (h : tables.IsSound) (hlegible : IsLegible tables events)
    (hlive : ∃ project, IsLiveProject tables site request.project project)
    (htime : request.time.InCalendar) (hfirst : first.HasPlainYear) {error : StoreError}
    (herror : Store.inserted tables site request dependent first second = .error error) :
    error = .database .full ∨ ∃ retryName session, error = .conflict retryName session := by
  obtain ⟨project, hproject⟩ := (liveIn_eq h hlegible.projects _).1 hlive
  have hthere : tables.hasProject request.project = true := by
    obtain ⟨row, hrow, hid, -⟩ := hlive
    exact Tables.hasProject_iff.mpr ⟨row, hrow, hid⟩
  unfold Store.inserted at herror
  rw [hproject] at herror
  dsimp only at herror
  cases hlock : Store.withSession tables request.key first.micros with
  | error fault =>
    rw [hlock] at herror
    cases herror
    rw [eq_full_of_withSession hthere hlock]
    exact .inl rfl
  | ok locked =>
    obtain ⟨s, session, hs, hkey, hstored, hlocked⟩ :=
      exists_lockedIn hlegible.sessions (show request.key.time.InCalendar from htime) hfirst hlock
    rw [hlock] at herror
    dsimp only at herror
    rw [hlocked] at herror
    dsimp only at herror
    obtain ⟨hid, hproject, -⟩ := Tables.stored_ok hstored
    have hsession : locked.hasSession session.id = true :=
      Tables.hasSession_iff.mpr ⟨s, hs, hid.symm⟩
    have hkept : locked.hasProject session.key.project = true := by
      rw [hproject, (Tables.isOf_iff.mp hkey).1]
      obtain ⟨_, -, ⟨-, rfl⟩ | ⟨-, -, rfl⟩⟩ := withSession_cases hlock <;> exact hthere
    cases hattempted : Store.attempted locked site session request.spec dependent
        second.truncated with
    | error error' =>
      rw [hattempted] at herror
      cases herror
      obtain ⟨fault, hnext, rfl⟩ | ⟨-, rfl⟩ | ⟨hmissing, -⟩ := attempted_error hattempted
      · rw [eq_full_of_nextId hnext]
        exact .inl rfl
      · exact .inr ⟨_, _, rfl⟩
      · rw [hsession, hkept] at hmissing
        cases hmissing
    | ok outcome =>
      rw [hattempted] at herror
      cases herror

/-! ## Submissions -/

section Submissions

variable {limits : Limits} {result : Except AttemptError AttemptWithSession}

/-- A submission beyond the limit. -/
theorem submitted_limited (hvalid : request.IsWellFormed limits.maxParamsBytes)
    (hlimit : limits.maxActive < tables.board.active limits.site + 1) :
    submitted tables limits request dependent first second =
      (.error (.limitExceeded limits.maxActive (tables.board.active limits.site)), tables) := by
  unfold submitted
  rw [validate_eq_ok_iff.mpr hvalid]
  exact if_pos hlimit

/-- A submission that passes validation and the limit is decided by its transaction. -/
theorem submitted_admitted (hvalid : request.IsWellFormed limits.maxParamsBytes)
    (hlimit : ¬limits.maxActive < tables.board.active limits.site + 1) :
    submitted tables limits request dependent first second =
      match Store.inserted tables limits.site request dependent first second with
      | .ok (created, tables) => (.ok created, tables)
      | .error (.conflict _ _) =>
        match Store.attemptIn tables limits.site request.key request.retryName with
        | .ok existing => (.error (.alreadyExists existing), tables)
        | .error error => (.error (.ofStore error), tables)
      | .error error => (.error (.ofStore error), tables) := by
  unfold submitted
  rw [validate_eq_ok_iff.mpr hvalid]
  exact if_neg hlimit

/-- What is answered to a request that got its slot: a new attempt, with what was asked for. -/
structure IsAnswer (tables : Tables) (site : Int) (request : Request) (dependent : Option Int)
    (id : Int) (created : AttemptWithSession) : Prop where
  newest : ∀ a ∈ tables.attempts, a.id < id
  key : created.session.key = request.key
  attempt : created = ⟨site, { created.session with lastAttempt := some id },
    { id, session := created.session.id, site, retryName := request.retryName
      params := request.params, timeZone := request.timeZone
      definition := request.definition, dependent, created := created.attempt.created }⟩

/-- A conflict is with the attempt in the slot of the request. -/
theorem held_of_conflict (h : IsRecorded tables events)
    (hnonempty : ∀ name, request.retryName = some name → name ≠ "") {retryName : Option String}
    {session : Int} (hinserted : Store.inserted tables site request dependent first second =
      .error (.conflict retryName session)) :
    tables.board.held request.slot ≠ none := by
  obtain ⟨s, hs, hkey, a, ha, hsession, hslot⟩ := taken_of_conflict h.consistent hinserted
  -- A name that is not empty is in conflict with the same name only.
  have hname : a.retryName = request.retryName :=
    eq_of_getD hslot (h.named ha) fun hempty => hnonempty _ hempty rfl
  exact held_request_iff.mpr ⟨s, hs, hkey, a, ha, hsession, hname⟩

/-- Where the slot of a request is taken, there is an attempt that the request can be answered with. -/
theorem exists_seeks_of_held (h : IsKept tables events) (hlegible : IsLegible tables events)
    (hlive : tables.board.live site request.project = true)
    (htaken : tables.board.held request.slot ≠ none) :
    ∃ attempt, Seeks tables site request.key request.retryName attempt ∧
      attempt.params ∈ acceptedParams events := by
  obtain ⟨s, hs, hkey, a, ha, hof, hname⟩ := held_request_iff.mp htaken
  obtain ⟨b, hsought⟩ := exists_isSought h (live_iff.mp hlive) hs hkey ha hof hname
  exact hsought.exists_seeks hlegible

/-- An attempt that is inserted gets the slot of its request, which was free. -/
theorem board_of_inserted (h : tables.IsConsistent) (htime : request.time.IsWholeSecond)
    {created : AttemptWithSession}
    (hinserted : Store.inserted tables site request dependent first second =
      .ok (created, tables')) :
    tables.board.held request.slot = none ∧
      tables'.board = tables.board.put site request.slot created.attempt.id ∧
        IsAnswer tables site request dependent created.attempt.id created := by
  have h' := h.submit hinserted
  obtain ⟨-, row, hrow⟩ := inserts_of_inserted h.sound.sessions hinserted
  have hid : row.id = created.attempt.id := by
    rw [hrow.written]
    rfl
  rw [← hid]
  refine ⟨held_of_inserts h h' hrow, board_of_inserts h h' hrow, hrow.newest, ?_, ?_⟩
  · obtain ⟨s, -, hkey, hstored⟩ := hrow.stored
    exact key_of_stored hstored hkey htime
  · have hlast : { created.session with lastAttempt := some row.id } = created.session := by
      rw [← hrow.last]
    rw [hlast]
    exact hrow.answer

/-- A request that keeps the rules, within the limit, for a project that is live at the site. -/
structure IsAdmitted (tables : Tables) (limits : Limits) (request : Request) : Prop where
  valid : request.IsWellFormed limits.maxParamsBytes
  limit : ¬limits.maxActive < tables.board.active limits.site + 1
  live : tables.board.live limits.site request.project = true

/-- The answer to a request whose slot is taken, by what is looked up for it. -/
def takenError : Except StoreError AttemptWithSession → AttemptError
  | .ok existing => .alreadyExists existing
  | .error error => .ofStore error

/-- Why a submission is answered as it is, and what it leaves behind. -/
inductive Answers (tables : Tables) (limits : Limits) (request : Request) (dependent : Option Int)
    (first second : Instant) : Except AttemptError AttemptWithSession → Tables → Prop
  | malformed {reason : Invalid} (hinvalid : ¬request.IsWellFormed limits.maxParamsBytes)
      (hreason : request.validate limits.maxParamsBytes = .error reason) :
      Answers tables limits request dependent first second (.error (.invalid reason)) tables
  | limited (hvalid : request.IsWellFormed limits.maxParamsBytes)
      (hlimit : limits.maxActive < tables.board.active limits.site + 1) :
      Answers tables limits request dependent first second
        (.error (.limitExceeded limits.maxActive (tables.board.active limits.site))) tables
  | missing (hvalid : request.IsWellFormed limits.maxParamsBytes)
      (hlimit : ¬limits.maxActive < tables.board.active limits.site + 1)
      (hlive : tables.board.live limits.site request.project = false) :
      Answers tables limits request dependent first second
        (.error (.notFound (.project request.project))) tables
  | full (hadmitted : IsAdmitted tables limits request) :
      Answers tables limits request dependent first second
        (.error (.storage (.database .full))) tables
  | taken (hadmitted : IsAdmitted tables limits request)
      (htaken : tables.board.held request.slot ≠ none) :
      Answers tables limits request dependent first second
        (.error (takenError (Store.attemptIn tables limits.site request.key request.retryName)))
        tables
  | created {created : AttemptWithSession} {tables' : Tables}
      (hadmitted : IsAdmitted tables limits request)
      (hinserted : Store.inserted tables limits.site request dependent first second =
        .ok (created, tables')) :
      Answers tables limits request dependent first second (.ok created) tables'

/-- A submission is answered for one of these reasons. -/
theorem submitted_answers (h : IsRecorded tables events) (hlegible : IsLegible tables events)
    (htime : request.time.InCalendar) (hfirst : first.HasPlainYear)
    (hsubmitted : submitted tables limits request dependent first second = (result, tables')) :
    Answers tables limits request dependent first second result tables' := by
  by_cases hvalid : request.IsWellFormed limits.maxParamsBytes
  swap
  · unfold submitted at hsubmitted
    cases hreason : request.validate limits.maxParamsBytes with
    | ok => exact absurd (validate_eq_ok_iff.mp hreason) hvalid
    | error reason =>
      rw [hreason] at hsubmitted
      cases hsubmitted
      exact .malformed hvalid hreason
  by_cases hlimit : limits.maxActive < tables.board.active limits.site + 1
  · rw [submitted_limited hvalid hlimit] at hsubmitted
    cases hsubmitted
    exact .limited hvalid hlimit
  rw [submitted_admitted hvalid hlimit] at hsubmitted
  by_cases hlive : tables.board.live limits.site request.project = true
  swap
  · have hmissing := (liveIn_eq h.consistent.sound hlegible.projects _).2 (mt live_iff.mpr hlive)
    unfold Store.inserted at hsubmitted
    rw [hmissing] at hsubmitted
    cases hsubmitted
    exact .missing hvalid hlimit (Bool.eq_false_iff.mpr hlive)
  have hadmitted : IsAdmitted tables limits request := ⟨hvalid, hlimit, hlive⟩
  cases hinserted : Store.inserted tables limits.site request dependent first second with
  | error error =>
    rw [hinserted] at hsubmitted
    obtain rfl | ⟨retryName, session, rfl⟩ :=
      inserted_of_live h.consistent.sound hlegible (live_iff.mp hlive) htime hfirst hinserted
    · cases hsubmitted
      exact .full hadmitted
    have htaken := held_of_conflict h (fun name hname => (hvalid.retryName name hname).nonempty)
      hinserted
    have hanswer : Answers tables limits request dependent first second _ _ :=
      .taken hadmitted htaken
    dsimp only at hsubmitted
    cases hfound : Store.attemptIn tables limits.site request.key request.retryName <;>
    · rw [hfound] at hsubmitted hanswer
      cases hsubmitted
      exact hanswer
  | ok outcome =>
    obtain ⟨created, tables''⟩ := outcome
    rw [hinserted] at hsubmitted
    cases hsubmitted
    exact .created hadmitted hinserted

/-- On the board an admitted request gets its slot unless it is taken. -/
theorem IsAdmitted.submit_board (h : IsAdmitted tables limits request) (id : Int) :
    tables.board.submit limits request id =
      if tables.board.held request.slot ≠ none then (.taken, tables.board)
      else (.created id, tables.board.put limits.site request.slot id) := by
  rw [Board.submit, if_neg (not_not_intro h.valid), if_neg h.limit, h.live,
    if_neg (Bool.noConfusion : ¬true = false)]

/-- A submission to some tables is one to their board. -/
theorem submitted_refines (h : IsRecorded tables events) (hkept : IsKept tables events)
    (hlegible : IsLegible tables events)
    (hshallow : ∀ params ∈ acceptedParams events, (Json.obj params).depth ≤ Json.depthLimit)
    (htime : request.time.InCalendar) (hfirst : first.HasPlainYear)
    (hsubmitted : submitted tables limits request dependent first second = (result, tables'))
    (hfault : result ≠ .error (.storage (.database .full))) :
    ∃ id, (verdict result, tables'.board) = tables.board.submit limits request id ∧
      ∀ created, result = .ok created →
        IsAnswer tables limits.site request dependent id created := by
  -- In all cases but the last one nothing is created.
  cases submitted_answers h hlegible htime hfirst hsubmitted with
  | malformed hinvalid hreason =>
    refine ⟨0, ?_, fun _ h => nomatch h⟩
    rw [Board.submit, if_pos hinvalid, verdict]
  | limited hvalid hlimit =>
    refine ⟨0, ?_, fun _ h => nomatch h⟩
    rw [Board.submit, if_neg (not_not_intro hvalid), if_pos hlimit, verdict]
  | missing hvalid hlimit hlive =>
    refine ⟨0, ?_, fun _ h => nomatch h⟩
    rw [Board.submit, if_neg (not_not_intro hvalid), if_neg hlimit, if_pos hlive]
    rfl
  | full hadmitted => exact absurd rfl hfault
  | taken hadmitted htaken =>
    obtain ⟨attempt, hseeks, hmem⟩ := exists_seeks_of_held hkept hlegible hadmitted.live htaken
    obtain ⟨existing, hexisting, -⟩ := hseeks.shallow hkept hlegible (hshallow _ hmem)
    refine ⟨0, ?_, ?_⟩
    · rw [hadmitted.submit_board, if_pos htaken, hexisting]
      rfl
    · rw [hexisting]
      exact fun _ h => nomatch h
  | @created created tables' hadmitted hinserted =>
    obtain ⟨hfree, hboard, hanswer⟩ :=
      board_of_inserted h.consistent hadmitted.valid.time hinserted
    refine ⟨created.attempt.id, ?_, ?_⟩
    · rw [hadmitted.submit_board, if_neg (not_not_intro hfree), hboard, verdict]
    · rintro _ ⟨⟩
      exact hanswer

end Submissions

/-- **Refinement.** After any history whose attempts have parameters that can be read back, let
anything be submitted, and let there be an id for it. Then the answer is the one of the board, and
so is what becomes of the board: a malformed request, one beyond the limit, one for a project that is
not live at the site, and one for a slot that is taken change nothing; any other request gets its slot,
with a new id and what it asked for. -/
theorem submit_refines {operations : List Operation} {clock : Clock} {store after : Store}
    {limits : Limits} {result : Except AttemptError AttemptWithSession}
    (hclock : ∀ n, (clock.reading n).HasPlainYear)
    (hproper : ∀ operation ∈ operations, operation.IsProper)
    (hrun : ((history operations).run { clock := clock }).run = (events, store))
    (hshallow : ∀ params ∈ acceptedParams events, (Json.obj params).depth ≤ Json.depthLimit)
    (hrequest : (Operation.submit limits request dependent).IsProper)
    (hsubmit : ((submit limits request dependent).run store).run = (result, after))
    (hfault : result ≠ .error (.storage (.database .full))) :
    ∃ id, (verdict result, after.tables.board) = store.tables.board.submit limits request id ∧
      ∀ created, result = .ok created →
        IsAnswer store.tables limits.site request dependent id created := by
  have hnow : store.clock.now.HasPlainYear := by
    rw [Clock.now, ← (history_clock hrun).reading]
    exact hclock _
  exact submitted_refines (history_recorded hrun) (history_kept hrun)
    (history_legible hclock hproper hrun) hshallow hrequest.2.time hnow (submitted_of_run hsubmit)
    hfault

namespace Daily

/-- A retry gets a slot of its own; the same retry once more finds it taken. -/
theorem submit_refines_daily :
    (∃ id, (Verdict.created 2, ((submit {} (requestFor (some "retry1")) none).run
          (atOnce (attempts [none])).2).run.2.tables.board) =
        (atOnce (attempts [none])).2.tables.board.submit {} (requestFor (some "retry1")) id) ∧
      ∃ id, (Verdict.taken, ((submit {} (requestFor none) none).run
          (atOnce (attempts [none])).2).run.2.tables.board) =
        (atOnce (attempts [none])).2.tables.board.submit {} (requestFor none) id := by
  have hshallow : ∀ params ∈ acceptedParams (atOnce (attempts [none])).1,
      (Json.obj params).depth ≤ Json.depthLimit := by decide +kernel
  have hretry : verdict ((submit {} (requestFor (some "retry1")) none).run
      (atOnce (attempts [none])).2).run.1 = .created 2 := by decide +kernel
  have htaken : verdict ((submit {} (requestFor none) none).run
      (atOnce (attempts [none])).2).run.1 = .taken := by decide +kernel
  constructor
  · obtain ⟨id, hboard, -⟩ := submit_refines hasPlainYear_atOnce (attempts_isProper _) (run_atOnce _)
      hshallow (submit_isProper_empty (some "retry1")) (run_eq _ _) fun hfull => by
        rw [hfull] at hretry
        cases hretry
    exact ⟨id, hretry ▸ hboard⟩
  · obtain ⟨id, hboard, -⟩ := submit_refines hasPlainYear_atOnce (attempts_isProper _) (run_atOnce _)
      hshallow (submit_isProper_empty none) (run_eq _ _) fun hfull => by
        rw [hfull] at htaken
        cases htaken
    exact ⟨id, htaken ▸ hboard⟩

end Daily

end RetrySafe.Session
