import RetrySafe.Proofs.Association
import RetrySafe.Proofs.Session.Consistency

/-!
# Duplicate submissions

A submission whose session already has an attempt of its retry name is answered with an attempt that
is stored. With a retry name it is the one of that name. Without one it is the last attempt of the
session, which is the one without a name only as long as nothing was retried under a name since.

## Main definitions

* `creations` — the attempts that a history created.
* `IsAttemptOf` — the row of a created attempt.

## Main results

* `history_recorded` — the rows of the attempts are those of the created attempts, one by one.
* `duplicate_answer` — which attempt a duplicate submission is answered with.
-/

namespace RetrySafe.Session

open Time (Clock Instant)

/-- The attempts that a history created, the first one first. -/
def creations (events : List Event) : List Creation := events.filterMap Event.creation?

/-- The row of a created attempt, which is found under the key of its session. -/
structure IsAttemptOf (tables : Tables) (row : AttemptRow) (creation : Creation) : Prop where
  id : row.id = creation.attempt
  name : row.retryName = creation.retryName
  session : ∃ s ∈ tables.sessions, s.id = row.session ∧ s.isOf creation.key = true
  whole : creation.key.time.IsWholeSecond
  named : creation.retryName ≠ some ""

/-- The rows of the attempts are those of the created attempts, one by one. -/
structure IsRecorded (tables : Tables) (events : List Event) : Prop where
  consistent : tables.IsConsistent
  rows : List.Forall₂ (IsAttemptOf tables) tables.attempts (creations events)

variable {tables tables' locked : Tables} {site : Int} {request : Request} {key : Key}
  {retryName : Option String} {existing : AttemptWithSession}

/-! ## Well-formed requests -/

theorem of_insist {condition : Bool} {reason : Invalid} (h : insist condition reason = .ok ()) :
    condition = true := by
  unfold insist at h
  split at h
  · assumption
  · cases h

/-- A request that is not refused is for a whole second, and its retry name is not empty. -/
theorem validate_ok {maxParamsBytes : Nat} (h : request.validate maxParamsBytes = .ok ()) :
    request.time.IsWholeSecond ∧ request.retryName ≠ some "" := by
  obtain ⟨_, -, h⟩ := bind_ok h
  obtain ⟨_, -, h⟩ := bind_ok h
  obtain ⟨_, htime, h⟩ := bind_ok h
  refine ⟨of_decide_eq_true (of_insist htime), fun hempty => ?_⟩
  rw [hempty] at h
  cases h

/-! ## Keys of sessions -/

theorem eq_ofSeconds {t : Instant} (h : t.IsWholeSecond) : t = .ofSeconds t.seconds := by
  obtain ⟨seconds, nanos, hnanos, hleap⟩ := t
  cases h
  rfl

/-- A row is found under one key only, as far as whole seconds go. -/
theorem key_eq_of_isOf {row : SessionRow} {key' : Key} (hkey : row.isOf key = true)
    (hkey' : row.isOf key' = true) (hwhole : key.time.IsWholeSecond)
    (hwhole' : key'.time.IsWholeSecond) : key = key' := by
  obtain ⟨hproject, hworkflow, htime⟩ := Tables.isOf_iff.mp hkey
  obtain ⟨hproject', hworkflow', htime'⟩ := Tables.isOf_iff.mp hkey'
  have hseconds : key.time.seconds = key'.time.seconds := Cell.whole.inj (htime.symm.trans htime')
  have hsame : key.time = key'.time := by
    rw [eq_ofSeconds hwhole, hseconds, ← eq_ofSeconds hwhole']
  obtain ⟨project, workflow, time⟩ := key
  exact Key.mk.injEq .. ▸ ⟨hproject.symm.trans hproject', hworkflow.symm.trans hworkflow', hsame⟩

/-- Only one row is found under a key. -/
theorem row_eq_of_isOf (h : tables.IsSound) {row row' : SessionRow} (hrow : row ∈ tables.sessions)
    (hrow' : row' ∈ tables.sessions) (hkey : row.isOf key = true) (hkey' : row'.isOf key = true) :
    row = row' := by
  obtain ⟨hproject, hworkflow, htime⟩ := Tables.isOf_iff.mp hkey
  obtain ⟨hproject', hworkflow', htime'⟩ := Tables.isOf_iff.mp hkey'
  refine List.inj_on_of_nodup_map h.keys hrow hrow' ?_
  rw [hproject, hproject', hworkflow, hworkflow', htime, htime']

/-- The key that is read from a row is the one under which the row is found. -/
theorem key_of_stored {row : SessionRow} {session : Stored} (hstored : row.stored = .ok session)
    (hkey : row.isOf key = true) (hwhole : key.time.IsWholeSecond) : session.key = key := by
  obtain ⟨-, hproject, hworkflow, n, hn, htime⟩ := Tables.stored_ok hstored
  -- The row is found under the key that is read from it, too.
  have hread : row.isOf session.key = true := by
    refine Tables.isOf_iff.mpr ⟨hproject.symm, hworkflow.symm, ?_⟩
    rw [hn, htime, Instant.ofSeconds]
  have hwhole' : session.key.time.IsWholeSecond := by
    rw [htime]
    rfl
  exact key_eq_of_isOf hread hkey hwhole' hwhole

/-! ## What was created is what is stored -/

/-- Sessions stay, under their ids and keys. -/
def KeepsSessions (tables tables' : Tables) : Prop :=
  ∀ s ∈ tables.sessions, ∃ s' ∈ tables'.sessions, s'.id = s.id ∧ ∀ key, s'.isOf key = s.isOf key

theorem keepsSessions_withSession {created : String}
    (hlock : Store.withSession tables key created = .ok locked) : KeepsSessions tables locked := by
  intro s hs
  obtain ⟨id, -, ⟨-, rfl⟩ | ⟨-, -, rfl⟩⟩ := withSession_cases hlock
  · exact ⟨s, hs, rfl, fun _ => rfl⟩
  · exact ⟨s, List.mem_append_left _ hs, rfl, fun _ => rfl⟩

theorem keepsSessions_withAttempt (row : AttemptRow) :
    KeepsSessions tables (Store.withAttempt tables row) := by
  intro s hs
  refine ⟨_, List.mem_map_of_mem hs, ?_⟩
  split <;> exact ⟨rfl, fun _ => rfl⟩

namespace IsAttemptOf

variable {row : AttemptRow} {creation : Creation}

theorem mono (h : IsAttemptOf tables row creation) (hkeeps : KeepsSessions tables tables') :
    IsAttemptOf tables' row creation := by
  obtain ⟨s, hs, hid, hkey⟩ := h.session
  obtain ⟨s', hs', hid', hkey'⟩ := hkeeps s hs
  exact ⟨h.id, h.name, ⟨s', hs', hid'.trans hid, (hkey' _).trans hkey⟩, h.whole, h.named⟩

/-- A row that was just inserted. -/
theorem inserted {dependent : Option Int} {first second : Instant} {maxParamsBytes : Nat}
    {created : AttemptWithSession} (hvalid : request.validate maxParamsBytes = .ok ())
    (hinserted : Store.inserted tables site request dependent first second =
      .ok (created, tables')) :
    KeepsSessions tables tables' ∧ ∃ row, tables'.attempts = tables.attempts ++ [row] ∧
      IsAttemptOf tables' row ⟨request.key, request.retryName, created.attempt.id⟩ := by
  obtain ⟨-, locked, session, stored, id, -, hlock, hsession, hstored, -, -, rfl, rfl⟩ :=
    inserted_ok hinserted
  obtain ⟨hwhole, hnamed⟩ := validate_ok hvalid
  have hattempts : locked.attempts = tables.attempts := by
    obtain ⟨_, -, ⟨-, rfl⟩ | ⟨-, -, rfl⟩⟩ := withSession_cases hlock <;> rfl
  have hkeeps : KeepsSessions locked (Store.withAttempt locked
      (Store.newRow id site stored request.spec dependent second.truncated)) :=
    keepsSessions_withAttempt _
  -- The session may be new and then gets its last attempt, but it keeps its id and its key.
  refine ⟨fun s hs => ?_, _, by rw [← hattempts]; rfl, rfl, rfl, ?_, hwhole, hnamed⟩
  · obtain ⟨s', hs', hid, hkey⟩ := keepsSessions_withSession hlock s hs
    obtain ⟨s'', hs'', hid', hkey'⟩ := hkeeps s' hs'
    exact ⟨s'', hs'', hid'.trans hid, fun key => (hkey' key).trans (hkey key)⟩
  · obtain ⟨s, hs, hid, hkey⟩ := hkeeps session (List.mem_of_find?_eq_some hsession)
    refine ⟨s, hs, ?_, (hkey _).trans (Tables.isOf_of_session? hsession)⟩
    exact hid.trans (Tables.stored_ok hstored).1.symm

end IsAttemptOf

theorem creations_concat (events : List Event) (event : Event) :
    creations (events ++ [event]) = creations events ++ event.creation?.toList := by
  cases h : event.creation? <;> simp [creations, h]

/-- Every operation. -/
theorem IsRecorded.step {events : List Event} (h : IsRecorded tables events)
    {reads : Instant → Prop} {event : Event} (hstep : Step reads tables event tables') :
    IsRecorded tables' (events ++ [event]) := by
  refine ⟨h.consistent.step hstep, ?_⟩
  rw [creations_concat]
  cases hstep with
  | unchanged hnone hfinish =>
    rw [hnone, Option.toList_none, List.append_nil]
    exact h.rows
  | created hnow hid =>
    change List.Forall₂ _ _ (creations events ++ [])
    rw [List.append_nil]
    exact h.rows.imp fun _ _ hrow => hrow.mono fun s hs => ⟨s, hs, rfl, fun _ => rfl⟩
  | deleted hnow =>
    change List.Forall₂ _ _ (creations events ++ [])
    rw [List.append_nil]
    exact h.rows.imp fun _ _ hrow => hrow.mono fun s hs => ⟨s, hs, rfl, fun _ => rfl⟩
  | submitted hfirst hsecond hvalid hinserted =>
    obtain ⟨hkeeps, row, hattempts, hrow⟩ := IsAttemptOf.inserted hvalid hinserted
    rw [hattempts]
    exact List.rel_append (h.rows.imp fun _ _ hrow => hrow.mono hkeeps) (.cons hrow .nil)
  | finished hnow hopen =>
    change List.Forall₂ _ _ (creations events ++ [])
    rw [List.append_nil, List.forall₂_map_left_iff]
    refine h.rows.imp fun row creation hrow => ?_
    split <;> exact ⟨hrow.id, hrow.name, hrow.session, hrow.whole, hrow.named⟩
  | closed hclosed hthere =>
    change List.Forall₂ _ _ (creations events ++ [])
    rw [List.append_nil]
    exact h.rows

/-- After any history from nothing, the rows of the attempts are those of the created attempts. -/
theorem history_recorded {operations : List Operation} {clock : Clock} {store : Store}
    {events : List Event}
    (hrun : ((history operations).run { clock := clock }).run = (events, store)) :
    IsRecorded store.tables events :=
  history_invariant IsRecorded (fun _ _ _ _ _ h hstep => h.step hstep)
    ⟨Tables.isConsistent_empty, .nil⟩ hrun

/-! ## Rows and creations -/

theorem getLast?_of_forall₂ {α β : Type} {R : α → β → Prop} {l : List α} {l' : List β}
    (h : List.Forall₂ R l l') {a : α} (ha : l.getLast? = some a) :
    ∃ b, l'.getLast? = some b ∧ R a b := by
  have hreverse : List.Forall₂ R l.reverse l'.reverse := List.rel_reverse h
  -- From the back the last ones are the first ones.
  rw [List.getLast?_eq_head?_reverse] at ha ⊢
  generalize l.reverse = r, l'.reverse = r' at ha hreverse ⊢
  cases hreverse with
  | nil => cases ha
  | @cons a' b r r' hab _ =>
    cases ha
    exact ⟨b, rfl, hab⟩

theorem eq_of_slot (h : tables.IsSound) {a a' : AttemptRow} (ha : a ∈ tables.attempts)
    (ha' : a' ∈ tables.attempts) (hsession : a.session = a'.session)
    (hname : a.retryName.getD "" = a'.retryName.getD "") : a = a' :=
  List.inj_on_of_nodup_map h.slots ha ha' (Prod.ext hsession hname)

/-- Names that are not empty are told apart by their slots. -/
theorem eq_of_getD {name name' : Option String} (h : name.getD "" = name'.getD "")
    (hname : name ≠ some "") (hname' : name' ≠ some "") : name = name' := by
  cases name <;> cases name' <;> simp_all

theorem IsAttemptOf.session_iff (hsound : tables.IsSound) {a : AttemptRow} {creation : Creation}
    (h : IsAttemptOf tables a creation) {s : SessionRow} (hs : s ∈ tables.sessions)
    (hkey : s.isOf key = true) (hwhole : key.time.IsWholeSecond) :
    a.session = s.id ↔ creation.key = key := by
  obtain ⟨s', hs', hid, hkey'⟩ := h.session
  constructor
  · intro hsame
    have hrow := List.inj_on_of_nodup_map hsound.sessions hs' hs (hid.trans hsame)
    exact key_eq_of_isOf hkey' (hrow ▸ hkey) h.whole hwhole
  · intro hsame
    rw [← hid, row_eq_of_isOf hsound hs' hs (hsame ▸ hkey') hkey]

namespace IsRecorded

variable {events : List Event} (h : IsRecorded tables events)

include h

/-- No attempt has an empty name. -/
theorem named {a : AttemptRow} (ha : a ∈ tables.attempts) : a.retryName ≠ some "" := by
  obtain ⟨creation, -, hrow⟩ := Association.exists_of_mem h.rows ha
  rw [hrow.name]
  exact hrow.named

/-- Created attempts are told apart by their ids. -/
theorem nodup_attempts : ((creations events).map (·.attempt)).Nodup := by
  have hids : tables.attempts.map (·.id) = (creations events).map (·.attempt) := by
    rw [← List.forall₂_eq_eq_eq, List.forall₂_map_left_iff, List.forall₂_map_right_iff]
    exact h.rows.imp fun _ _ hrow => hrow.id
  exact hids ▸ h.consistent.sound.attempts

/-- Nothing else was created for the session and under the name of a created attempt. -/
theorem only_creation {a : AttemptRow} {creation : Creation} (ha : a ∈ tables.attempts)
    (hcreation : creation ∈ creations events) (hrow : IsAttemptOf tables a creation) :
    (creations events).filter (fun c => c.key = creation.key ∧ c.retryName = creation.retryName) =
      [creation] := by
  -- Another creation of the same session and name would be stored in the same slot.
  have hsame : ∀ c ∈ creations events, c.key = creation.key → c.retryName = creation.retryName →
      c = creation := by
    intro c hc hkey hname
    obtain ⟨a', ha', hrow'⟩ := Association.exists_of_mem h.rows.flip hc
    obtain ⟨s, hs, hid, hof⟩ := hrow.session
    have hsession := (hrow'.session_iff h.consistent.sound hs hof hrow.whole).mpr hkey
    have hslot : a' = a := by
      refine eq_of_slot h.consistent.sound ha' ha (hsession.trans hid) ?_
      rw [hrow'.name, hrow.name, hname]
    refine List.inj_on_of_nodup_map h.nodup_attempts hc hcreation ?_
    rw [← hrow'.id, ← hrow.id, hslot]
  have hfilter : (creations events).filter
      (fun c => c.key = creation.key ∧ c.retryName = creation.retryName) =
      (creations events).filter (· = creation) := by
    refine List.filter_congr fun c hc => decide_eq_decide.mpr ⟨fun hc' => ?_, ?_⟩
    · exact hsame c hc hc'.1 hc'.2
    · rintro rfl
      exact ⟨rfl, rfl⟩
  rw [hfilter, List.filter_eq,
    List.count_eq_one_of_mem (List.Nodup.of_map _ h.nodup_attempts) hcreation, List.replicate_one]

/-- The last row of a session is that of the attempt that was created last for it. -/
theorem last_creation {s : SessionRow} (hs : s ∈ tables.sessions) (hkey : s.isOf key = true)
    (hwhole : key.time.IsWholeSecond) {a : AttemptRow}
    (hlast : (tables.attemptsOf s.id).getLast? = some a) :
    ∃ creation, ((creations events).filter (·.key = key)).getLast? = some creation ∧
      IsAttemptOf tables a creation := by
  refine getLast?_of_forall₂ (List.rel_filter ?_ h.rows) hlast
  intro a creation hrow
  simpa using hrow.session_iff h.consistent.sound hs hkey hwhole

end IsRecorded

/-! ## What a duplicate submission finds -/

/-- A conflict is with a row of the session that the request is for. -/
theorem taken_of_conflict (h : tables.IsConsistent) {dependent : Option Int}
    {first second : Instant} {taken : Int}
    (hconflict : Store.inserted tables site request dependent first second =
      .error (.conflict retryName taken)) :
    ∃ s ∈ tables.sessions, s.isOf request.key = true ∧
      ∃ a ∈ tables.attempts, a.session = s.id ∧
        a.retryName.getD "" = request.retryName.getD "" := by
  obtain ⟨-, locked, session, stored, -, hlock, hsession, hstored, htaken⟩ :=
    inserted_conflict hconflict
  have hattempts : locked.attempts = tables.attempts := (h.lock hlock).2.1
  obtain ⟨a, ha, hslot⟩ := List.any_eq_true.mp htaken
  rw [Bool.and_eq_true, decide_eq_true_eq, decide_eq_true_eq, (Tables.stored_ok hstored).1] at hslot
  rw [hattempts] at ha
  obtain ⟨id, hid, ⟨⟨row, hrow⟩, rfl⟩ | ⟨hnone, -, rfl⟩⟩ := withSession_cases hlock
  · exact ⟨session, List.mem_of_find?_eq_some hsession, Tables.isOf_of_session? hsession, a, ha,
      hslot⟩
  · -- A session that was just added has no attempt yet.
    obtain ⟨s, hs, hsid⟩ := Tables.hasSession_iff.mp (h.sound.ofSession a ha).1
    have hold : s.id < id := lt_of_nextId hid s.id (List.mem_map_of_mem hs)
    rcases List.mem_append.mp (List.mem_of_find?_eq_some hsession) with hmem | hmem
    · exact absurd (Tables.isOf_of_session? hsession) (List.find?_eq_none.mp hnone session hmem)
    · rw [List.mem_singleton] at hmem
      rw [hsid, hslot.1, hmem] at hold
      exact absurd hold (Int.lt_irrefl _)

theorem attempt_ok {row : AttemptRow} {attempt : Attempt} (h : row.attempt = .ok attempt) :
    attempt.id = row.id ∧ attempt.retryName = row.retryName := by
  obtain ⟨_, -, h⟩ := bind_ok h
  obtain ⟨_, -, h⟩ := bind_ok h
  obtain ⟨_, -, h⟩ := bind_ok h
  obtain ⟨_, -, h⟩ := bind_ok h
  obtain ⟨_, -, h⟩ := bind_ok h
  obtain ⟨_, -, h⟩ := bind_ok h
  obtain ⟨_, -, h⟩ := bind_ok h
  cases h
  exact ⟨rfl, rfl⟩

/-- An attempt beside its session is read from these rows. -/
structure IsRead (tables : Tables) (key : Key) (s : SessionRow) (a : AttemptRow)
    (found : AttemptWithSession) : Prop where
  session : s ∈ tables.sessions
  attempt : a ∈ tables.attempts
  of : a.session = s.id
  isOf : s.isOf key = true
  storedSession : s.stored = .ok found.session
  storedAttempt : a.attempt = .ok found.attempt

theorem foundOr_ok {found : Option (SessionRow × AttemptRow)}
    (h : Store.foundOr site key retryName found = .ok existing) :
    ∃ s a, found = some (s, a) ∧ s.stored = .ok existing.session ∧
      a.attempt = .ok existing.attempt := by
  cases found with
  | none => cases h
  | some rows =>
    obtain ⟨s, a⟩ := rows
    have hjoined : (do return ⟨site, ← s.stored, ← a.attempt⟩ : Except StoreFault _) =
        .ok existing := by
      unfold Store.foundOr Store.joined Store.orDatabase at h
      dsimp only at h
      split at h
      · rename_i hjoined
        cases h
        exact hjoined
      · cases h
    obtain ⟨session, hs, hjoined⟩ := bind_ok hjoined
    obtain ⟨attempt, ha, hjoined⟩ := bind_ok hjoined
    cases hjoined
    exact ⟨s, a, rfl, hs, ha⟩

/-- The rows that are found by a name. -/
theorem of_rowsByName {name : String} {s : SessionRow} {a : AttemptRow}
    (h : Store.rowsByName tables site key name = some (s, a)) :
    s ∈ tables.sessions ∧ s.isOf key = true ∧ a ∈ tables.attempts ∧ a.session = s.id ∧
      a.site = .whole site ∧ a.retryName = some name := by
  obtain ⟨b, hb, hfound⟩ := List.exists_of_findSome?_eq_some h
  split at hfound
  · rename_i hmine
    obtain ⟨s', hs', hpair⟩ := Option.map_eq_some_iff.mp hfound
    cases hpair
    have hkey := List.find?_some hs'
    rw [Bool.and_eq_true, decide_eq_true_eq, decide_eq_true_eq] at hmine
    rw [Bool.and_eq_true, decide_eq_true_eq] at hkey
    exact ⟨List.mem_of_find?_eq_some hs', hkey.2, hb, hkey.1.symm, hmine.1, hmine.2⟩
  · cases hfound

/-- The rows that are found without a name: a session knows the id of its last attempt. -/
theorem of_rowsOfLast (h : tables.IsConsistent) {s : SessionRow} {a : AttemptRow}
    (hrows : Store.rowsOfLast tables site key = some (s, a)) :
    s ∈ tables.sessions ∧ s.isOf key = true ∧ (tables.attemptsOf s.id).getLast? = some a ∧
      a.site = .whole site := by
  obtain ⟨s', hs', hrows⟩ := Option.bind_eq_some_iff.mp hrows
  obtain ⟨last, hlast, hrows⟩ := Option.bind_eq_some_iff.mp hrows
  obtain ⟨a', ha', hpair⟩ := Option.bind_eq_some_iff.mp hrows
  cases hpair
  have hmem := List.mem_of_find?_eq_some hs'
  rw [h.last s hmem] at hlast
  obtain ⟨latest, hlatest, rfl⟩ := Option.map_eq_some_iff.mp hlast
  have hlatestmem := (List.mem_filter.mp (List.mem_of_getLast? hlatest)).1
  have hfound := List.find?_some ha'
  rw [Bool.and_eq_true, decide_eq_true_eq, decide_eq_true_eq, Cell.whole.injEq] at hfound
  obtain rfl := List.inj_on_of_nodup_map h.sound.attempts (List.mem_of_find?_eq_some ha') hlatestmem
    hfound.1
  exact ⟨hmem, Tables.isOf_of_session? hs', hlatest, hfound.2⟩

/-- An attempt is looked up by its name, or as the last one of its session. -/
theorem attemptIn_ok (h : tables.IsConsistent)
    (hfound : Store.attemptIn tables site key retryName = .ok existing) :
    ∃ s a, IsRead tables key s a existing ∧
      (retryName ≠ none → a.retryName = retryName) ∧
      (retryName = none → (tables.attemptsOf s.id).getLast? = some a) := by
  cases retryName with
  | some name =>
    obtain ⟨s, a, hrows, hs, ha⟩ := foundOr_ok hfound
    obtain ⟨hsession, hkey, hattempt, hof, -, hname⟩ := of_rowsByName hrows
    exact ⟨s, a, ⟨hsession, hattempt, hof, hkey, hs, ha⟩, fun _ => hname, nofun⟩
  | none =>
    obtain ⟨s, a, hrows, hs, ha⟩ := foundOr_ok hfound
    obtain ⟨hsession, hkey, hlast, -⟩ := of_rowsOfLast h hrows
    obtain ⟨hattempt, hof⟩ := List.mem_filter.mp (List.mem_of_getLast? hlast)
    exact ⟨s, a, ⟨hsession, hattempt, of_decide_eq_true hof, hkey, hs, ha⟩,
      fun hnone => absurd rfl hnone, fun _ => hlast⟩

/-- **Duplicates.** After any history, let a submission be answered with an attempt that exists.
Then that attempt is stored with the session of the request, and exactly one attempt was created
for the session under the retry name of the request. The answer is that attempt if and only if the
request has a retry name or no other attempt of the session was created since. -/
theorem duplicate_answer {operations : List Operation} {clock : Clock} {store : Store}
    {events : List Event} {limits : Limits} {dependent : Option Int}
    (hrun : ((history operations).run { clock := clock }).run = (events, store))
    (hduplicate : ((submit limits request dependent).run store).run.1 =
      .error (.alreadyExists existing)) :
    (∃ s a, IsRead store.tables request.key s a existing) ∧
      existing.session.key = request.key ∧
      ∃ creation, (creations events).filter
          (fun c => c.key = request.key ∧ c.retryName = request.retryName) = [creation] ∧
        ((existing.attempt.id = creation.attempt ∧
            existing.attempt.retryName = request.retryName) ↔
          (request.retryName = none →
            ((creations events).filter (·.key = request.key)).getLast? = some creation)) := by
  have h := history_recorded hrun
  obtain ⟨clock', -, hsubmit⟩ := submit_eq store limits request dependent
  obtain ⟨⟨result, tables'⟩, hsubmitted⟩ : ∃ p, submitted store.tables limits request dependent
    store.clock.now store.clock.advanced.now = p := ⟨_, rfl⟩
  rw [hsubmit _ _ hsubmitted] at hduplicate
  cases hduplicate
  obtain ⟨hvalid, ⟨_, _, hconflict⟩, hfound⟩ := submitted_alreadyExists hsubmitted
  obtain ⟨hwhole, hnamed⟩ := validate_ok hvalid
  obtain ⟨s, a, hread, hname, hlast⟩ := attemptIn_ok h.consistent hfound
  obtain ⟨s', hs', hkey', taken, htaken, hsession, hslot⟩ :=
    taken_of_conflict h.consistent hconflict
  -- The session that was in conflict is the one that the answer was read from.
  obtain rfl := row_eq_of_isOf h.consistent.sound hs' hread.session hkey' hread.isOf
  obtain ⟨creation, hcreation, hrow⟩ := Association.exists_of_mem h.rows htaken
  have hkey : creation.key = request.key :=
    (hrow.session_iff h.consistent.sound hs' hkey' hwhole).mp hsession
  have hsame : creation.retryName = request.retryName :=
    eq_of_getD (hrow.name ▸ hslot) hrow.named hnamed
  obtain ⟨hid, hretry⟩ := attempt_ok hread.storedAttempt
  refine ⟨⟨s', a, hread⟩, key_of_stored hread.storedSession hkey' hwhole, creation, ?_, ?_⟩
  · rw [← hkey, ← hsame]
    exact h.only_creation htaken hcreation hrow
  rw [hid, hretry]
  by_cases hnone : request.retryName = none
  · -- Without a name the answer is the last attempt of the session.
    obtain ⟨latest, hlatest, hrow'⟩ := h.last_creation hread.session hkey' hwhole (hlast hnone)
    have hmem := (List.mem_filter.mp (List.mem_of_getLast? hlatest)).1
    constructor
    · rintro ⟨hattempt, -⟩ -
      rw [hlatest, List.inj_on_of_nodup_map h.nodup_attempts hmem hcreation
        (hrow'.id.symm.trans hattempt)]
    · intro hlatest'
      obtain rfl := Option.some.inj (hlatest.symm.trans (hlatest' hnone))
      exact ⟨hrow'.id, hrow'.name.trans hsame⟩
  · -- With a name the answer is the attempt of this name.
    have hnamed' := hname hnone
    have hsame' : a = taken := by
      refine eq_of_slot h.consistent.sound hread.attempt htaken (hread.of.trans hsession.symm) ?_
      rw [hnamed', hslot]
    exact iff_of_true ⟨hsame' ▸ hrow.id, hnamed'⟩ fun hnone' => absurd hnone' hnone

/-! ## A session of every day -/

namespace Daily

/-- A request for an attempt of one session. -/
def requestFor (retryName : Option String) : Request where
  project := 1
  workflow := "daily"
  time := .ofSeconds 1700006400
  retryName := retryName
  definition := 1

/-- A project, and attempts under these names. -/
def attempts (names : List (Option String)) : List Operation :=
  .createProject 0 "etl" :: names.map fun name => .submit {} (requestFor name) none

/-- The events and the store after a history. -/
def after (operations : List Operation) : List Event × Store :=
  ((history operations).run { clock := ⟨fun n => .ofSeconds n, 0⟩ }).run

theorem run_history (operations : List Operation) :
    ((history operations).run { clock := ⟨fun n => .ofSeconds n, 0⟩ }).run =
      ((after operations).1, (after operations).2) := rfl

/-- The attempt that a submission was answered with because it exists. -/
def existing? : Except AttemptError AttemptWithSession → Option AttemptWithSession
  | .error (.alreadyExists existing) => some existing
  | _ => none

theorem exists_of_existing? {result : Except AttemptError AttemptWithSession} {id : Int}
    {name : Option String}
    (h : (existing? result).map (fun e => (e.attempt.id, e.attempt.retryName)) = some (id, name)) :
    ∃ existing, result = .error (.alreadyExists existing) ∧ existing.attempt.id = id ∧
      existing.attempt.retryName = name := by
  obtain ⟨existing, hexisting, hpair⟩ := Option.map_eq_some_iff.mp h
  refine ⟨existing, ?_, congrArg Prod.fst hpair, congrArg Prod.snd hpair⟩
  unfold existing? at hexisting
  split at hexisting <;> cases hexisting
  rfl

theorem duplicate_answer_daily :
    ∃ existing, ((submit {} (requestFor none) none).run (after (attempts [none])).2).run.1 =
        .error (.alreadyExists existing) ∧
      (∃ s a, IsRead (after (attempts [none])).2.tables (requestFor none).key s a existing) ∧
      existing.session.key = (requestFor none).key ∧
      ∃ creation, (creations (after (attempts [none])).1).filter
          (fun c => c.key = (requestFor none).key ∧ c.retryName = (requestFor none).retryName) =
            [creation] ∧
        ((existing.attempt.id = creation.attempt ∧
            existing.attempt.retryName = (requestFor none).retryName) ↔
          ((requestFor none).retryName = none →
            ((creations (after (attempts [none])).1).filter
              (·.key = (requestFor none).key)).getLast? = some creation)) := by
  have hanswer : (existing? ((submit {} (requestFor none) none).run
      (after (attempts [none])).2).run.1).map (fun e => (e.attempt.id, e.attempt.retryName)) =
        some (1, none) := by decide +kernel
  obtain ⟨existing, hexisting, -⟩ := exists_of_existing? hanswer
  exact ⟨existing, hexisting, duplicate_answer (run_history _) hexisting⟩

/-- After a retry under a name, the attempt without a name is answered with the retry. -/
theorem not_duplicate_after_retry :
    (creations (after (attempts [none, some "retry1"])).1).filter
        (fun c => c.key = (requestFor none).key ∧ c.retryName = (requestFor none).retryName) =
          [⟨(requestFor none).key, none, 1⟩] ∧
      ∃ existing, ((submit {} (requestFor none) none).run
          (after (attempts [none, some "retry1"])).2).run.1 = .error (.alreadyExists existing) ∧
        existing.attempt.id = 2 ∧ existing.attempt.retryName = some "retry1" := by
  refine ⟨by decide +kernel, exists_of_existing? ?_⟩
  decide +kernel

end Daily

end RetrySafe.Session
