import RetrySafe.Proofs.Session.Consistency

/-!
# Inserting attempts

A transaction that inserts an attempt adds it to the others, with an id above theirs, and touches one
session: a new one, or the one that is there, of which it changes the last attempt. For this the
sessions have to be told apart by their ids.

## Main definitions

* `Receives` — sessions before and after one of them got an attempt.
* `Inserts` — tables before and after an attempt was inserted, and the answer.

## Main results

* `Tables.IsKeyed.step` — sessions stay told apart.
* `inserts_of_inserted` — what a transaction does that inserts an attempt.
-/

namespace RetrySafe.Session

open Time (Instant)

variable {tables tables' locked : Tables}

/-! ## Sessions are told apart -/

/-- Sessions are told apart by their ids. -/
def Tables.IsKeyed (tables : Tables) : Prop := (tables.sessions.map (·.id)).Nodup

namespace Tables.IsKeyed

theorem withSession (h : tables.IsKeyed) {key : Key} {created : String}
    (hlock : Store.withSession tables key created = .ok locked) : locked.IsKeyed := by
  obtain ⟨id, hid, ⟨-, rfl⟩ | ⟨-, -, rfl⟩⟩ := withSession_cases hlock
  · exact h
  · exact nodup_concat h fun s hs => Int.ne_of_lt (lt_of_nextId hid s.id (List.mem_map_of_mem hs))

theorem withAttempt (h : tables.IsKeyed) (row : AttemptRow) :
    (Store.withAttempt tables row).IsKeyed := by
  -- The sessions get another last attempt at most.
  have hids : (Store.withAttempt tables row).sessions.map (·.id) = tables.sessions.map (·.id) := by
    rw [Store.withAttempt, List.map_map]
    refine List.map_congr_left fun s _ => ?_
    simp only [Function.comp_apply]
    split <;> rfl
  unfold IsKeyed
  rw [hids]
  exact h

theorem step (h : tables.IsKeyed) {reads : Instant → Prop} {event : Event}
    (hstep : Step reads tables event tables') : tables'.IsKeyed := by
  cases hstep with
  | unchanged hnone hfinish => exact h
  | created hnow hid => exact h
  | deleted hnow => exact h
  | submitted hfirst hsecond hvalid hinserted =>
    obtain ⟨-, locked, -, -, -, -, hlock, -, -, -, -, -, rfl⟩ := inserted_ok hinserted
    exact (h.withSession hlock).withAttempt _
  | finished hnow hopen => exact h
  | closed hclosed hthere => exact h

end Tables.IsKeyed

/-! ## Insertions -/

/-- Sessions before and after the one of a key got an attempt: it is added if there is none, and in
either case nothing changes but the attempt that it has as its last one. -/
inductive Receives (key : Key) (row : AttemptRow) : List SessionRow → List SessionRow → Prop
  | found {before after : List SessionRow} {s : SessionRow} (hkey : s.isOf key = true)
      (hid : s.id = row.session) :
      Receives key row (before ++ s :: after)
        (before ++ { s with lastAttempt := some (.whole row.id) } :: after)
  | added {before : List SessionRow} {s : SessionRow} (hnone : ∀ s' ∈ before, s'.isOf key = false)
      (hnew : ∀ s' ∈ before, s'.id < s.id) (hkey : s.isOf key = true) (hid : s.id = row.session)
      (hlast : s.lastAttempt = some (.whole row.id)) : Receives key row before (before ++ [s])

/-- A session that was not there is that of the attempt. -/
theorem Receives.mem {key : Key} {row : AttemptRow} {sessions sessions' : List SessionRow}
    (h : Receives key row sessions sessions') {s : SessionRow} (hs : s ∈ sessions') :
    s ∈ sessions ∨ s.isOf key = true ∧ s.id = row.session := by
  cases h with
  | found hkey hid =>
    rcases List.mem_append.mp hs with hs | hs
    · exact .inl (List.mem_append_left _ hs)
    rcases List.mem_cons.mp hs with rfl | hs
    · exact .inr ⟨hkey, hid⟩
    · exact .inl (List.mem_append_right _ (List.mem_cons_of_mem _ hs))
  | added hnone hnew hkey hid hlast =>
    rcases List.mem_append.mp hs with hs | hs
    · exact .inl hs
    · rw [List.mem_singleton.mp hs]
      exact .inr ⟨hkey, hid⟩

/-- Only the session of the attempt gets another last attempt. -/
theorem sessions_withAttempt {row : AttemptRow} {before after : List SessionRow} {s : SessionRow}
    (h : tables.IsKeyed) (hsessions : tables.sessions = before ++ s :: after)
    (hid : s.id = row.session) :
    (Store.withAttempt tables row).sessions =
      before ++ { s with lastAttempt := some (.whole row.id) } :: after := by
  have hother : ∀ s' ∈ before ++ after, s'.id ≠ row.session := by
    intro s' hs' hsame
    unfold Tables.IsKeyed at h
    rw [hsessions, List.map_append, List.map_cons, List.nodup_middle, ← List.map_append,
      List.nodup_cons] at h
    exact h.1 (List.mem_map.mpr ⟨s', hs', hsame.trans hid.symm⟩)
  have hkept (l : List SessionRow) (hl : ∀ s' ∈ l, s' ∈ before ++ after) :
      l.map (fun s' => if s'.id = row.session then
        { s' with lastAttempt := some (.whole row.id) } else s') = l := by
    refine (List.map_congr_left fun s' hs' => ?_).trans (List.map_id l)
    rw [if_neg (hother s' (hl s' hs')), id]
  rw [Store.withAttempt, hsessions, List.map_append, List.map_cons, if_pos hid,
    hkept before fun _ => List.mem_append_left _, hkept after fun _ => List.mem_append_right _]

/-- Tables before and after an attempt was inserted, its row and the answer. -/
structure Inserts (tables : Tables) (site : Int) (request : Request) (dependent : Option Int)
    (created : AttemptWithSession) (row : AttemptRow) (tables' : Tables) : Prop where
  live : ∃ project, IsLiveProject tables site request.project project
  free : tables.hasAttempt created.session.id request.retryName = false
  newest : ∀ a ∈ tables.attempts, a.id < row.id
  projects : tables'.projects = tables.projects
  attempts : tables'.attempts = tables.attempts ++ [row]
  sessions : Receives request.key row tables.sessions tables'.sessions
  stored : ∃ s ∈ tables'.sessions, s.isOf request.key = true ∧ s.stored = .ok created.session
  written : row = Store.newRow created.attempt.id site created.session request.spec dependent
    created.attempt.created
  answer : created = ⟨site, created.session,
    { id := row.id, session := created.session.id, site, retryName := request.retryName
      params := request.params, timeZone := request.timeZone
      definition := request.definition, dependent, created := created.attempt.created }⟩
  last : created.session.lastAttempt = some row.id
  ofProject : created.session.key.project = request.project

/-- The session of a row after its last attempt was changed. -/
theorem stored_withLast {s : SessionRow} {session : Stored} (h : s.stored = .ok session) (id : Int) :
    { s with lastAttempt := some (.whole id) }.stored =
      .ok { session with lastAttempt := some id } := by
  obtain ⟨time, htime, h⟩ := bind_ok h
  obtain ⟨last, -, h⟩ := bind_ok h
  obtain ⟨created, hcreated, h⟩ := bind_ok h
  cases h
  simp [SessionRow.stored, htime, hcreated, Cell.optionalWhole?, Cell.whole?, Except.map, bind,
    Except.bind, pure, Except.pure]

/-- A transaction that inserts an attempt. -/
theorem inserts_of_inserted (h : tables.IsKeyed) {site : Int} {request : Request}
    {dependent : Option Int} {first second : Instant} {created : AttemptWithSession}
    (hinserted : Store.inserted tables site request dependent first second =
      .ok (created, tables')) :
    created.attempt.created = second.truncated ∧
      ∃ row, Inserts tables site request dependent created row tables' := by
  obtain ⟨project, locked, s, session, id, hlive, hlock, hs, hstored, hid, hfree, rfl, rfl⟩ :=
    inserted_ok hinserted
  have hkeyed := h.withSession hlock
  have hsid : s.id = session.id := (Tables.stored_ok hstored).1.symm
  have hkey := Tables.isOf_of_session? hs
  have hproject : session.key.project = request.project :=
    (Tables.stored_ok hstored).2.1.trans (Tables.isOf_iff.mp hkey).1
  have hsame : locked.attempts = tables.attempts ∧ locked.projects = tables.projects := by
    obtain ⟨_, -, ⟨-, rfl⟩ | ⟨-, -, rfl⟩⟩ := withSession_cases hlock <;> exact ⟨rfl, rfl⟩
  obtain ⟨before, after, hsplit⟩ := List.append_of_mem (List.mem_of_find?_eq_some hs)
  have hsessions : (Store.withAttempt locked (Store.newRow id site session request.spec dependent
      second.truncated)).sessions = before ++ { s with lastAttempt := some (.whole id) } :: after :=
    sessions_withAttempt hkeyed hsplit hsid
  refine ⟨rfl, _, ⟨project, hlive⟩, ?_, ?_, hsame.2, congrArg (· ++ _) hsame.1, ?_,
    ⟨{ s with lastAttempt := some (.whole id) }, ?_, hkey, stored_withLast hstored id⟩, rfl, rfl, rfl,
    hproject⟩
  · unfold Tables.hasAttempt at hfree ⊢
    rw [← hsame.1]
    exact hfree
  · intro a ha
    exact lt_of_nextId hid a.id (List.mem_map_of_mem (hsame.1 ▸ ha))
  rotate_left
  · rw [hsessions]
    exact List.mem_append_right _ List.mem_cons_self
  rw [hsessions]
  obtain ⟨new, hnewid, ⟨-, rfl⟩ | ⟨hnone, -, rfl⟩⟩ := withSession_cases hlock
  · rw [show tables.sessions = before ++ s :: after from hsplit]
    exact .found hkey hsid
  -- The session that was found is the one that was added, because no other one is of the key.
  · have hother : ∀ s' ∈ tables.sessions, s'.isOf request.key = false := fun s' hs' =>
      Bool.eq_false_iff.mpr (List.find?_eq_none.mp hnone s' hs')
    rcases List.mem_append.mp (List.mem_of_find?_eq_some hs) with hmem | hmem
    · rw [hother s hmem] at hkey
      cases hkey
    · obtain rfl := List.mem_singleton.mp hmem
      rw [← hsessions, sessions_withAttempt hkeyed rfl hsid]
      exact .added hother (fun s' hs' => lt_of_nextId hnewid s'.id (List.mem_map_of_mem hs')) hkey
        hsid rfl

end RetrySafe.Session
