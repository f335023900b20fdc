import Mathlib.Data.List.Nodup
import RetrySafe.Proofs.Session.Operation

/-!
# Consistent tables

Beside the rules that the database itself enforces, the rows of a store agree with each other: an
attempt is of the project of its session and of the site of its project, and a session knows the
last one of its attempts. Every operation keeps this.

## Main definitions

* `Tables.IsConsistent` — the rows agree with each other.

## Main results

* `Tables.IsConsistent.step` — every operation keeps tables consistent.
* `history_consistent` — the tables after any history are consistent.
-/

namespace RetrySafe.Session

open Time (Instant)

namespace Tables

/-- The attempts of a session, in the order of their insertion. -/
def attemptsOf (tables : Tables) (session : Int) : List AttemptRow :=
  tables.attempts.filter (·.session = session)

/-- The rows agree with each other. -/
structure IsConsistent (tables : Tables) : Prop where
  sound : tables.IsSound
  project : ∀ a ∈ tables.attempts, ∀ s ∈ tables.sessions, s.id = a.session → s.project = a.project
  site : ∀ a ∈ tables.attempts, ∀ p ∈ tables.projects, p.id = a.project → p.site = a.site
  last : ∀ s ∈ tables.sessions,
    s.lastAttempt = (tables.attemptsOf s.id).getLast?.map fun a => .whole a.id

theorem hasProject_iff {tables : Tables} {id : Int} :
    tables.hasProject id = true ↔ ∃ p ∈ tables.projects, p.id = id := by
  simp [hasProject]

theorem hasSession_iff {tables : Tables} {id : Int} :
    tables.hasSession id = true ↔ ∃ s ∈ tables.sessions, s.id = id := by
  simp [hasSession]

/-- Tables without rows. -/
theorem isConsistent_empty : IsConsistent {} where
  sound := by decide
  project := by simp
  site := by simp
  last := by simp

/-- A row with a new key keeps keys different. -/
theorem nodup_concat {α β : Type} {f : α → β} {l : List α} {a : α} (h : (l.map f).Nodup)
    (hnew : ∀ b ∈ l, f b ≠ f a) : ((l ++ [a]).map f).Nodup := by
  rw [List.map_append, List.map_singleton, ← List.concat_eq_append, List.nodup_concat]
  refine ⟨fun hmem => ?_, h⟩
  obtain ⟨b, hb, hsame⟩ := List.mem_map.mp hmem
  exact hnew b hb hsame

theorem isOf_iff {row : SessionRow} {key : Key} : row.isOf key = true ↔
    row.project = key.project ∧ row.workflow = key.workflow ∧
      row.time = .whole key.time.seconds := by
  simp [SessionRow.isOf, and_assoc]

theorem isOf_of_session? {tables : Tables} {key : Key} {row : SessionRow}
    (h : tables.session? key = some row) : row.isOf key = true :=
  List.find?_some (p := fun s : SessionRow => s.isOf key) h

/-- The session of a row has the row's id, and the key under which it is found. -/
theorem stored_ok {row : SessionRow} {session : Stored} (h : row.stored = .ok session) :
    session.id = row.id ∧ session.key.project = row.project ∧
      session.key.workflow = row.workflow ∧
      ∃ n, row.time = .whole n ∧ session.key.time = .ofSeconds n := by
  obtain ⟨time, htime, h⟩ := bind_ok h
  obtain ⟨last, -, h⟩ := bind_ok h
  obtain ⟨created, -, h⟩ := bind_ok h
  obtain ⟨n, hwhole, htime⟩ := bind_ok htime
  cases h
  refine ⟨rfl, rfl, rfl, n, eq_whole_of_whole? hwhole, ?_⟩
  split at htime
  · cases htime
    rfl
  · cases htime

namespace IsConsistent

variable {tables tables' locked : Tables}

/-- A project with a new id. -/
theorem addProject (h : tables.IsConsistent) {row : ProjectRow} {last : Int}
    (hnew : ∀ p ∈ tables.projects, p.id < row.id) :
    IsConsistent { tables with projects := tables.projects ++ [row], lastProject := last } := by
  -- A project that was there still is.
  have hproject {id : Int} (hid : tables.hasProject id = true) :
      Tables.hasProject { tables with projects := tables.projects ++ [row], lastProject := last }
        id = true := by
    obtain ⟨p, hp, rfl⟩ := hasProject_iff.mp hid
    exact hasProject_iff.mpr ⟨p, List.mem_append_left _ hp, rfl⟩
  refine ⟨⟨?_, h.sound.sessions, h.sound.attempts, h.sound.keys, h.sound.slots, ?_, ?_⟩, h.project,
    ?_, h.last⟩
  · exact nodup_concat h.sound.projects fun p hp => Int.ne_of_lt (hnew p hp)
  · exact fun s hs => hproject (h.sound.ofProject s hs)
  · exact fun a ha => ⟨(h.sound.ofSession a ha).1, hproject (h.sound.ofSession a ha).2⟩
  · intro a ha p hp hid
    rcases List.mem_append.mp hp with hp | hp
    · exact h.site a ha p hp hid
    · obtain ⟨q, hq, hqid⟩ := hasProject_iff.mp (h.sound.ofSession a ha).2
      rw [List.mem_singleton.mp hp] at hid
      have hlt := hnew q hq
      omega

/-- Projects with the same ids and sites. -/
theorem mapProjects (h : tables.IsConsistent) {f : ProjectRow → ProjectRow}
    (hf : ∀ p, (f p).id = p.id ∧ (f p).site = p.site) :
    IsConsistent { tables with projects := tables.projects.map f } := by
  have hproject (id : Int) :
      Tables.hasProject { tables with projects := tables.projects.map f } id =
        tables.hasProject id := by
    simp [Tables.hasProject, List.any_map, Function.comp_def, hf]
  have hids : (tables.projects.map f).map (·.id) = tables.projects.map (·.id) := by
    simp [Function.comp_def, hf]
  refine ⟨⟨?_, h.sound.sessions, h.sound.attempts, h.sound.keys, h.sound.slots, ?_, ?_⟩, h.project,
    ?_, h.last⟩
  · rw [hids]
    exact h.sound.projects
  · intro s hs
    rw [hproject]
    exact h.sound.ofProject s hs
  · intro a ha
    rw [hproject]
    exact h.sound.ofSession a ha
  · intro a ha p hp hid
    obtain ⟨q, hq, rfl⟩ := List.mem_map.mp hp
    rw [(hf q).2]
    exact h.site a ha q hq ((hf q).1 ▸ hid)

/-- Attempts with the same ids, places and names. -/
theorem mapAttempts (h : tables.IsConsistent) {f : AttemptRow → AttemptRow}
    (hf : ∀ a, (f a).id = a.id ∧ (f a).session = a.session ∧ (f a).site = a.site ∧
      (f a).project = a.project ∧ (f a).retryName = a.retryName) :
    IsConsistent { tables with attempts := tables.attempts.map f } := by
  -- The rules speak of these columns only, so each of them carries over.
  have hids : (tables.attempts.map f).map (·.id) = tables.attempts.map (·.id) := by
    simp [Function.comp_def, hf]
  have hslots : (tables.attempts.map f).map (fun a => (a.session, a.retryName.getD "")) =
      tables.attempts.map fun a => (a.session, a.retryName.getD "") := by
    simp [Function.comp_def, hf]
  refine ⟨⟨h.sound.projects, h.sound.sessions, ?_, h.sound.keys, ?_, h.sound.ofProject, ?_⟩, ?_, ?_,
    ?_⟩
  · rw [hids]
    exact h.sound.attempts
  · rw [hslots]
    exact h.sound.slots
  · intro a ha
    obtain ⟨b, hb, rfl⟩ := List.mem_map.mp ha
    rw [(hf b).2.1, (hf b).2.2.2.1]
    exact h.sound.ofSession b hb
  · intro a ha s hs hid
    obtain ⟨b, hb, rfl⟩ := List.mem_map.mp ha
    rw [(hf b).2.2.2.1]
    exact h.project b hb s hs ((hf b).2.1 ▸ hid)
  · intro a ha p hp hid
    obtain ⟨b, hb, rfl⟩ := List.mem_map.mp ha
    rw [(hf b).2.2.1]
    exact h.site b hb p hp ((hf b).2.2.2.1 ▸ hid)
  · intro s hs
    have hlast := h.last s hs
    simpa [attemptsOf, List.filter_map, Function.comp_def, hf] using hlast

/-- A session that was found or added. -/
theorem lock (h : tables.IsConsistent) {key : Key} {created : String}
    (hlock : Store.withSession tables key created = .ok locked) :
    locked.IsConsistent ∧ locked.attempts = tables.attempts ∧
      locked.projects = tables.projects := by
  obtain ⟨id, hid, ⟨-, rfl⟩ | ⟨hnone, hproject, rfl⟩⟩ := withSession_cases hlock
  · exact ⟨⟨⟨h.sound.projects, h.sound.sessions, h.sound.attempts, h.sound.keys, h.sound.slots,
      h.sound.ofProject, h.sound.ofSession⟩, h.project, h.site, h.last⟩, rfl, rfl⟩
  -- Ids are handed out in order, so no attempt is of the new session yet.
  · have hnew : ∀ s ∈ tables.sessions, s.id < id := fun s hs =>
      lt_of_nextId hid s.id (List.mem_map_of_mem hs)
    have hsession : ∀ a ∈ tables.attempts, a.session < id := by
      intro a ha
      obtain ⟨s, hs, hsid⟩ := hasSession_iff.mp (h.sound.ofSession a ha).1
      exact hsid ▸ hnew s hs
    refine ⟨⟨⟨h.sound.projects, ?_, h.sound.attempts, ?_, h.sound.slots, ?_, ?_⟩, ?_, h.site, ?_⟩,
      rfl, rfl⟩
    · exact nodup_concat h.sound.sessions fun s hs => Int.ne_of_lt (hnew s hs)
    · refine nodup_concat h.sound.keys fun s hs hsame => ?_
      have hother := List.find?_eq_none.mp hnone s hs
      simp only [Prod.mk.injEq] at hsame
      exact hother (isOf_iff.mpr hsame)
    · intro s hs
      rcases List.mem_append.mp hs with hs | hs
      · exact h.sound.ofProject s hs
      · rw [List.mem_singleton.mp hs]
        exact hproject
    · intro a ha
      refine ⟨?_, (h.sound.ofSession a ha).2⟩
      obtain ⟨s, hs, hsid⟩ := hasSession_iff.mp (h.sound.ofSession a ha).1
      exact hasSession_iff.mpr ⟨s, List.mem_append_left _ hs, hsid⟩
    · intro a ha s hs hsid
      rcases List.mem_append.mp hs with hs | hs
      · exact h.project a ha s hs hsid
      · rw [List.mem_singleton.mp hs] at hsid
        exact absurd hsid (Int.ne_of_gt (hsession a ha))
    · intro s hs
      rcases List.mem_append.mp hs with hs | hs
      · exact h.last s hs
      · rw [List.mem_singleton.mp hs]
        have hempty : tables.attempts.filter (fun a => a.session = id) = [] := by
          refine List.filter_eq_nil_iff.mpr fun a ha => ?_
          simpa using Int.ne_of_lt (hsession a ha)
        simp [attemptsOf, hempty]

/-- One more attempt of a session, with a new id and a slot of its own. -/
theorem addAttempt (h : tables.IsConsistent) {row : AttemptRow} {session : SessionRow}
    (hsession : session ∈ tables.sessions) (hid : row.session = session.id)
    (hproject : row.project = session.project)
    (hsite : ∃ p ∈ tables.projects, p.id = row.project ∧ p.site = row.site)
    (hnew : ∀ a ∈ tables.attempts, a.id < row.id)
    (hfree : tables.hasAttempt row.session row.retryName = false) :
    (Store.withAttempt tables row).IsConsistent := by
  -- Sessions change only in the last attempt that they know of.
  obtain ⟨f, hf⟩ : ∃ f : SessionRow → SessionRow, f = fun s =>
    if s.id = row.session then { s with lastAttempt := some (.whole row.id) } else s := ⟨_, rfl⟩
  have hsessions : (Store.withAttempt tables row).sessions = tables.sessions.map f := by
    rw [hf]
    rfl
  have hsame (s : SessionRow) : (f s).id = s.id ∧ (f s).project = s.project ∧
      (f s).workflow = s.workflow ∧ (f s).time = s.time := by
    rw [hf]
    dsimp only
    split <;> exact ⟨rfl, rfl, rfl, rfl⟩
  have hhas (id : Int) : (Store.withAttempt tables row).hasSession id = tables.hasSession id := by
    simp [Tables.hasSession, hsessions, List.any_map, Function.comp_def, hsame]
  obtain ⟨p, hp, hpid, hpsite⟩ := hsite
  refine ⟨⟨h.sound.projects, ?_, ?_, ?_, ?_, ?_, ?_⟩, ?_, ?_, ?_⟩
  · rw [hsessions, List.map_map]
    simpa only [Function.comp_def, hsame] using h.sound.sessions
  · exact nodup_concat h.sound.attempts fun a ha => Int.ne_of_lt (hnew a ha)
  · rw [hsessions, List.map_map]
    simpa only [Function.comp_def, hsame] using h.sound.keys
  · refine nodup_concat h.sound.slots fun a ha htaken => ?_
    have hother := List.any_eq_false.mp hfree a ha
    simp only [Prod.mk.injEq] at htaken
    exact hother (by simp [htaken])
  · intro s hs
    rw [hsessions] at hs
    obtain ⟨old, hold, rfl⟩ := List.mem_map.mp hs
    rw [(hsame old).2.1]
    exact h.sound.ofProject old hold
  · intro a ha
    rw [hhas]
    rcases List.mem_append.mp ha with ha | ha
    · exact h.sound.ofSession a ha
    · rw [List.mem_singleton.mp ha, hid]
      exact ⟨hasSession_iff.mpr ⟨session, hsession, rfl⟩, hasProject_iff.mpr ⟨p, hp, hpid⟩⟩
  · intro a ha s hs hsid
    rw [hsessions] at hs
    obtain ⟨old, hold, rfl⟩ := List.mem_map.mp hs
    rw [(hsame old).1] at hsid
    rw [(hsame old).2.1]
    rcases List.mem_append.mp ha with ha | ha
    · exact h.project a ha old hold hsid
    · rw [List.mem_singleton.mp ha] at hsid ⊢
      rw [List.inj_on_of_nodup_map h.sound.sessions hold hsession (hsid.trans hid), hproject]
  · intro a ha q hq hqid
    rcases List.mem_append.mp ha with ha | ha
    · exact h.site a ha q hq hqid
    · rw [List.mem_singleton.mp ha] at hqid ⊢
      rw [List.inj_on_of_nodup_map h.sound.projects hq hp (hqid.trans hpid.symm), hpsite]
  · intro s hs
    rw [hsessions] at hs
    obtain ⟨old, hold, rfl⟩ := List.mem_map.mp hs
    rw [(hsame old).1]
    have hlast := h.last old hold
    -- The session of the new attempt now ends with it; every other one ends as before.
    by_cases hmine : old.id = row.session
    · have hf' : (f old).lastAttempt = some (.whole row.id) := by simp [hf, hmine]
      simp [hf', attemptsOf, Store.withAttempt, List.filter_append, hmine]
    · have hf' : (f old).lastAttempt = old.lastAttempt := by simp [hf, hmine]
      rw [hf', hlast]
      simp [attemptsOf, Store.withAttempt, List.filter_append, Ne.symm hmine]

/-- A submission that creates an attempt. -/
theorem submit (h : tables.IsConsistent) {site : Int} {request : Request} {dependent : Option Int}
    {first second : Instant} {created : AttemptWithSession}
    (hinserted : Store.inserted tables site request dependent first second =
      .ok (created, tables')) : tables'.IsConsistent := by
  obtain ⟨project, locked, row, session, id, ⟨hproject, hpid, hpsite, -⟩, hlock, hrow, hstored, hid,
    hfree, -, rfl⟩ := inserted_ok hinserted
  -- The attempt is of the project of the session, which is live and of the site.
  obtain ⟨hlocked, -, hprojects⟩ := h.lock hlock
  obtain ⟨hsession, hkey, -⟩ := stored_ok hstored
  have hof : row.project = request.project := (isOf_iff.mp (isOf_of_session? hrow)).1
  have hsite : project.id = session.key.project := by rw [hpid, hkey, hof]
  exact hlocked.addAttempt (List.mem_of_find?_eq_some hrow) hsession hkey
    ⟨project, hprojects ▸ hproject, hsite, hpsite⟩
    (fun a ha => lt_of_nextId hid a.id (List.mem_map_of_mem ha)) hfree

/-- Every operation. -/
theorem step (h : tables.IsConsistent) {reads : Instant → Prop} {event : Event}
    (hstep : Step reads tables event tables') : tables'.IsConsistent := by
  cases hstep with
  | unchanged hnone hfinish => exact h
  | created hnow hid => exact h.addProject fun p hp => lt_of_nextId hid p.id (List.mem_map_of_mem hp)
  | deleted hnow =>
    refine h.mapProjects fun p => ?_
    split <;> exact ⟨rfl, rfl⟩
  | submitted hfirst hsecond hvalid hinserted => exact h.submit hinserted
  | finished hnow hopen =>
    refine h.mapAttempts fun a => ?_
    split <;> exact ⟨rfl, rfl, rfl, rfl, rfl⟩
  | closed hclosed hthere => exact h

end IsConsistent

end Tables

/-- The tables after any history are consistent. -/
theorem history_consistent {operations : List Operation} {store store' : Store}
    {events : List Event} (h : store.tables.IsConsistent)
    (hrun : ((history operations).run store).run = (events, store')) :
    store'.tables.IsConsistent :=
  history_invariant (fun tables _ => tables.IsConsistent)
    (fun _ _ _ _ _ htables hstep => htables.step hstep) h hrun

end RetrySafe.Session
