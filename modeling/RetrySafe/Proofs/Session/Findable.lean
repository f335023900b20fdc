import RetrySafe.Proofs.Session.Lookup

/-!
# Attempts stay findable

Whatever is done after an attempt was created, a lookup by its name answers it with all that was asked
for, and with the flag of the first call that finished it. A lookup without a name answers the attempt
of the session that has the largest id, unless the parameters of that one are nested too deep to be
read back: then it fails, also for the attempts before.

## Main definitions

* `AttemptWithSession.Becomes` — an attempt beside its session later on.
* `IsStoredAs` — the rows of an attempt beside its session.
* `IsLatest` — the attempt of a session that has the largest id.

## Main results

* `IsStoredAs.later` — an attempt is still stored later on.
* `IsStoredAs.attemptIn_name`, `IsStoredAs.attemptIn_latest` — what lookups answer.
* `created_stays_findable` — lookups after an attempt was created.
-/

namespace RetrySafe.Session

open Time (Clock Instant)

/-- An attempt beside its session later on, when there were calls to finish it. -/
structure AttemptWithSession.Becomes (created found : AttemptWithSession)
    (calls : List (Bool × Bool)) : Prop where
  site : found.site = created.site
  session : found.session = { created.session with lastAttempt := found.session.lastAttempt }
  last : ∀ n, created.session.lastAttempt = some n →
    ∃ n', found.session.lastAttempt = some n' ∧ n ≤ n'
  attempt : found.attempt = { created.attempt with
    finished := found.attempt.finished, success := found.attempt.success }
  finished : found.attempt.finished.isSome = found.attempt.success.isSome
  success : found.attempt.success = calls.head?.map Prod.fst

/-- The rows of an attempt beside its session. -/
structure IsStoredAs (tables : Tables) (key : Key) (created : AttemptWithSession) (s : SessionRow)
    (a : AttemptRow) : Prop where
  session : s ∈ tables.sessions
  isOf : s.isOf key = true
  stored : s.stored = .ok created.session
  attempt : a ∈ tables.attempts
  of : a.session = s.id
  site : a.site = .whole created.site
  holds : a.Holds created.attempt

/-- The attempt of a session that has the largest id. -/
structure IsLatest (tables : Tables) (session : Int) (latest : Attempt) : Prop where
  holds : ∃ a ∈ tables.attempts, a.Holds latest
  of : latest.session = session
  greatest : ∀ b ∈ tables.attempts, b.session = session → b.id ≤ latest.id

variable {tables tables' : Tables} {events : List Event} {key : Key} {s s' : SessionRow}
  {a a' : AttemptRow} {created : AttemptWithSession}

/-! ## Rows later on -/

/-- Only the last attempt of a session changes. -/
theorem stored_becomes {session session' : Stored} (hbecomes : s.Becomes s')
    (h : s.stored = .ok session) (h' : s'.stored = .ok session') :
    session' = { session with lastAttempt := session'.lastAttempt } := by
  obtain ⟨last, rfl⟩ : ∃ last, s' = { s with lastAttempt := last } := ⟨_, hbecomes.1⟩
  obtain ⟨time, htime, h⟩ := bind_ok h
  obtain ⟨_, -, h⟩ := bind_ok h
  obtain ⟨created, hcreated, h⟩ := bind_ok h
  obtain ⟨time', htime', h'⟩ := bind_ok h'
  obtain ⟨_, -, h'⟩ := bind_ok h'
  obtain ⟨created', hcreated', h'⟩ := bind_ok h'
  cases h
  cases h'
  obtain rfl := Except.ok.inj (htime.symm.trans htime')
  obtain rfl := Except.ok.inj (hcreated.symm.trans hcreated')
  rfl

theorem lastAttempt_of_stored {session : Stored} (h : s.stored = .ok session) :
    s.lastAttempt = session.lastAttempt.map .whole := by
  obtain ⟨_, -, h⟩ := bind_ok h
  obtain ⟨last, hlast, h⟩ := bind_ok h
  obtain ⟨_, -, h⟩ := bind_ok h
  cases h
  cases hcell : s.lastAttempt with
  | none =>
    rw [hcell] at hlast
    cases hlast
    rfl
  | some cell =>
    rw [hcell] at hlast
    obtain ⟨n, hn, rfl⟩ := map_ok hlast
    rw [eq_whole_of_whole? hn]
    rfl

/-- An attempt changes only by being finished. -/
theorem AttemptRow.Holds.becomes {attempt attempt' : Attempt} (h : a.Holds attempt)
    (hbecomes : a.Becomes a') (h' : a'.Holds attempt') :
    a'.Holds { attempt with finished := attempt'.finished, success := attempt'.success } := by
  obtain ⟨finished, success, rfl⟩ : ∃ finished success, a' = { a with finished, success } :=
    ⟨_, _, hbecomes.1⟩
  exact { h with finished := h'.finished, success := h'.success }

theorem isSome_of_rel {α β : Type} {R : α → β → Prop} {x : Option α} {y : Option β}
    (h : Option.Rel R x y) : x.isSome = y.isSome := by
  cases h <;> rfl

theorem flagCell_inj {flag flag' : Option Bool} (h : flag.map flagCell = flag'.map flagCell) :
    flag = flag' := by
  cases flag with
  | none =>
    cases flag' with
    | none => rfl
    | some flag' => cases h
  | some flag =>
    cases flag' with
    | none => cases h
    | some flag' => revert h; cases flag <;> cases flag' <;> decide

/-- Attempts of one session are of one site. -/
theorem Tables.IsConsistent.site_eq (h : tables.IsConsistent) (hs : s ∈ tables.sessions)
    (ha : a ∈ tables.attempts) (ha' : a' ∈ tables.attempts) (hof : a.session = s.id)
    (hof' : a'.session = s.id) : a'.site = a.site := by
  obtain ⟨p, hp, hid⟩ := hasProject_iff.mp (h.sound.ofSession a ha).2
  have hproject : a.project = a'.project :=
    (h.project a ha s hs hof.symm).symm.trans (h.project a' ha' s hs hof'.symm)
  exact (h.site a' ha' p hp (hid.trans hproject)).symm.trans (h.site a ha p hp hid)

namespace IsStoredAs

/-- An attempt that was just created. -/
theorem of_inserts {site : Int} {request : Request} {dependent : Option Int} {second : Instant}
    (hinserts : Inserts tables site request dependent created a tables')
    (hcreated : created.attempt.created = second.truncated) (hsecond : second.HasPlainYear)
    (hsite : IsSite site) (hparams : (Json.obj request.params).IsProper) :
    ∃ s, IsStoredAs tables' request.key created s a := by
  obtain ⟨s, hs, hkey, hstored⟩ := hinserts.stored
  have hnew : a.Holds { id := created.attempt.id, session := created.session.id, site
                        retryName := request.retryName, params := request.params
                        timeZone := request.timeZone, definition := request.definition, dependent
                        created := second.truncated } := by
    rw [hinserts.written, hcreated]
    exact .newRow hsite hparams hsecond
  have hanswer : created.attempt =
      { id := created.attempt.id, session := created.session.id, site
        retryName := request.retryName, params := request.params, timeZone := request.timeZone
        definition := request.definition, dependent, created := second.truncated } := by
    rw [← hcreated]
    have hid : a.id = created.attempt.id := hnew.id
    rw [← hid]
    exact congrArg AttemptWithSession.attempt hinserts.answer
  have hplace : created.site = site := congrArg AttemptWithSession.site hinserts.answer
  refine ⟨s, hs, hkey, hstored, ?_, ?_, ?_, hanswer ▸ hnew⟩
  · rw [hinserts.attempts]
    exact List.mem_append_right _ (List.mem_singleton_self a)
  · rw [hnew.session]
    exact (Tables.stored_ok hstored).1
  · rw [hnew.site, hplace]

/-- An attempt is still stored later on. -/
theorem later (h : IsStoredAs tables key created s a) (hgrows : tables.Grows tables')
    (hkept : IsKept tables' events) (hlegible : IsLegible tables' events) :
    ∃ found s' a', IsStoredAs tables' key found s' a' ∧
      created.Becomes found (finishes events created.attempt.id) := by
  obtain ⟨s', hs', hsession⟩ := hgrows.sessions.exists_becomes h.session
  obtain ⟨a', ha', hattempt⟩ := hgrows.attempts.exists_becomes h.attempt
  obtain ⟨session, hstored⟩ := hlegible.sessions s' hs'
  obtain ⟨attempt, hholds, -⟩ := hlegible.attempts a' ha'
  have hlater := h.holds.becomes hattempt hholds
  refine ⟨⟨created.site, session, { created.attempt with
      finished := attempt.finished, success := attempt.success }⟩, s', a', ?_, ?_⟩
  · refine ⟨hs', (hsession.isOf key).trans h.isOf, hstored, ha', ?_, ?_, hlater⟩
    · rw [hsession.id, ← h.of, hattempt.1]
    · rw [← h.site, hattempt.1]
  · have hanswered := hkept.answered a' ha'
    have hid : a'.id = created.attempt.id := hlater.id
    rw [hid] at hanswered
    refine ⟨rfl, stored_becomes hsession h.stored hstored, fun n hn => ?_, rfl, ?_, ?_⟩
    · have hlast : s.lastAttempt = some (.whole n) := by
        rw [lastAttempt_of_stored h.stored, hn]
        rfl
      obtain ⟨n', hn', hle⟩ := hsession.2 n hlast
      rw [lastAttempt_of_stored hstored] at hn'
      obtain ⟨n'', hn'', hsame⟩ := Option.map_eq_some_iff.mp hn'
      exact ⟨n'', hn'', Cell.whole.inj hsame ▸ hle⟩
    · have hdone := hanswered.finished_iff
      rw [hholds.success, Option.isSome_map, isSome_of_rel hholds.finished] at hdone
      exact hdone
    · exact flagCell_inj (hholds.success.symm.trans hanswered.success_eq)

/-- A lookup by the name of an attempt. -/
theorem attemptIn_name (h : IsStoredAs tables key created s a) (hsound : tables.IsSound)
    (hdepth : (Json.obj created.attempt.params).depth ≤ Json.depthLimit)
    (hintegral : (Json.obj created.attempt.params).IsIntegral) {name : String}
    (hname : created.attempt.retryName = some name) :
    Store.attemptIn tables created.site key (some name) = .ok created := by
  obtain ⟨params, hread, hsame⟩ := h.holds.shallow hdepth
  rw [attemptIn_some_eq hsound h.session h.isOf h.stored h.attempt h.of h.site
    (h.holds.retryName.trans hname), hread, hsame hintegral]
  rfl

/-- A lookup without a name reads the latest attempt of the session. -/
theorem attemptIn_last (h : IsStoredAs tables key created s a) (hkept : IsKept tables events)
    (hlegible : IsLegible tables events) :
    ∃ b latest, b ∈ tables.attempts ∧ b.Holds latest ∧
      IsLatest tables created.session.id latest ∧
      Store.attemptIn tables created.site key none =
        (Store.orDatabase b.attempt).map fun attempt => ⟨created.site, created.session, attempt⟩ := by
  obtain ⟨b, hlast, -, hgreatest⟩ := hkept.exists_last h.session
  obtain ⟨hb, hof⟩ := List.mem_filter.mp (List.mem_of_getLast? hlast)
  obtain ⟨latest, hholds, -⟩ := hlegible.attempts b hb
  have hid : created.session.id = s.id := (Tables.stored_ok h.stored).1
  have hsite : b.site = .whole created.site :=
    (hkept.consistent.site_eq h.session h.attempt hb h.of (of_decide_eq_true hof)).trans h.site
  refine ⟨b, latest, hb, hholds, ⟨⟨b, hb, hholds⟩, ?_, ?_⟩, ?_⟩
  · rw [← hholds.session, hid]
    exact of_decide_eq_true hof
  · rw [← hholds.id, hid]
    exact hgreatest
  · exact attemptIn_none_eq hkept.consistent h.session h.isOf h.stored hlast hsite

/-- A lookup without a name answers the latest attempt of the session if its parameters are not nested
too deep, and fails otherwise. -/
theorem attemptIn_latest (h : IsStoredAs tables key created s a) (hkept : IsKept tables events)
    (hlegible : IsLegible tables events) :
    ∃ latest, IsLatest tables created.session.id latest ∧
      ((Json.obj latest.params).depth ≤ Json.depthLimit →
        ∃ params, Store.attemptIn tables created.site key none =
            .ok ⟨created.site, created.session, { latest with params }⟩ ∧
          ((Json.obj latest.params).IsIntegral → params = latest.params)) ∧
      (Json.depthLimit < (Json.obj latest.params).depth →
        Store.attemptIn tables created.site key none =
          .error (.database (.conversion 10 Json.Fault.tooDeep.message))) := by
  obtain ⟨b, latest, -, hholds, hlatest, hlookup⟩ := h.attemptIn_last hkept hlegible
  refine ⟨latest, hlatest, fun hdepth => ?_, fun hdeep => ?_⟩
  · obtain ⟨params, hread, hsame⟩ := hholds.shallow hdepth
    refine ⟨params, ?_, hsame⟩
    rw [hlookup, hread]
    rfl
  · rw [hlookup, hholds.deep hdeep]
    rfl

/-- A lookup without a name answers an attempt that no other one came after. -/
theorem attemptIn_newest (h : IsStoredAs tables key created s a) (hkept : IsKept tables events)
    (hlegible : IsLegible tables events)
    (hdepth : (Json.obj created.attempt.params).depth ≤ Json.depthLimit)
    (hintegral : (Json.obj created.attempt.params).IsIntegral)
    (hnewest : ∀ b ∈ tables.attempts, b = a ∨ b.id < a.id) :
    Store.attemptIn tables created.site key none = .ok created := by
  obtain ⟨b, latest, hb, hholds, hlatest, hlookup⟩ := h.attemptIn_last hkept hlegible
  have hmine : b = a := by
    have hle := hlatest.greatest a h.attempt (h.of.trans (Tables.stored_ok h.stored).1.symm)
    rw [← hholds.id] at hle
    exact (hnewest b hb).resolve_right (Int.not_lt.mpr hle)
  obtain ⟨params, hread, hsame⟩ := h.holds.shallow hdepth
  rw [hlookup, hmine, hread, hsame hintegral]
  rfl

end IsStoredAs

/-! ## After any history -/

theorem finishes_append (events events' : List Event) (id : Int) :
    finishes (events ++ events') id = finishes events id ++ finishes events' id :=
  List.filterMap_append

/-- A submission as a history. -/
theorem history_submit {store store' : Store} {limits : Limits} {request : Request}
    {dependent : Option Int} {result : Except AttemptError AttemptWithSession}
    (h : ((submit limits request dependent).run store).run = (result, store')) :
    ((history [.submit limits request dependent]).run store).run =
      ([⟨.submit limits request dependent, .attempt result⟩], store') := by
  have hrun : ((history [.submit limits request dependent]).run store).run =
      ([⟨.submit limits request dependent,
          .attempt ((submit limits request dependent).run store).run.1⟩],
        ((submit limits request dependent).run store).run.2) := rfl
  rw [hrun, h]

/-- What a submission inserted is stored. -/
theorem exists_isStoredAs {store store' : Store} {limits : Limits} {request : Request}
    {dependent : Option Int} (hkeyed : store.tables.IsKeyed)
    (hclock : ∀ n, (store.clock.reading n).HasPlainYear) (hsite : IsSite limits.site)
    (hparams : (Json.obj request.params).IsProper)
    (hsubmit : ((submit limits request dependent).run store).run = (.ok created, store')) :
    request.time.IsWholeSecond ∧ created.attempt.params = request.params ∧
      created.attempt.retryName = request.retryName ∧ created.site = limits.site ∧
      (∀ b ∈ store.tables.attempts, b.id < created.attempt.id) ∧
      ∃ s a, IsStoredAs store'.tables request.key created s a ∧
        store'.tables.attempts = store.tables.attempts ++ [a] := by
  obtain ⟨hvalid, hinserted⟩ := submitted_ok (submitted_of_run hsubmit)
  obtain ⟨hcreated, row, hrow⟩ := inserts_of_inserted hkeyed hinserted
  obtain ⟨s, hstored⟩ := IsStoredAs.of_inserts hrow hcreated (hclock _) hsite hparams
  have hanswer := hrow.answer
  have hid : row.id = created.attempt.id := hstored.holds.id
  refine ⟨(validate_ok hvalid).1, ?_, ?_, ?_, ?_, s, row, hstored, hrow.attempts⟩
  · rw [hanswer]
  · rw [hanswer]
  · rw [hanswer]
  · rw [← hid]
    exact hrow.newest

/-- **Stability.** Let a submission be accepted after any history, with parameters that are not nested
too deep and whose numbers are whole, and let anything be done afterwards. If the attempt has a name,
it is found by that name, as it was created but for being finished and for later attempts of its
session. Without a name it is found at once, and later on the attempt of the session with the largest
id is looked up, which is answered if its parameters are not nested too deep; otherwise the lookup
fails. -/
theorem created_stays_findable {operations later : List Operation} {clock : Clock}
    {store store₁ store₂ : Store} {events₂ : List Event} {limits limits' : Limits}
    {request : Request} {dependent : Option Int} (hclock : ∀ n, (clock.reading n).HasPlainYear)
    (hproper : ∀ operation ∈ operations ++ [.submit limits request dependent] ++ later,
      operation.IsProper)
    (hdepth : (Json.obj request.params).depth ≤ Json.depthLimit)
    (hintegral : (Json.obj request.params).IsIntegral)
    (hrun : ((history operations).run { clock := clock }).run = (events, store))
    (hsubmit : ((submit limits request dependent).run store).run = (.ok created, store₁))
    (hlater : ((history later).run store₁).run = (events₂, store₂))
    (hsite : limits'.site = limits.site) :
    (∀ name, request.retryName = some name →
        ∃ found, ((find limits' request.key (some name)).run store₂).run.1 = .ok found ∧
          created.Becomes found (finishes events₂ created.attempt.id)) ∧
      ((find limits' request.key none).run store₁).run.1 = .ok created ∧
      ∃ latest, IsLatest store₂.tables created.session.id latest ∧
        ((Json.obj latest.params).depth ≤ Json.depthLimit →
          ∃ found, ((find limits' request.key none).run store₂).run.1 = .ok found ∧
            found.session.id = created.session.id ∧
            found.attempt = { latest with params := found.attempt.params } ∧
            ((Json.obj latest.params).IsIntegral → found.attempt = latest)) ∧
        (Json.depthLimit < (Json.obj latest.params).depth →
          ((find limits' request.key none).run store₂).run.1 =
            .error (.storage (.database (.conversion 10 Json.Fault.tooDeep.message)))) := by
  -- Everything that was done is one history, up to the submission and to the end.
  have hrun₁ := history_append hrun (history_submit hsubmit)
  have hrun₂ := history_append hrun₁ hlater
  have hproper₁ : ∀ operation ∈ operations ++ [.submit limits request dependent],
      operation.IsProper := fun operation h => hproper operation (List.mem_append_left _ h)
  have hrequest : (Operation.submit limits request dependent).IsProper :=
    hproper₁ _ (List.mem_append_right _ (List.mem_singleton_self _))
  have hkept := history_kept hrun
  have hkept₁ := history_kept hrun₁
  have hkept₂ := history_kept hrun₂
  have hlegible₁ := history_legible hclock hproper₁ hrun₁
  have hlegible₂ := history_legible hclock hproper hrun₂
  obtain ⟨hwhole, hparams, hname, hplace, hnewest, s, a, hstored, hattempts⟩ :=
    exists_isStoredAs hkept.consistent.sound.sessions
      ((history_clock hrun).reading ▸ hclock) hrequest.1 hrequest.2.params hsubmit
  have hshallow : (Json.obj created.attempt.params).depth ≤ Json.depthLimit := hparams ▸ hdepth
  have hwholes : (Json.obj created.attempt.params).IsIntegral := hparams ▸ hintegral
  have hfind (store : Store) (retryName : Option String) :
      ((find limits' request.key retryName).run store).run.1 =
        (Store.attemptIn store.tables created.site request.key retryName).mapError .ofStore := by
    rw [find_run (show request.key.time.IsWholeSecond from hwhole), hsite, hplace]
  obtain ⟨found, s', a', hfound, hbecomes⟩ :=
    hstored.later (history_grows hkept₁.consistent hlater) hkept₂ hlegible₂
  refine ⟨fun name hsome => ⟨found, ?_, ?_⟩, ?_, ?_⟩
  · have hsame : found.attempt.params = created.attempt.params := by rw [hbecomes.attempt]
    have hnamed : found.attempt.retryName = some name := by
      rw [hbecomes.attempt]
      exact hname.trans hsome
    rw [hfind, ← hbecomes.site, hfound.attemptIn_name hkept₂.consistent.sound (hsame ▸ hshallow)
      (hsame ▸ hwholes) hnamed]
    rfl
  · -- Before it was created no call can have been for the attempt.
    have hnone : finishes events created.attempt.id = [] := by
      by_contra hcalled
      obtain ⟨b, hb, hid⟩ := hkept.there _ hcalled
      exact absurd hid (Int.ne_of_lt (hnewest b hb))
    rw [finishes_append, finishes_append, hnone] at hbecomes
    exact hbecomes
  · -- No attempt has a larger id than the one that was just created.
    have hlast : ∀ b ∈ store₁.tables.attempts, b = a ∨ b.id < a.id := by
      intro b hb
      rw [hattempts] at hb
      rcases List.mem_append.mp hb with hb | hb
      · exact .inr (hstored.holds.id ▸ hnewest b hb)
      · exact .inl (List.mem_singleton.mp hb)
    rw [hfind, hstored.attemptIn_newest hkept₁ hlegible₁ hshallow hwholes hlast]
    rfl
  · obtain ⟨latest, hlatest, hreadable, hunreadable⟩ := hfound.attemptIn_latest hkept₂ hlegible₂
    have hid : found.session.id = created.session.id := by rw [hbecomes.session]
    rw [hbecomes.site] at hreadable hunreadable
    refine ⟨latest, hid ▸ hlatest, fun hdepth => ?_, fun hdeep => ?_⟩
    · obtain ⟨params, hread, hsame⟩ := hreadable hdepth
      refine ⟨⟨created.site, found.session, { latest with params }⟩, ?_, hid, rfl, fun hintegral => ?_⟩
      · rw [hfind, hread]
        rfl
      · rw [hsame hintegral]
    · rw [hfind, hunreadable hdeep]
      rfl

namespace Daily

/-- Parameters of a day: a number and a list. -/
def dayParams : Members := [("day", .int 14), ("steps", .arr [.int (-1), .str "load"])]

theorem dayParams_isProper : (Json.obj dayParams).IsProper := by
  refine .obj (by decide) fun m hm => ?_
  rcases List.mem_cons.mp hm with rfl | hm
  · exact .number ⟨by decide, by decide⟩
  · obtain rfl := List.mem_singleton.mp hm
    refine .arr fun v hv => ?_
    rcases List.mem_cons.mp hv with rfl | hv
    · exact .number ⟨by decide, by decide⟩
    · obtain rfl := List.mem_singleton.mp hv
      exact .str "load"

theorem dayParams_isIntegral : (Json.obj dayParams).IsIntegral := by
  refine .obj fun m hm => ?_
  rcases List.mem_cons.mp hm with rfl | hm
  · exact .int 14
  · obtain rfl := List.mem_singleton.mp hm
    refine .arr fun v hv => ?_
    rcases List.mem_cons.mp hv with rfl | hv
    · exact .int (-1)
    · obtain rfl := List.mem_singleton.mp hv
      exact .str "load"

/-- A retry with parameters of a day. -/
def dayRetry : Request := { requestFor (some "retry1") with params := dayParams }

/-- A retry is found under its name after it was finished and the session was attempted again. -/
theorem created_stays_findable_daily :
    ∃ found, ((find {} (requestFor none).key (some "retry1")).run
        ((history [.finish 1 true, .submit {} (requestFor none) none]).run
          ((submit {} dayRetry none).run
            (atOnce (attempts [])).2).run.2).run.2).run.1 = .ok found ∧
      found.attempt.id = 1 ∧ found.attempt.success = some true := by
  have hcreated : ((submit {} dayRetry none).run
      (atOnce (attempts [])).2).run.1.toOption.map (·.attempt.id) = some 1 := by decide +kernel
  have hcalls : finishes ((history [.finish 1 true, .submit {} (requestFor none) none]).run
      ((submit {} dayRetry none).run
        (atOnce (attempts [])).2).run.2).run.1 1 = [(true, true)] := by decide +kernel
  obtain ⟨created, hsubmit, hid⟩ := exists_of_created hcreated
  have hproper : ∀ operation ∈ attempts [] ++ [.submit {} dayRetry none] ++
      [.finish 1 true, .submit {} (requestFor none) none], operation.IsProper := by
    intro operation hoperation
    rcases List.mem_append.mp hoperation with hoperation | hoperation
    · rcases List.mem_append.mp hoperation with hoperation | hoperation
      · exact attempts_isProper [] operation hoperation
      · obtain rfl := List.mem_singleton.mp hoperation
        exact submit_isProper (some "retry1") dayParams_isProper
    · rcases List.mem_cons.mp hoperation with rfl | hoperation
      · exact trivial
      · obtain rfl := List.mem_singleton.mp hoperation
        exact submit_isProper_empty none
  obtain ⟨found, hfound, hbecomes⟩ := (created_stays_findable hasPlainYear_atOnce hproper
    (by decide) dayParams_isIntegral (run_atOnce _) (Prod.ext hsubmit rfl) (run_eq _ _) rfl).1
      "retry1" rfl
  refine ⟨found, hfound, ?_, ?_⟩
  · rw [hbecomes.attempt]
    exact hid
  · rw [hbecomes.success, hid, hcalls]
    rfl

/-- A number inside of so many lists. -/
def nested : Nat → Json
  | 0 => .int 0
  | depth + 1 => .arr [nested depth]

/-- A project, an attempt, and a retry with parameters that are nested one level too deep. -/
def deepAttempts : List Operation :=
  attempts [none] ++
    [.submit {} { requestFor (some "retry1") with params := [("x", nested 127)] } none]

/-- The error of a store behind an answer. -/
def storage? : Except AttemptError AttemptWithSession → Option StoreError
  | .error (.storage error) => some error
  | _ => none

theorem eq_of_storage? {result : Except AttemptError AttemptWithSession} {error : StoreError}
    (h : storage? result = some error) : result = .error (.storage error) := by
  unfold storage? at h
  split at h <;> cases h
  rfl

/-- After such a retry a lookup without a name fails, although both attempts are stored, and the first
one could be read. -/
theorem not_found_after_deep_retry :
    creations (after deepAttempts).1 =
        [⟨(requestFor none).key, none, 1⟩, ⟨(requestFor none).key, some "retry1", 2⟩] ∧
      ((find {} (requestFor none).key none).run (after deepAttempts).2).run.1 =
        .error (.storage (.database (.conversion 10 "recursion limit exceeded"))) := by
  have hrun : creations (after deepAttempts).1 =
        [⟨(requestFor none).key, none, 1⟩, ⟨(requestFor none).key, some "retry1", 2⟩] ∧
      storage? ((find {} (requestFor none).key none).run (after deepAttempts).2).run.1 =
        some (.database (.conversion 10 "recursion limit exceeded")) := by decide +kernel
  exact ⟨hrun.1, eq_of_storage? hrun.2⟩

end Daily

end RetrySafe.Session
