import RetrySafe.Proofs.Session.Findable
import RetrySafe.Proofs.Session.Refinement

/-!
# Storage errors

Validation looks at how long parameters are, not at how deep they are nested, and they are written
however deep that is. An attempt with parameters that are nested too deep cannot be read any more. From
then on the lookups that are for this attempt fail, and so do the submissions that are duplicates of
its request. Nothing else makes a lookup or a submission fail in the store, as long as there are ids
for new rows.

## Main results

* `find_iff` — when a lookup fails in the store, and when it succeeds.
* `submitted_iff` — the same of duplicate submissions.
* `storage_error_iff_deep` — after any history.
-/

namespace RetrySafe.Session

open Time (Clock Instant)

variable {tables tables' : Tables} {events : List Event} {limits : Limits} {request : Request}
  {dependent : Option Int} {first second : Instant} {key : Key} {retryName : Option String}
  {result : Except AttemptError AttemptWithSession}

/-- The error of a lookup that is for an attempt whose parameters are nested too deep. -/
def unreadable : StoreError := .database (.conversion 10 Json.Fault.tooDeep.message)

/-- A lookup is for an attempt whose parameters are nested too deep to be read back. -/
def SeeksDeep (tables : Tables) (site : Int) (key : Key) (retryName : Option String) : Prop :=
  ∃ attempt, Seeks tables site key retryName attempt ∧
    Json.depthLimit < (Json.obj attempt.params).depth

/-- A lookup is for an attempt whose parameters can be read back. -/
def SeeksShallow (tables : Tables) (site : Int) (key : Key) (retryName : Option String) : Prop :=
  ∃ attempt, Seeks tables site key retryName attempt ∧
    (Json.obj attempt.params).depth ≤ Json.depthLimit

section Lookups

variable (hkept : IsKept tables events) (hlegible : IsLegible tables events) {site : Int}

include hkept hlegible

/-- What is sought is answered unless its parameters are nested too deep. -/
theorem attemptIn_ok_iff :
    (∃ found, Store.attemptIn tables site key retryName = .ok found) ↔
      SeeksShallow tables site key retryName := by
  constructor
  · rintro ⟨found, hfound⟩
    obtain ⟨-, hmissing⟩ | ⟨attempt, hseeks, ⟨hshallow, -⟩ | ⟨-, hdeep⟩⟩ :=
      attemptIn_cases hkept hlegible site key retryName
    · cases hmissing.symm.trans hfound
    · exact ⟨attempt, hseeks, hshallow⟩
    · cases hdeep.symm.trans hfound
  · rintro ⟨attempt, hseeks, hshallow⟩
    obtain ⟨found, hfound, -⟩ := hseeks.shallow hkept hlegible hshallow
    exact ⟨found, hfound⟩

theorem attemptIn_unreadable_iff :
    Store.attemptIn tables site key retryName = .error unreadable ↔
      SeeksDeep tables site key retryName := by
  constructor
  · intro hunreadable
    obtain ⟨-, hmissing⟩ | ⟨attempt, hseeks, ⟨-, found, hfound⟩ | ⟨hdeep, -⟩⟩ :=
      attemptIn_cases hkept hlegible site key retryName
    · cases hmissing.symm.trans hunreadable
    · cases hfound.symm.trans hunreadable
    · exact ⟨attempt, hseeks, hdeep⟩
  · rintro ⟨attempt, hseeks, hdeep⟩
    exact hseeks.deep hkept hlegible hdeep

/-- Nothing else than parameters that are nested too deep makes a lookup fail in the store. -/
theorem storage_iff_of_attemptIn {error : StoreError}
    (herror : Store.attemptIn tables site key retryName = .error error) :
    (∃ error', AttemptError.ofStore error = .storage error') ↔
      SeeksDeep tables site key retryName := by
  rw [← attemptIn_unreadable_iff hkept hlegible, herror]
  obtain ⟨-, hmissing⟩ | ⟨-, -, ⟨-, found, hfound⟩ | ⟨-, hdeep⟩⟩ :=
    attemptIn_cases hkept hlegible site key retryName
  · cases hmissing.symm.trans herror
    exact iff_of_false nofun nofun
  · cases hfound.symm.trans herror
  · cases hdeep.symm.trans herror
    exact iff_of_true ⟨unreadable, rfl⟩ rfl

end Lookups

/-- When a lookup fails in the store, and when it succeeds. -/
theorem find_iff {store : Store} (hkept : IsKept store.tables events)
    (hlegible : IsLegible store.tables events) :
    ((∃ error, ((find limits key retryName).run store).run.1 = .error (.storage error)) ↔
        key.time.IsWholeSecond ∧ SeeksDeep store.tables limits.site key retryName) ∧
      ((∃ found, ((find limits key retryName).run store).run.1 = .ok found) ↔
        key.time.IsWholeSecond ∧ SeeksShallow store.tables limits.site key retryName) := by
  by_cases hwhole : key.time.IsWholeSecond
  swap
  · rw [find_fractional hwhole]
    exact ⟨iff_of_false (fun ⟨_, h⟩ => nomatch h) fun h => hwhole h.1,
      iff_of_false (fun ⟨_, h⟩ => nomatch h) fun h => hwhole h.1⟩
  simp only [find_run hwhole, hwhole, true_and]
  rw [← attemptIn_ok_iff hkept hlegible]
  cases hfound : Store.attemptIn store.tables limits.site key retryName with
  | ok found =>
    refine ⟨iff_of_false (fun ⟨_, h⟩ => nomatch h) fun hdeep => ?_,
      iff_of_true ⟨found, rfl⟩ ⟨found, rfl⟩⟩
    cases hfound.symm.trans ((attemptIn_unreadable_iff hkept hlegible).mpr hdeep)
  | error error =>
    refine ⟨?_, iff_of_false (fun ⟨_, h⟩ => nomatch h) fun ⟨_, h⟩ => nomatch h⟩
    rw [← storage_iff_of_attemptIn hkept hlegible hfound]
    exact exists_congr fun error' => ⟨Except.error.inj, congrArg _⟩

/-! ## Duplicate submissions -/

/-- A request that is admitted and finds its slot taken. -/
structure IsDuplicate (tables : Tables) (limits : Limits) (request : Request) : Prop where
  admitted : IsAdmitted tables limits request
  taken : tables.board.held request.slot ≠ none

/-- When a submission fails in the store, and when it is answered with an attempt that exists. -/
theorem submitted_iff (hrecorded : IsRecorded tables events) (hkept : IsKept tables events)
    (hlegible : IsLegible tables events) (htime : request.time.InCalendar)
    (hfirst : first.HasPlainYear)
    (hsubmitted : submitted tables limits request dependent first second = (result, tables'))
    (hfault : result ≠ .error (.storage (.database .full))) :
    ((∃ error, result = .error (.storage error)) ↔ IsDuplicate tables limits request ∧
        SeeksDeep tables limits.site request.key request.retryName) ∧
      ((∃ existing, result = .error (.alreadyExists existing)) ↔
        IsDuplicate tables limits request ∧
          SeeksShallow tables limits.site request.key request.retryName) := by
  -- What is not a duplicate is answered by something else.
  have hother (hresult : ∀ error, result ≠ .error (.storage error))
      (hresult' : ∀ existing, result ≠ .error (.alreadyExists existing))
      (hduplicate : ¬IsDuplicate tables limits request) :
      ((∃ error, result = .error (.storage error)) ↔ IsDuplicate tables limits request ∧
          SeeksDeep tables limits.site request.key request.retryName) ∧
        ((∃ existing, result = .error (.alreadyExists existing)) ↔
          IsDuplicate tables limits request ∧
            SeeksShallow tables limits.site request.key request.retryName) :=
    ⟨iff_of_false (fun ⟨error, h⟩ => hresult error h) fun h => hduplicate h.1,
      iff_of_false (fun ⟨existing, h⟩ => hresult' existing h) fun h => hduplicate h.1⟩
  cases submitted_answers hrecorded hlegible htime hfirst hsubmitted with
  | malformed hinvalid hreason =>
    exact hother (fun _ h => nomatch h) (fun _ h => nomatch h) fun h => hinvalid h.admitted.valid
  | limited hvalid hlimit =>
    exact hother (fun _ h => nomatch h) (fun _ h => nomatch h) fun h => h.admitted.limit hlimit
  | missing hvalid hlimit hlive =>
    exact hother (fun _ h => nomatch h) (fun _ h => nomatch h) fun h =>
      Bool.eq_false_iff.mp hlive h.admitted.live
  | full hadmitted => exact absurd rfl hfault
  | taken hadmitted htaken =>
    have hduplicate : IsDuplicate tables limits request := ⟨hadmitted, htaken⟩
    simp only [hduplicate, true_and]
    rw [← attemptIn_ok_iff hkept hlegible]
    cases hfound : Store.attemptIn tables limits.site request.key request.retryName with
    | ok existing =>
      refine ⟨iff_of_false (fun ⟨_, h⟩ => nomatch h) fun hdeep => ?_,
        iff_of_true ⟨existing, rfl⟩ ⟨existing, rfl⟩⟩
      cases hfound.symm.trans ((attemptIn_unreadable_iff hkept hlegible).mpr hdeep)
    | error error =>
      rw [← storage_iff_of_attemptIn hkept hlegible hfound]
      refine ⟨exists_congr fun error' => ⟨Except.error.inj, congrArg _⟩,
        iff_of_false ?_ fun ⟨_, h⟩ => nomatch h⟩
      rintro ⟨existing, hexisting⟩
      cases error <;> cases hexisting
  | created hadmitted hinserted =>
    refine hother (fun _ h => nomatch h) (fun _ h => nomatch h) fun h => h.taken ?_
    exact (board_of_inserted hrecorded.consistent hadmitted.valid.time hinserted).1

/-- **Storage errors.** After any history, as long as there are ids for new rows, a lookup fails in the
store if and only if it is for an attempt whose parameters are nested too deep, and a submission if
and only if it is a duplicate and what is looked up for it is such an attempt. Every other lookup for
an attempt succeeds, and every other duplicate is answered with an attempt that exists. -/
theorem storage_error_iff_deep {operations : List Operation} {clock : Clock} {store : Store}
    (hclock : ∀ n, (clock.reading n).HasPlainYear)
    (hproper : ∀ operation ∈ operations, operation.IsProper)
    (hrun : ((history operations).run { clock := clock }).run = (events, store)) :
    (∀ (limits : Limits) (key : Key) (retryName : Option String),
        ((∃ error, ((find limits key retryName).run store).run.1 = .error (.storage error)) ↔
            key.time.IsWholeSecond ∧ SeeksDeep store.tables limits.site key retryName) ∧
          ((∃ found, ((find limits key retryName).run store).run.1 = .ok found) ↔
            key.time.IsWholeSecond ∧ SeeksShallow store.tables limits.site key retryName)) ∧
      ∀ (limits : Limits) (request : Request) (dependent : Option Int),
        (Operation.submit limits request dependent).IsProper →
        ((submit limits request dependent).run store).run.1 ≠
          .error (.storage (.database .full)) →
        ((∃ error, ((submit limits request dependent).run store).run.1 =
              .error (.storage error)) ↔
            IsDuplicate store.tables limits request ∧
              SeeksDeep store.tables limits.site request.key request.retryName) ∧
          ((∃ existing, ((submit limits request dependent).run store).run.1 =
              .error (.alreadyExists existing)) ↔
            IsDuplicate store.tables limits request ∧
              SeeksShallow store.tables limits.site request.key request.retryName) := by
  have hkept := history_kept hrun
  have hlegible := history_legible hclock hproper hrun
  have hnow : store.clock.now.HasPlainYear := by
    rw [Clock.now, ← (history_clock hrun).reading]
    exact hclock _
  refine ⟨fun limits key retryName => find_iff hkept hlegible, ?_⟩
  intro limits request dependent hrequest hfault
  have hsubmitted := submitted_of_run
    (show ((submit limits request dependent).run store).run = (_, _) from rfl)
  exact submitted_iff (history_recorded hrun) hkept hlegible hrequest.2.time hnow hsubmitted hfault

namespace Daily

/-- A request whose parameters are nested one level too deep. -/
def deepRequest : Request := { requestFor none with params := [("x", nested 127)] }

/-- A project, the attempt of that request, and a retry. -/
def deepDay : List Operation :=
  attempts [] ++ [.submit {} deepRequest none, .submit {} dayRetry none]

theorem nested_isProper (depth : Nat) : (nested depth).IsProper := by
  induction depth with
  | zero => exact .number ⟨by decide, by decide⟩
  | succ depth ih => exact .arr fun v hv => List.mem_singleton.mp hv ▸ ih

theorem deepRequest_isProper : (Operation.submit {} deepRequest none).IsProper :=
  submit_isProper none <| .obj (List.nodup_singleton _) fun _ hm =>
    List.mem_singleton.mp hm ▸ nested_isProper 127

/-- The first attempt of the day is nested too deep, the retry is not; a duplicate of the retry is
answered with it, and lookups without a name are for the retry as well. -/
theorem storage_error_iff_deep_daily :
    SeeksShallow (atOnce deepDay).2.tables 0 (requestFor none).key (some "retry1") ∧
      SeeksShallow (atOnce deepDay).2.tables 0 (requestFor none).key none ∧
      IsDuplicate (atOnce deepDay).2.tables {} dayRetry := by
  have hproper : ∀ operation ∈ deepDay, operation.IsProper := by
    intro operation hoperation
    rcases List.mem_append.mp hoperation with hoperation | hoperation
    · exact attempts_isProper [] operation hoperation
    rcases List.mem_cons.mp hoperation with rfl | hoperation
    · exact deepRequest_isProper
    · obtain rfl := List.mem_singleton.mp hoperation
      exact submit_isProper (some "retry1") dayParams_isProper
  have hfind : (((find {} (requestFor none).key none).run (atOnce deepDay).2).run.1).toOption.map
      (·.attempt.id) = some 2 := by decide +kernel
  have hduplicate : (existing? ((submit {} dayRetry none).run (atOnce deepDay).2).run.1).map
      (fun e => (e.attempt.id, e.attempt.retryName)) = some (2, some "retry1") := by decide +kernel
  obtain ⟨found, hfound, -⟩ := exists_of_created hfind
  obtain ⟨existing, hexisting, -⟩ := exists_of_existing? hduplicate
  obtain ⟨hlookups, hsubmissions⟩ :=
    storage_error_iff_deep hasPlainYear_atOnce hproper (run_atOnce _)
  have hretry := ((hsubmissions {} dayRetry none (submit_isProper (some "retry1") dayParams_isProper)
    (by rw [hexisting]; exact fun h => nomatch h)).2).mp ⟨existing, hexisting⟩
  exact ⟨hretry.2, ((hlookups {} _ none).2.mp ⟨found, hfound⟩).2, hretry.1⟩

/-- After an attempt whose parameters are nested too deep was accepted, a duplicate of its request and
a lookup fail in the store. -/
theorem storage_error_after_deep_attempt :
    creations (after (attempts [] ++ [.submit {} deepRequest none])).1 =
        [⟨deepRequest.key, none, 1⟩] ∧
      ((submit {} deepRequest none).run
          (after (attempts [] ++ [.submit {} deepRequest none])).2).run.1 =
        .error (.storage unreadable) ∧
      ((find {} deepRequest.key none).run
          (after (attempts [] ++ [.submit {} deepRequest none])).2).run.1 =
        .error (.storage unreadable) := by
  have hrun : creations (after (attempts [] ++ [.submit {} deepRequest none])).1 =
        [⟨deepRequest.key, none, 1⟩] ∧
      storage? ((submit {} deepRequest none).run
          (after (attempts [] ++ [.submit {} deepRequest none])).2).run.1 = some unreadable ∧
      storage? ((find {} deepRequest.key none).run
          (after (attempts [] ++ [.submit {} deepRequest none])).2).run.1 = some unreadable := by
    decide +kernel
  exact ⟨hrun.1, eq_of_storage? hrun.2.1, eq_of_storage? hrun.2.2⟩

end Daily

end RetrySafe.Session
