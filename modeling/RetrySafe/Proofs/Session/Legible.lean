import RetrySafe.Proofs.Json.RoundTrip
import RetrySafe.Proofs.Session.Orderly
import RetrySafe.Proofs.Time.Reading

/-!
# Legible rows

What operations write into the rows of a store can be read back, as long as the clock reads years of
four digits. The only exception are the parameters of an attempt: they are written however deep they
are nested, but a row whose parameters are nested too deep cannot be read any more.

## Main definitions

* `Operation.IsProper` — the arguments of an operation are values of their types.
* `AttemptRow.Holds` — the columns of a row hold an attempt.
* `acceptedParams` — the parameters of the attempts that a history created.
* `IsLegible` — the rows can be read, apart from parameters.

## Main results

* `AttemptRow.Holds.attempt_eq` — reading a row is reading its parameters.
* `AttemptRow.Holds.shallow`, `AttemptRow.Holds.deep` — and depends on how deep they are nested.
* `history_legible` — rows are legible after any history.
-/

namespace RetrySafe.Session

open Time (Clock Instant)

/-! ## Arguments -/

/-- Sites are numbers of 32 bits. -/
def IsSite (site : Int) : Prop := -0x80000000 ≤ site ∧ site < 0x80000000

/-- The time of a request is one of the calendar, and its parameters are a value. -/
structure Request.IsProper (request : Request) : Prop where
  time : request.time.InCalendar
  params : (Json.obj request.params).IsProper

/-- The arguments of an operation are values of their types. -/
def Operation.IsProper : Operation → Prop
  | .createProject site _ => IsSite site
  | .submit limits request _ => IsSite limits.site ∧ request.IsProper
  | _ => True

/-! ## Columns -/

/-- A column holds a time, from which what is below a microsecond was cut off. -/
def HoldsTime (text : String) (t : Instant) : Prop :=
  ∃ now : Instant, now.HasPlainYear ∧ text = now.micros ∧ t = now.truncated

section Columns

variable {text : String} {t now : Instant} {site : Int}

theorem holdsTime_micros (h : now.HasPlainYear) : HoldsTime now.micros now.truncated :=
  ⟨now, h, rfl, rfl⟩

theorem holdsTime_truncated (h : now.HasPlainYear) :
    HoldsTime now.truncated.micros now.truncated :=
  ⟨now.truncated, h, rfl, now.truncated_truncated.symm⟩

theorem HoldsTime.column (h : HoldsTime text t) (index : Nat) : timeColumn index text = .ok t := by
  obtain ⟨now, hnow, rfl, rfl⟩ := h
  rw [timeColumn, Instant.readStrict_micros hnow]

theorem optionalTimeColumn_of_rel {text : Option String} {t : Option Instant}
    (h : Option.Rel HoldsTime text t) (index : Nat) : optionalTimeColumn index text = .ok t := by
  cases h with
  | some h =>
    rw [optionalTimeColumn, h.column]
    rfl
  | none => rfl

theorem siteColumn_whole (h : IsSite site) (index : Nat) :
    siteColumn index (.whole site) = .ok site := if_pos h

theorem optionalWhole?_map (n : Option Int) (index : Nat) (column : String) :
    Cell.optionalWhole? (n.map .whole) index column = .ok n := by
  cases n <;> rfl

theorem optionalWhole?_flag (flag : Option Bool) (index : Nat) (column : String) :
    (Cell.optionalWhole? (flag.map flagCell) index column).map
      (fun n => n.map fun n => decide (n ≠ 0)) = .ok flag := by
  cases flag with
  | none => rfl
  | some flag => cases flag <;> rfl

end Columns

/-! ## Rows of attempts -/

/-- The columns of a row hold an attempt. -/
structure AttemptRow.Holds (row : AttemptRow) (attempt : Attempt) : Prop where
  id : row.id = attempt.id
  session : row.session = attempt.session
  site : row.site = .whole attempt.site
  isSite : IsSite attempt.site
  retryName : row.retryName = attempt.retryName
  params : row.params = (Json.obj attempt.params).text
  isProper : (Json.obj attempt.params).IsProper
  timeZone : row.timeZone = attempt.timeZone
  definition : row.definition = .whole attempt.definition
  dependent : row.dependent = attempt.dependent.map .whole
  created : HoldsTime row.created attempt.created
  finished : Option.Rel HoldsTime row.finished attempt.finished
  success : row.success = attempt.success.map flagCell

namespace AttemptRow.Holds

variable {row : AttemptRow} {attempt : Attempt}

/-- Reading a row is reading its parameters. -/
theorem attempt_eq (h : row.Holds attempt) :
    row.attempt = (paramsColumn 10 row.params).map fun params => { attempt with params } := by
  obtain ⟨hid, hsession, hsite, hissite, hname, -, -, hzone, hdefinition, hdependent, hcreated,
    hfinished, hsuccess⟩ := h
  have hflag := optionalWhole?_flag attempt.success 16 "success"
  rw [AttemptRow.attempt, hid, hsession, hsite, hname, hzone, hdefinition, hdependent, hsuccess,
    siteColumn_whole hissite, optionalWhole?_map, hcreated.column, optionalTimeColumn_of_rel hfinished]
  cases paramsColumn 10 row.params with
  | error fault => rfl
  | ok params =>
    cases hread : Cell.optionalWhole? (attempt.success.map flagCell) 16 "success" with
    | error fault =>
      rw [hread] at hflag
      cases hflag
    | ok flag =>
      rw [hread] at hflag
      have hsame : (flag.map fun n => decide (n ≠ 0)) = attempt.success := Except.ok.inj hflag
      simp only [bind, Except.bind, Cell.whole?, Except.map, pure, Except.pure, hsame]

/-- Parameters that are not nested too deep can be read, whole numbers as the same ones. -/
theorem shallow (h : row.Holds attempt) (hdepth : (Json.obj attempt.params).depth ≤ Json.depthLimit) :
    ∃ params, row.attempt = .ok { attempt with params } ∧
      ((Json.obj attempt.params).IsIntegral → params = attempt.params) := by
  obtain ⟨params, hread, hsame⟩ := (Json.readTable_text h.isProper).1 hdepth
  refine ⟨params, ?_, hsame⟩
  rw [h.attempt_eq, h.params, paramsColumn, hread]
  rfl

/-- Parameters that are nested too deep cannot be read. -/
theorem deep (h : row.Holds attempt) (hdepth : Json.depthLimit < (Json.obj attempt.params).depth) :
    row.attempt = .error (.conversion 10 Json.Fault.tooDeep.message) := by
  rw [h.attempt_eq, h.params, paramsColumn, (Json.readTable_text h.isProper).2 hdepth]
  rfl

/-- The row of a new attempt. -/
theorem newRow {id site : Int} {session : Stored} {spec : AttemptSpec} {dependent : Option Int}
    {now : Instant} (hsite : IsSite site) (hparams : (Json.obj spec.params).IsProper)
    (hnow : now.HasPlainYear) :
    (Store.newRow id site session spec dependent now.truncated).Holds
      { id, session := session.id, site, retryName := spec.retryName, params := spec.params
        timeZone := spec.timeZone, definition := spec.definition, dependent
        created := now.truncated } where
  id := rfl
  session := rfl
  site := rfl
  isSite := hsite
  retryName := rfl
  params := rfl
  isProper := hparams
  timeZone := rfl
  definition := rfl
  dependent := rfl
  created := holdsTime_truncated hnow
  finished := .none
  success := rfl

/-- The row of an attempt that was finished. -/
theorem finish (h : row.Holds attempt) {now : Instant} (hnow : now.HasPlainYear) (success : Bool) :
    { row with finished := some now.micros, success := some (flagCell success) }.Holds
      { attempt with finished := some now.truncated, success := some success } :=
  { h with finished := .some (holdsTime_micros hnow), success := rfl }

end AttemptRow.Holds

/-! ## Legible tables -/

/-- The parameters of the attempt that was created, if one was. -/
def Event.params? : Event → Option Members
  | ⟨.submit _ request _, .attempt (.ok _)⟩ => some request.params
  | _ => none

/-- The parameters of the attempts that a history created. -/
def acceptedParams (events : List Event) : List Members := events.filterMap Event.params?

/-- The rows can be read, apart from parameters; those are the ones that were asked for. -/
structure IsLegible (tables : Tables) (events : List Event) : Prop where
  projects : ∀ p ∈ tables.projects, ∃ project, p.project = .ok project
  sessions : ∀ s ∈ tables.sessions, ∃ session, s.stored = .ok session
  attempts : ∀ a ∈ tables.attempts, ∃ attempt, a.Holds attempt ∧
    attempt.params ∈ acceptedParams events

variable {tables tables' : Tables} {events : List Event} {reads : Instant → Prop} {event : Event}

theorem acceptedParams_concat (events : List Event) (event : Event) :
    acceptedParams (events ++ [event]) = acceptedParams events ++ event.params?.toList := by
  cases h : event.params? <;> simp [acceptedParams, h]

/-- A project that was deleted can still be read. -/
theorem project_withDeleted {row : ProjectRow} {project : Project} {text : String} {t : Instant}
    (h : row.project = .ok project) (htext : HoldsTime text t) :
    { row with deleted := some text }.project = .ok { project with deleted := some t } := by
  obtain ⟨site, hsite, h⟩ := bind_ok h
  obtain ⟨created, hcreated, h⟩ := bind_ok h
  obtain ⟨deleted, -, h⟩ := bind_ok h
  cases h
  simp [ProjectRow.project, hsite, hcreated, optionalTimeColumn, htext.column, Except.map, bind,
    Except.bind, pure, Except.pure]

/-- The row of a new session. -/
theorem stored_newSession (id : Int) {key : Key} {now : Instant} (htime : key.time.InCalendar)
    (hnow : now.HasPlainYear) :
    ∃ session, SessionRow.stored
      { id, project := key.project, workflow := key.workflow, time := .whole key.time.seconds
        created := now.micros } = .ok session := by
  have hseconds : secondsColumn 3 (.whole key.time.seconds) = .ok (.ofSeconds key.time.seconds) :=
    if_pos (show (Instant.ofSeconds key.time.seconds).InCalendar from htime)
  simp [SessionRow.stored, hseconds, Cell.optionalWhole?, (holdsTime_micros hnow).column, bind,
    Except.bind, pure, Except.pure]

/-- Nothing is known to fewer events. -/
theorem IsLegible.mono (h : IsLegible tables events) (event : Event) :
    ∀ a ∈ tables.attempts, ∃ attempt, a.Holds attempt ∧
      attempt.params ∈ acceptedParams (events ++ [event]) := by
  intro a ha
  obtain ⟨attempt, hholds, hmem⟩ := h.attempts a ha
  exact ⟨attempt, hholds, acceptedParams_concat events event ▸ List.mem_append_left _ hmem⟩

/-- Every operation. -/
theorem IsLegible.step (h : IsLegible tables events) (hconsistent : tables.IsConsistent)
    (hreads : ∀ now, reads now → now.HasPlainYear) (hproper : event.operation.IsProper)
    (hstep : Step reads tables event tables') : IsLegible tables' (events ++ [event]) := by
  have hkept := h.mono event
  cases hstep with
  | unchanged hnone hfinish => exact ⟨h.projects, h.sessions, hkept⟩
  | @created site id name now reply hnow hid =>
    refine ⟨fun p hp => ?_, h.sessions, hkept⟩
    rcases List.mem_append.mp hp with hp | hp
    · exact h.projects p hp
    · rw [List.mem_singleton.mp hp]
      have hcreated := holdsTime_truncated (hreads now hnow)
      simp [ProjectRow.project, siteColumn_whole hproper, hcreated.column, optionalTimeColumn, bind,
        Except.bind, pure, Except.pure]
  | @deleted id now reply hnow =>
    refine ⟨fun p hp => ?_, h.sessions, hkept⟩
    obtain ⟨q, hq, rfl⟩ := List.mem_map.mp hp
    obtain ⟨project, hproject⟩ := h.projects q hq
    split
    · exact ⟨_, project_withDeleted hproject (holdsTime_micros (hreads now hnow))⟩
    · exact ⟨project, hproject⟩
  | @submitted limits request dependent first second created tables' hfirst hsecond hvalid hinserted =>
    obtain ⟨hcreated, row, hrow⟩ := inserts_of_inserted hconsistent.sound.sessions hinserted
    refine ⟨hrow.projects ▸ h.projects, fun s hs => ?_, fun a ha => ?_⟩
    · rcases hrow.sessions.mem hs with hs' | ⟨hkey, -⟩
      · exact h.sessions s hs'
      -- The session of the attempt is the only one of its key, and it was read.
      · obtain ⟨s', hs', hkey', hstored⟩ := hrow.stored
        rw [row_eq_of_isOf (hconsistent.submit hinserted).sound hs hs' hkey hkey']
        exact ⟨_, hstored⟩
    rw [hrow.attempts] at ha
    rcases List.mem_append.mp ha with ha | ha
    · exact hkept a ha
    · rw [List.mem_singleton.mp ha, hrow.written, hcreated]
      refine ⟨_, .newRow hproper.1 hproper.2.params (hreads second hsecond), ?_⟩
      rw [acceptedParams_concat]
      exact List.mem_append_right _ (List.mem_singleton_self request.params)
  | @finished id success now hnow hopen =>
    refine ⟨h.projects, h.sessions, fun a ha => ?_⟩
    obtain ⟨b, hb, rfl⟩ := List.mem_map.mp ha
    obtain ⟨attempt, hholds, hmem⟩ := hkept b hb
    split
    · exact ⟨_, hholds.finish (hreads now hnow) success, hmem⟩
    · exact ⟨attempt, hholds, hmem⟩
  | closed hclosed hthere => exact ⟨h.projects, h.sessions, hkept⟩

/-- Rows are legible after any history from nothing, dated by a clock that reads plain years. -/
theorem history_legible {operations : List Operation} {clock : Clock} {store : Store}
    {events : List Event} (hclock : ∀ n, (clock.reading n).HasPlainYear)
    (hproper : ∀ operation ∈ operations, operation.IsProper)
    (hrun : ((history operations).run { clock := clock }).run = (events, store)) :
    IsLegible store.tables events := by
  refine (history_invariant (fun tables events => tables.IsConsistent ∧ IsLegible tables events)
    (fun tables tables' past event hmem h hstep => ⟨h.1.step hstep, ?_⟩) ?_ hrun).2
  · refine h.2.step h.1 ?_ (hproper _ hmem) hstep
    rintro now ⟨n, rfl⟩
    exact hclock n
  · exact ⟨Tables.isConsistent_empty, fun _ h => absurd h List.not_mem_nil,
      fun _ h => absurd h List.not_mem_nil, fun _ h => absurd h List.not_mem_nil⟩

namespace Daily

/-- The events and the store after a history that a clock dates which stands still. -/
def atOnce (operations : List Operation) : List Event × Store :=
  ((history operations).run { clock := ⟨fun _ => .ofSeconds 1700006400, 0⟩ }).run

theorem run_atOnce (operations : List Operation) :
    ((history operations).run { clock := ⟨fun _ => .ofSeconds 1700006400, 0⟩ }).run =
      ((atOnce operations).1, (atOnce operations).2) := rfl

theorem hasPlainYear_atOnce (n : Nat) :
    ((⟨fun _ => .ofSeconds 1700006400, 0⟩ : Clock).reading n).HasPlainYear := by
  change (Instant.ofSeconds 1700006400).HasPlainYear
  constructor <;> decide

theorem submit_isProper (name : Option String) {params : Members} (h : (Json.obj params).IsProper) :
    (Operation.submit {} { requestFor name with params } none).IsProper := by
  have htime : (Instant.ofSeconds 1700006400).InCalendar := by decide
  refine ⟨?_, htime, h⟩
  constructor <;> decide

theorem submit_isProper_empty (name : Option String) :
    (Operation.submit {} (requestFor name) none).IsProper :=
  submit_isProper name (.obj List.nodup_nil fun _ h => absurd h List.not_mem_nil)

theorem attempts_isProper (names : List (Option String)) :
    ∀ operation ∈ attempts names, operation.IsProper := by
  intro operation hoperation
  rcases List.mem_cons.mp hoperation with rfl | hoperation
  · constructor <;> decide
  · obtain ⟨name, -, rfl⟩ := List.mem_map.mp hoperation
    exact submit_isProper_empty name

end Daily

end RetrySafe.Session
