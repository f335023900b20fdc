import RetrySafe.Config.Validation
import RetrySafe.Guard.Statement
import RetrySafe.Proofs.Guard.Retention

/-!
# What a cleanup can spoil

A round that has executed its statement cleans up before it says so. No error of the cleanup counts,
but where the retention reaches back beyond the calendar there is no cutoff, and then neither the
cleanup nor the round comes to an end. A retention can do that without being too long to be
accepted: it is checked against the longest duration only, and not against the calendar.

## Main definitions

* `Instant.firstSecond` — where the calendar begins.
* `Config.Guard.Overruns` — a cleanup with some settings reaches back beyond the calendar.
* `GuardedStatement.Executed` — a round executes its statement with success.

## Main results

* `Instant.minus?_eq_none_iff` — where the calendar ends a subtraction.
* `done_unless_overrun` — a round that executed its statement is done, unless its cleanup overruns.
-/

namespace RetrySafe

open Time (Date Duration Instant)

/-! ## The beginning of the calendar -/

namespace Time

/-- The years of the calendar begin with a day. -/
theorem Date.year_ofDays_iff {days : Int} :
    -262143 ≤ (Date.ofDays days).year ↔ -96465292 ≤ days := by
  have hfirst : (Date.ofDays (-96465292)).year = -262143 := by decide
  have hbefore : (Date.ofDays (-96465293)).year = -262144 := by decide
  constructor
  · intro hyear
    refine Int.not_lt.mp fun hlt => ?_
    have hmono := Date.ofDays_year_mono (show days ≤ -96465293 by omega)
    omega
  · intro hdays
    have hmono := Date.ofDays_year_mono hdays
    omega

namespace Instant

/-- The first second of the calendar. -/
def firstSecond : Int := Date.toDays ⟨-262143, 1, 1⟩ * 86400

variable {t now : Instant}

theorem InCalendar.firstSecond_le (h : t.InCalendar) : firstSecond ≤ t.seconds := by
  have hday := Date.year_ofDays_iff.mp h.1
  have hfirst : firstSecond = -8334601228800 := by decide
  omega

/-- What is not later than a time of the calendar leaves it only by its beginning. -/
theorem InCalendar.of_le (hnow : now.InCalendar) (hle : t.seconds ≤ now.seconds) :
    t.InCalendar ↔ firstSecond ≤ t.seconds := by
  refine ⟨InCalendar.firstSecond_le, fun hfirst => ⟨?_, ?_⟩⟩
  · have hvalue : firstSecond = -8334601228800 := by decide
    exact Date.year_ofDays_iff.mpr (by omega)
  · have hmono : t.date.year ≤ now.date.year := Date.ofDays_year_mono (by omega)
    exact Int.le_trans hmono hnow.2

/-- A time of the calendar has no earlier one by some nanoseconds, exactly if that would lie before
the first second. -/
theorem minus?_eq_none_iff (hnow : now.InCalendar) (nanos : Nat) :
    now.minus? nanos = none ↔ now.totalNanos - nanos < firstSecond * 1000000000 := by
  have hfirst := hnow.firstSecond_le
  have hnanos := now.nanos_lt
  unfold minus? totalNanos
  split
  next hleap =>
    -- Inside a leap second the second stays as it is.
    have hstays (n : Nat) (hn : n < 2000000000) (hl : 1000000000 ≤ n → now.seconds % 60 = 59) :
        (⟨now.seconds, n, hn, hl⟩ : Instant).InCalendar := (hnow.of_le (Int.le_refl _)).mpr hfirst
    simp only [hstays, if_true, reduceCtorEq, false_iff]
    omega
  next hleap =>
    have hle : (ofTotalNanos (now.totalNanos - nanos)).seconds ≤ now.seconds := by
      unfold ofTotalNanos totalNanos
      dsimp only
      omega
    have hcalendar := hnow.of_le hle
    unfold ofTotalNanos totalNanos at hcalendar
    simp only [ofTotalNanos, hcalendar, ite_eq_right_iff, reduceCtorEq, imp_false]
    omega

end Instant

end Time

/-! ## Cleanups -/

/-- A cleanup with some settings, of a target with some capabilities, reaches back beyond the
calendar: it is made at all, its retention is not refused, and the time before it is not a date. -/
def Config.Guard.Overruns (settings : Config.Guard) (capabilities : Capabilities) (now : Instant) :
    Prop :=
  settings.strict = true ∧ capabilities.rowLocking = true ∧
    settings.cleanupSecs ≤ 9223372036854775 ∧
      now.totalNanos - settings.cleanupSecs * 1000000000 < Instant.firstSecond * 1000000000

instance (settings : Config.Guard) (capabilities : Capabilities) (now : Instant) :
    Decidable (settings.Overruns capabilities now) := by
  unfold Config.Guard.Overruns; infer_instance

/-- A valid configuration names a status table. -/
theorem Config.exists_table {config : Config} (h : config.validate = .ok ()) :
    ∃ table, StatusTable.of config.guardSettings.statusTable = .ok table := by
  by_cases hplain : Text.IsPlainIdentifier config.guardSettings.statusTable
  · exact ⟨⟨_, hplain⟩, dif_pos hplain⟩
  · -- The last check fails, whatever the earlier ones say.
    simp only [validate, hplain, bind, Except.bind, pure, Except.pure] at h
    split at h <;> try cases h
    split at h <;> try cases h
    split at h <;> cases h

namespace Guard

variable {σ : Type} [MonadWarn (StateM σ)] {target : Target (StateM σ)} {table : StatusTable}
  {retention : Duration} {settings : Config.Guard} {capabilities : Capabilities} {s : σ}

theorem cleanupBestEffort_nonStrict :
    ((cleanupBestEffort nonStrict target).run.run s).run.1 = .ok () :=
  rfl

/-- What a cleanup ends with is warned of at most. -/
theorem cleanupBestEffort_result {guard : Guard} :
    ((cleanupBestEffort guard target).run.run s).run.1 =
      ((guard.cleanup target).run.run s).run.1.map fun _ => () := by
  rw [cleanupBestEffort, ExceptT.run_bind, StateT.run_bind, Id.run_bind]
  match ((guard.cleanup target).run.run s).run with
  | (.error _, _) => rfl
  | (.ok (.ok _), _) => rfl
  | (.ok (.error _), _) => rfl

/-- A cleanup only fails to end where its cutoff leaves the calendar. -/
theorem cleanupBestEffort_strict :
    ((cleanupBestEffort (strict table retention) target).run.run s).run.1 =
      if retention.nanos ≤ longestRetention ∧
        (target.now.run s).run.1.minus? retention.nanos = none then .error {} else .ok () := by
  rw [cleanupBestEffort_result, cleanup]
  by_cases hlong : longestRetention < retention.nanos
  · have hnot : ¬retention.nanos ≤ longestRetention := by omega
    simp [hlong, hnot, Except.map]
  · have hle : retention.nanos ≤ longestRetention := by omega
    simp only [hle, hlong, if_false, true_and]
    rw [ExceptT.run_bind, ExceptT.run_liftM, bind_map_left, StateT.run_bind, Id.run_bind]
    cases hcutoff : (target.now.run s).run.1.minus? retention.nanos with
    | none => simp [hcutoff, Except.map]
    | some cutoff => simp [hcutoff, Except.map]

/-- The guard for some settings is strict where the settings and the target allow it. -/
theorem ofSettings_result (hof : StatusTable.of settings.statusTable = .ok table) :
    ((ofSettings settings capabilities : StateM σ (Except GuardError Guard)).run s).run.1 =
      .ok (if settings.strict = true ∧ capabilities.rowLocking = true then
        strict table (.ofSecs settings.cleanupSecs) else nonStrict) := by
  unfold ofSettings
  cases settings.strict with
  | false => rfl
  | true =>
    cases capabilities.rowLocking with
    | false => rfl
    | true => simp [hof, Except.map]

/-- A cleanup for some settings ends, unless it overruns. -/
theorem cleanupBestEffort_of_settings (settings : Config.Guard) (capabilities : Capabilities)
    (hnow : (target.now.run s).run.1.InCalendar) :
    ((cleanupBestEffort (if settings.strict = true ∧ capabilities.rowLocking = true then
        strict table (.ofSecs settings.cleanupSecs) else nonStrict) target).run.run s).run.1 =
      if settings.Overruns capabilities (target.now.run s).run.1 then .error {} else .ok () := by
  by_cases hstrict : settings.strict = true ∧ capabilities.rowLocking = true
  · have hlong : longestRetention = 9223372036854775807000000 := rfl
    have hnanos : (Duration.ofSecs settings.cleanupSecs).nanos =
        min (settings.cleanupSecs * 1000000000) 18446744073709551615999999999 := rfl
    have hiff : ((Duration.ofSecs settings.cleanupSecs).nanos ≤ longestRetention ∧
        (target.now.run s).run.1.minus? (Duration.ofSecs settings.cleanupSecs).nanos = none) ↔
          settings.Overruns capabilities (target.now.run s).run.1 := by
      rw [Instant.minus?_eq_none_iff hnow]
      simp only [Config.Guard.Overruns, hstrict, true_and]
      omega
    simp only [hstrict, and_self, if_true, cleanupBestEffort_strict, hiff]
  · rw [if_neg hstrict, cleanupBestEffort_nonStrict, if_neg]
    exact fun hoverruns => hstrict ⟨hoverruns.1, hoverruns.2.1⟩

end Guard

/-! ## Rounds -/

namespace GuardedStatement

variable {σ : Type} [MonadWarn (StateM σ)] {task : GuardedStatement (StateM σ)}
  {params state : Members} {s : σ}

/-- A round of a task executes its statement with success. -/
structure Executed (task : GuardedStatement (StateM σ)) (params state : Members) (s : σ) where
  statement : String
  operation : String
  connection : Connection (StateM σ)
  /-- What the connection was opened to. -/
  connected : σ
  execution : Execution
  /-- What the execution left behind. -/
  executed : σ
  params_get? : params.get? Defaults.statementKey = some (.str statement)
  state_read? : state.read? Defaults.operationKey Json.string? = .ok (some operation)
  connect : (task.connector.run s).run = (.ok connection, connected)
  execute : ((task.executeGuarded connection.target statement operation).run connected).run =
    (.ok execution, executed)

namespace Executed

/-- The time when the round cleans up. -/
def now (h : Executed task params state s) : Instant :=
  (h.connection.target.now.run h.executed).run.1

/-- The outcome of a round that has executed its statement. -/
def outcome (h : Executed task params state s) : Task.Outcome :=
  .done (.obj [("applied", .bool (h.execution = .applied)), ("operation_id", .str h.operation)])

theorem executeOn_result (h : Executed task params state s) :
    ((task.executeOn h.connection.target h.statement h.operation).run.run h.connected).run.1 =
      ((task.guard.cleanupBestEffort h.connection.target).run.run h.executed).run.1.map
        fun _ => .ok h.execution := by
  rw [executeOn, ExceptT.run_bind, ExceptT.run_lift, bind_map_left, StateT.run_bind, Id.run_bind,
    h.execute]
  simp only [if_true]
  rw [ExceptT.run_bind, StateT.run_bind, Id.run_bind]
  match ((task.guard.cleanupBestEffort h.connection.target).run.run h.executed).run with
  | (.error _, _) => rfl
  | (.ok (), _) => rfl

theorem execute_result (h : Executed task params state s) :
    ((task.execute h.statement h.operation).run.run s).run.1 =
      ((task.guard.cleanupBestEffort h.connection.target).run.run h.executed).run.1.map
        fun _ => .ok h.execution := by
  rw [← h.executeOn_result, GuardedStatement.execute, ExceptT.run_mk, StateT.run_bind, Id.run_bind,
    h.connect]
  rfl

/-- A round that has executed its statement is done once its cleanup has come to an end. -/
theorem round_result (h : Executed task params state s) (freshId : StateM σ String) :
    ((task.round freshId params state).run.run s).run.1 =
      ((task.guard.cleanupBestEffort h.connection.target).run.run h.executed).run.1.map
        fun _ => (h.outcome, 0) := by
  have hround : task.round freshId params state =
      task.execute h.statement h.operation >>= fun result =>
        pure (task.outcome h.operation state result, 0) := by
    simp only [round, h.params_get?, h.state_read?]
  have hexecute := h.execute_result
  rw [hround, ExceptT.run_bind, StateT.run_bind, Id.run_bind, hexecute]
  cases ((task.guard.cleanupBestEffort h.connection.target).run.run h.executed).run.1 with
  | error error => rfl
  | ok => rfl

end Executed

end GuardedStatement

/-- **Cleanups and applied statements.** A valid configuration gives a guard, for a target with any
capabilities. Whatever a target holds and answers, at a time of the calendar a cleanup under that
guard comes to an end, unless it reaches back beyond the calendar. And so a round that has executed
its statement is done, with whether the statement was applied now and with its operation id, unless
its cleanup reaches back beyond the calendar: then the round has no outcome. -/
theorem done_unless_overrun {σ : Type} [MonadWarn (StateM σ)] {config : Config}
    (hvalid : config.validate = .ok ()) (capabilities : Capabilities) (s₀ : σ) :
    ∃ guard, ((Guard.ofSettings config.guardSettings capabilities :
        StateM σ (Except GuardError Guard)).run s₀).run.1 = .ok guard ∧
      (∀ (target : Target (StateM σ)) (s : σ), (target.now.run s).run.1.InCalendar →
        ((guard.cleanupBestEffort target).run.run s).run.1 =
          if config.guardSettings.Overruns capabilities (target.now.run s).run.1 then .error {}
          else .ok ()) ∧
      ∀ (task : GuardedStatement (StateM σ)) (freshId : StateM σ String) (params state : Members)
        (s : σ) (h : task.Executed params state s), task.guard = guard → h.now.InCalendar →
          ((task.round freshId params state).run.run s).run.1 =
            if config.guardSettings.Overruns capabilities h.now then .error {}
            else .ok (h.outcome, 0) := by
  obtain ⟨table, htable⟩ := Config.exists_table hvalid
  refine ⟨_, Guard.ofSettings_result htable, ?_, ?_⟩
  · intro target s hnow
    exact Guard.cleanupBestEffort_of_settings _ _ hnow
  · intro task freshId params state s h hguard hnow
    rw [h.round_result freshId, hguard, Guard.cleanupBestEffort_of_settings _ _ hnow,
      GuardedStatement.Executed.now]
    split <;> rfl

namespace Counter

/-- A configuration that keeps status rows for longer than the calendar goes back. -/
def patient : Config := { guard := some { cleanupSecs := 10000000000000 } }

/-- Rounds that count, under a guard with some retention. -/
def counting (retention : Duration) : GuardedStatement (WorldM Counter) :=
  ⟨Database.connector script {}, .strict .standard retention,
    .of "interval" (.ofSecs 1) (.ofSecs 1200)⟩

/-- The parameters of a round that counts. -/
def countingParams : Members := [("statement", .str increment)]

/-- The state after the first round. -/
def drawnState : Members := [("operation_id", .str "load")]

/-- What the second round ends with, on the database with its status table. -/
def countingRound (retention : Duration) : Except OutOfCalendar (Task.Outcome × Nat) :=
  (((counting retention).round (pure "load") countingParams drawnState).run.run start).run.1

theorem eq_applied_of_toOption {result : Except GuardError Execution}
    (h : result.toOption = some .applied) : result = .ok .applied := by
  cases result with
  | error error => cases h
  | ok execution => rw [Option.some.inj h]

/-- An execution does not look at the retention. -/
theorem executeGuarded_applied (retention : Duration) :
    (((counting retention).executeGuarded (Database.target script {} 0) increment "load").run
      { start with database.nextConnection := 1 }).run.1 = .ok .applied := by
  have hzero : (((counting .zero).executeGuarded (Database.target script {} 0) increment
      "load").run { start with database.nextConnection := 1 }).run.1.toOption = some .applied := by
    decide +kernel
  exact eq_applied_of_toOption hzero

/-- The second round counts. -/
def countsOnce (retention : Duration) :
    (counting retention).Executed countingParams drawnState start where
  statement := increment
  operation := "load"
  connection := _
  connected := _
  execution := .applied
  executed := _
  params_get? := rfl
  state_read? := rfl
  connect := rfl
  execute := Prod.ext (executeGuarded_applied retention) rfl

/-- The clock was read before, to register the operation and to record its completion. -/
theorem countsOnce_now (retention : Duration) : (countsOnce retention).now = slow 2 := by
  have hzero : (countsOnce .zero).now = slow 2 := by decide +kernel
  exact hzero

theorem countsOnce_inCalendar (retention : Duration) : (countsOnce retention).now.InCalendar := by
  rw [countsOnce_now]
  decide +kernel

/-- The calendar does not go back that far. -/
theorem patient_overruns (retention : Duration) :
    patient.guardSettings.Overruns {} (countsOnce retention).now := by
  rw [countsOnce_now]
  decide +kernel

theorem empty_not_overruns (retention : Duration) :
    ¬Config.empty.guardSettings.Overruns {} (countsOnce retention).now := by
  rw [countsOnce_now]
  decide +kernel

theorem done_unless_overrun_counting :
    countingRound (.ofSecs 86400) = .ok ((countsOnce (.ofSecs 86400)).outcome, 0) ∧
      countingRound (.ofSecs 10000000000000) = .error {} := by
  have hempty : Config.empty.validate = .ok () := rfl
  have hpatient : patient.validate = .ok () := rfl
  constructor
  · obtain ⟨guard, hguard, -, hround⟩ := done_unless_overrun hempty {} start
    obtain rfl : .strict .standard (.ofSecs 86400) = guard := Except.ok.inj hguard
    exact (hround (counting _) _ _ _ _ (countsOnce _) rfl (countsOnce_inCalendar _)).trans
      (if_neg (empty_not_overruns _))
  · obtain ⟨guard, hguard, -, hround⟩ := done_unless_overrun hpatient {} start
    obtain rfl : .strict .standard (.ofSecs 10000000000000) = guard := Except.ok.inj hguard
    exact (hround (counting _) _ _ _ _ (countsOnce _) rfl (countsOnce_inCalendar _)).trans
      (if_pos (patient_overruns _))

/-- An applied statement can be spoiled: the configuration is valid and the statement was applied,
but its cleanup does not come to an end, and so neither does the round. -/
theorem spoiled_after_applied :
    let retention := Duration.ofSecs 10000000000000
    patient.validate = .ok () ∧
      ((Guard.ofSettings patient.guardSettings {} :
        WorldM Counter (Except GuardError Guard)).run start).run.1 =
          .ok (counting retention).guard ∧
      (countsOnce retention).now.InCalendar ∧ (countsOnce retention).execution = .applied ∧
      (((counting retention).guard.cleanupBestEffort
        (countsOnce retention).connection.target).run.run
          (countsOnce retention).executed).run.1 ≠ .ok () ∧
      countingRound retention ≠ .ok ((countsOnce retention).outcome, 0) := by
  intro retention
  have hclean : (((counting retention).guard.cleanupBestEffort
      (countsOnce retention).connection.target).run.run
        (countsOnce retention).executed).run.1 =
      if patient.guardSettings.Overruns {} (countsOnce retention).now then .error {} else .ok () :=
    Guard.cleanupBestEffort_of_settings patient.guardSettings {} (countsOnce_inCalendar retention)
  rw [if_pos (patient_overruns retention)] at hclean
  refine ⟨rfl, rfl, countsOnce_inCalendar retention, rfl, ?_, ?_⟩
  · rw [hclean]
    exact nofun
  · rw [countingRound, (countsOnce retention).round_result, hclean]
    exact nofun

end Counter

end RetrySafe
