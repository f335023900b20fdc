import RetrySafe.Proofs.Task.Job

/-!
# Runs as iterations

A run of a job is an iteration of its rounds: each one is given the state that the one before it was
suspended with, and waits for the delay. Every round but the last one suspends the job, and the run
ends with what the last one decides, or before the next one because it is cancelled or there are no
more rounds to go.

## Main definitions

* `Job.stage` — the iteration, without a store.
* `Ends` — how a run ends.
* `IsCourse` — what a run reports and leaves behind.

## Main results

* `load_stage` — the store has the state of the iteration.
* `Underway.isCourse` — a run goes on as the iteration does.
* `run_isCourse` — a run is the iteration.
-/

namespace RetrySafe.Task

open Time (Duration)
open Runner (cancelledBy)

/-! ## The iteration -/

/-- A round that is to come: when the one before it ended, when this one starts, the state that it is
given, and the store. -/
structure Stage where
  since : Nat
  start : Nat
  state : Members
  shelf : Shelf

namespace Job

/-- A round of some milliseconds is not over in time. -/
def overruns (job : Job) (elapsed : Nat) : Bool := job.roundTimeout.any (·.timer < elapsed)

/-- What comes after a round that takes some milliseconds, if it suspends the job. -/
def advance (job : Job) (shelf : Shelf) (elapsed : Nat) (stage : Stage) : Option Stage :=
  if job.overruns elapsed then none
  else
    match job.decide job.params stage.state with
    | .suspend delay state =>
      some ⟨stage.start + elapsed, stage.start + elapsed + delay.timer, state,
        shelf.save job.key state⟩
    | _ => none

/-- The iteration of the rounds from a first state. -/
def stage (job : Job) (takes : Nat → Nat) (shelf : Shelf) (first : Members) : Nat → Option Stage
  | 0 => some ⟨0, 0, first, shelf⟩
  | k + 1 => (job.stage takes shelf first k).bind (job.advance shelf (takes k))

end Job

/-- How a run ends: its ending, the number of its rounds, the milliseconds it took, and the store. -/
inductive Ends (job : Job) (setting : Setting) (shelf : Shelf) (first : Members) :
    Ending → Nat → Nat → Shelf → Prop
  | completed {k : Nat} {s : Stage} {result : Json}
      (hlast : job.stage setting.takes shelf first k = some s)
      (htime : job.overruns (setting.takes k) = false)
      (hdone : job.decide job.params s.state = .done result) :
      Ends job setting shelf first (.completed result) (k + 1) (s.start + setting.takes k)
        (shelf.clear job.key)
  | failed {k : Nat} {s : Stage} {error : TaskError}
      (hlast : job.stage setting.takes shelf first k = some s)
      (htime : job.overruns (setting.takes k) = false)
      (hfailed : job.decide job.params s.state = .failed error) :
      Ends job setting shelf first (.failed error) (k + 1) (s.start + setting.takes k)
        (shelf.clear job.key)
  | timedOut {k : Nat} {s : Stage} {limit : Duration}
      (hlast : job.stage setting.takes shelf first k = some s)
      (hlimit : job.roundTimeout = some limit) (htime : limit.timer < setting.takes k) :
      Ends job setting shelf first (.failed (.timedOut limit)) (k + 1) (s.start + limit.timer)
        (shelf.clear job.key)
  | cancelled {n : Nat} {s : Stage} {instant : Nat}
      (hnext : job.stage setting.takes shelf first n = some s)
      (hcancel : setting.cancel = some instant) (hbefore : instant ≤ s.start) :
      Ends job setting shelf first .cancelled n (max s.since instant) s.shelf
  | spent {limit : Nat} {s : Stage} (hlimit : job.maxRounds = some limit)
      (hnext : job.stage setting.takes shelf first limit = some s)
      (hcancel : cancelledBy setting.cancel s.start = false) :
      Ends job setting shelf first (.failed (.roundLimit limit)) limit s.start
        (shelf.clear job.key)

/-- The rounds that were begun are the first ones of the iteration, and the run was not cancelled
before any of them. -/
structure IsBegun (job : Job) (setting : Setting) (shelf : Shelf) (first : Members) (rounds : Nat)
    (begun : List Begun) : Prop where
  length : begun.length = rounds
  stage : ∀ k < rounds, ∃ s, job.stage setting.takes shelf first k = some s ∧
    begun[k]? = some ⟨s.start, s.state⟩ ∧ cancelledBy setting.cancel s.start = false

/-- What a run reports and leaves behind. -/
structure IsCourse (job : Job) (setting : Setting) (shelf : Shelf) (first : Members)
    (report : Report) (shelf' : Shelf) : Prop where
  begun : IsBegun job setting shelf first report.rounds report.begun
  within : ∀ limit, job.maxRounds = some limit → report.rounds ≤ limit
  ends : Ends job setting shelf first report.ending report.rounds report.elapsed shelf'

variable {job : Job} {setting : Setting} {takes : Nat → Nat} {shelf : Shelf} {first : Members}
  {k : Nat} {s s' : Stage}

/-! ## Stages -/

theorem stage_succ (h : job.stage takes shelf first k = some s)
    (htime : job.overruns (takes k) = false) {delay : Duration} {state : Members}
    (hsuspend : job.decide job.params s.state = .suspend delay state) :
    job.stage takes shelf first (k + 1) =
      some ⟨s.start + takes k, s.start + takes k + delay.timer, state, shelf.save job.key state⟩ := by
  rw [Job.stage, h, Option.bind_some, Job.advance, htime, hsuspend]
  rfl

/-- A stage that follows another one. -/
theorem of_stage_succ (h : job.stage takes shelf first (k + 1) = some s') :
    ∃ s delay, job.stage takes shelf first k = some s ∧
      job.decide job.params s.state = .suspend delay s'.state ∧
      s'.start = s.start + takes k + delay.timer ∧ s'.shelf = shelf.save job.key s'.state := by
  obtain ⟨s, hs, hadvance⟩ := Option.bind_eq_some_iff.mp h
  unfold Job.advance at hadvance
  split at hadvance
  · cases hadvance
  split at hadvance
  · next delay state hsuspend =>
    cases hadvance
    exact ⟨s, delay, hs, hsuspend, rfl, rfl⟩
  · cases hadvance

/-- The store has changed under the key only. -/
theorem shelf_of_stage (h : job.stage takes shelf first k = some s) :
    s.shelf = shelf ∨ ∃ state, s.shelf = shelf.save job.key state := by
  cases k with
  | zero =>
    cases h
    exact .inl rfl
  | succ k =>
    obtain ⟨-, -, -, -, -, hshelf⟩ := of_stage_succ h
    exact .inr ⟨_, hshelf⟩

theorem clear_stage (h : job.stage takes shelf first k = some s) :
    s.shelf.clear job.key = shelf.clear job.key := by
  obtain hshelf | ⟨state, hshelf⟩ := shelf_of_stage h
  · rw [hshelf]
  · rw [hshelf, Shelf.clear_save]

theorem save_stage (h : job.stage takes shelf first k = some s) (state : Members) :
    s.shelf.save job.key state = shelf.save job.key state := by
  obtain hshelf | ⟨_, hshelf⟩ := shelf_of_stage h
  · rw [hshelf]
  · rw [hshelf, Shelf.save_save]

/-- The store has the state of the iteration. -/
theorem load_stage {stored : Option Members} (hload : shelf.load job.key = .ok stored)
    (hlasting : ∀ state delay next, job.decide job.params state = .suspend delay next →
      IsLasting next)
    (h : job.stage takes shelf (stored.getD []) k = some s) :
    ∃ stored', s.shelf.load job.key = .ok stored' ∧ stored'.getD [] = s.state := by
  cases k with
  | zero =>
    cases h
    exact ⟨stored, hload, rfl⟩
  | succ k =>
    obtain ⟨_, _, -, hsuspend, -, hshelf⟩ := of_stage_succ h
    refine ⟨some s.state, ?_, rfl⟩
    rw [hshelf]
    exact Shelf.load_save (hlasting _ _ _ hsuspend) _ _

/-- A timer does not fire early, unless it would run for more than thirty years. -/
theorem le_timer (delay : Duration) :
    min delay.nanos (Duration.longestTimer * 1000000) ≤ delay.timer * 1000000 := by
  unfold Duration.timer
  omega

/-! ## Rounds that were begun -/

namespace IsBegun

variable {rounds : Nat} {begun : List Begun}

theorem nil : IsBegun job setting shelf first 0 [] where
  length := rfl
  stage := fun _ hk => absurd hk (Nat.not_lt_zero _)

/-- One more round is begun. -/
theorem concat (h : IsBegun job setting shelf first rounds begun)
    (hstage : job.stage setting.takes shelf first rounds = some s)
    (hcancel : cancelledBy setting.cancel s.start = false) :
    IsBegun job setting shelf first (rounds + 1) (begun ++ [⟨s.start, s.state⟩]) where
  length := by simp [h.length]
  stage := by
    intro k hk
    rcases Nat.lt_succ_iff_lt_or_eq.mp hk with hlt | rfl
    · obtain ⟨s', hs', hbegun, hcancel'⟩ := h.stage k hlt
      exact ⟨s', hs', by rw [List.getElem?_append_left (h.length ▸ hlt), hbegun], hcancel'⟩
    · exact ⟨s, hstage, by rw [← h.length, List.getElem?_concat_length], hcancel⟩

end IsBegun

/-! ## Runs -/

theorem inTime_overruns {limit : Duration} (hlimit : job.roundTimeout = some limit) {elapsed : Nat}
    (htime : limit.timer < elapsed) (outcome : Outcome) :
    job.runner.inTime outcome elapsed = (.failed (.timedOut limit), limit.timer) := by
  have htimeout : job.runner.roundTimeout = some limit := hlimit
  rw [Runner.inTime, htimeout]
  exact if_pos htime

theorem inTime_of_not_overruns {elapsed : Nat} (htime : job.overruns elapsed = false)
    (outcome : Outcome) : job.runner.inTime outcome elapsed = (outcome, elapsed) := by
  have htimeout : job.runner.roundTimeout = job.roundTimeout := rfl
  unfold Runner.inTime
  rw [htimeout]
  cases hlimit : job.roundTimeout with
  | none => rfl
  | some limit =>
    refine if_neg fun hover => ?_
    rw [Job.overruns, hlimit, Option.any_some, decide_eq_false_iff_not] at htime
    exact htime hover

theorem overruns_iff {elapsed : Nat} : job.overruns elapsed = true ↔
    ∃ limit, job.roundTimeout = some limit ∧ limit.timer < elapsed := by
  unfold Job.overruns
  cases job.roundTimeout with
  | none => exact iff_of_false Bool.false_ne_true fun ⟨_, hlimit, _⟩ => nomatch hlimit
  | some limit =>
    rw [Option.any_some, decide_eq_true_eq]
    exact ⟨fun hover => ⟨limit, rfl, hover⟩,
      fun ⟨_, hlimit, hover⟩ => Option.some.inj hlimit ▸ hover⟩

theorem cancelledBy_iff {cancel : Option Nat} {now : Nat} :
    cancelledBy cancel now = true ↔ ∃ instant, cancel = some instant ∧ instant ≤ now := by
  cases cancel <;> simp [cancelledBy]

/-- A run that has done some rounds, and has come to the next one. -/
structure Underway (job : Job) (setting : Setting) (shelf : Shelf) (first : Members) (rounds : Nat)
    (s : Stage) (begun : List Begun) (bench : Workbench) : Prop where
  stage : job.stage setting.takes shelf first rounds = some s
  begun : IsBegun job setting shelf first rounds begun
  within : ∀ limit, job.maxRounds = some limit → rounds ≤ limit
  uncancelled : rounds ≠ 0 → cancelledBy setting.cancel s.start = false
  shelf : bench.shelf = s.shelf
  rounds : bench.rounds = rounds

namespace Underway

variable {rounds : Nat} {begun : List Begun} {bench : Workbench} {stored : Option Members}

/-- A round is one of the iteration. -/
theorem round (h : Underway job setting shelf (stored.getD []) rounds s begun bench)
    (hload : shelf.load job.key = .ok stored)
    (hlasting : ∀ state delay next, job.decide job.params state = .suspend delay next →
      IsLasting next)
    (hcancel : cancelledBy setting.cancel s.start = false)
    (hmore : ∀ limit, job.maxRounds = some limit → rounds < limit) (fuel : Nat) :
    (∃ report bench', job.runFrom setting (fuel + 1) rounds s.start begun bench =
        (some report, bench') ∧
          IsCourse job setting shelf (stored.getD []) report bench'.shelf) ∨
      ∃ s' begun' bench', Underway job setting shelf (stored.getD []) (rounds + 1) s' begun' bench' ∧
        job.runFrom setting (fuel + 1) rounds s.start begun bench =
          job.runFrom setting fuel (rounds + 1) s'.start begun' bench' := by
  obtain ⟨stored', hstored, hstate⟩ := load_stage hload hlasting h.stage
  have hround := Job.step_run job setting.takes bench
  rw [h.shelf, hstored, h.rounds] at hround
  dsimp only at hround
  rw [hstate] at hround
  have hbegun := h.begun.concat h.stage hcancel
  cases htime : job.overruns (setting.takes rounds) with
  | true =>
    obtain ⟨limit, hlimit, hover⟩ := overruns_iff.mp htime
    rw [inTime_overruns hlimit hover] at hround
    refine .inl ⟨_, _, Job.runFrom_step fuel begun hcancel hmore hround, hbegun, hmore, ?_⟩
    change Ends _ _ _ _ _ _ _ (s.shelf.clear job.key)
    rw [clear_stage h.stage]
    exact .timedOut h.stage hlimit hover
  | false =>
    rw [inTime_of_not_overruns htime] at hround
    cases houtcome : job.decide job.params s.state with
    | done result =>
      rw [houtcome] at hround
      refine .inl ⟨_, _, Job.runFrom_step fuel begun hcancel hmore hround, hbegun, hmore, ?_⟩
      change Ends _ _ _ _ _ _ _ (s.shelf.clear job.key)
      rw [clear_stage h.stage]
      exact .completed h.stage htime houtcome
    | failed error =>
      rw [houtcome] at hround
      refine .inl ⟨_, _, Job.runFrom_step fuel begun hcancel hmore hround, hbegun, hmore, ?_⟩
      change Ends _ _ _ _ _ _ _ (s.shelf.clear job.key)
      rw [clear_stage h.stage]
      exact .failed h.stage htime houtcome
    | suspend delay state =>
      rw [houtcome] at hround
      have hrun := Job.runFrom_step fuel begun hcancel hmore hround
      have hnext := stage_succ h.stage htime houtcome
      have hshelf : s.shelf.after job.key (.suspend delay state) = shelf.save job.key state :=
        save_stage h.stage state
      by_cases hlater : cancelledBy setting.cancel
          (s.start + setting.takes rounds + delay.timer) = true
      · refine .inl ⟨_, _, hrun.trans (if_pos hlater), hbegun, hmore, ?_⟩
        obtain ⟨instant, hinstant, hbefore⟩ := cancelledBy_iff.mp hlater
        dsimp only
        rw [hshelf, hinstant]
        exact .cancelled hnext hinstant hbefore
      · refine .inr ⟨_, _, _, ⟨hnext, hbegun, hmore, fun _ => Bool.eq_false_iff.mpr hlater, hshelf, ?_⟩,
          hrun.trans (if_neg hlater)⟩
        rfl

/-- **Step.** A run that has come to the next round ends before it, or the round is one of the
iteration. -/
theorem step (h : Underway job setting shelf (stored.getD []) rounds s begun bench)
    (hload : shelf.load job.key = .ok stored)
    (hlasting : ∀ state delay next, job.decide job.params state = .suspend delay next →
      IsLasting next) (fuel : Nat) :
    (∃ report bench', job.runFrom setting (fuel + 1) rounds s.start begun bench =
        (some report, bench') ∧
          IsCourse job setting shelf (stored.getD []) report bench'.shelf) ∨
      cancelledBy setting.cancel s.start = false ∧
        (∀ limit, job.maxRounds = some limit → rounds < limit) ∧
          ∃ s' begun' bench',
            Underway job setting shelf (stored.getD []) (rounds + 1) s' begun' bench' ∧
              job.runFrom setting (fuel + 1) rounds s.start begun bench =
                job.runFrom setting fuel (rounds + 1) s'.start begun' bench' := by
  by_cases hcancel : cancelledBy setting.cancel s.start = true
  · -- A wait that is cancelled ends the run, so nothing has been done yet.
    have hzero : rounds = 0 := by
      by_contra hne
      exact Bool.eq_false_iff.mp (h.uncancelled hne) hcancel
    subst hzero
    obtain ⟨instant, hinstant, hbefore⟩ := cancelledBy_iff.mp hcancel
    refine .inl ⟨_, _, Job.runFrom_cancelled hcancel, h.begun, h.within, ?_⟩
    have hends : Ends job setting shelf (stored.getD []) .cancelled 0 (max s.since instant) s.shelf :=
      .cancelled h.stage hinstant hbefore
    cases h.stage
    obtain rfl := Nat.le_zero.mp hbefore
    rw [h.shelf]
    exact hends
  have hcancel' := Bool.eq_false_iff.mpr hcancel
  by_cases hspent : ∃ limit, job.maxRounds = some limit ∧ limit ≤ rounds
  · obtain ⟨limit, hlimit, hle⟩ := hspent
    obtain rfl := Nat.le_antisymm hle (h.within limit hlimit)
    refine .inl ⟨_, _, Job.runFrom_spent hcancel' hlimit hle, h.begun, h.within, ?_⟩
    dsimp only
    rw [h.shelf, clear_stage h.stage]
    exact .spent hlimit h.stage hcancel'
  have hmore : ∀ limit, job.maxRounds = some limit → rounds < limit := fun limit hlimit =>
    Nat.lt_of_not_le fun hle => hspent ⟨limit, hlimit, hle⟩
  exact (h.round hload hlasting hcancel' hmore fuel).imp_right fun hnext => ⟨hcancel', hmore, hnext⟩

/-- A run goes on as the iteration does, if that is over before the fuel is. -/
theorem isCourse (h : Underway job setting shelf (stored.getD []) rounds s begun bench)
    (hload : shelf.load job.key = .ok stored)
    (hlasting : ∀ state delay next, job.decide job.params state = .suspend delay next →
      IsLasting next) {n fuel : Nat}
    (hover : ∀ s, job.stage setting.takes shelf (stored.getD []) n = some s →
      cancelledBy setting.cancel s.start = true ∨ ∃ limit ≤ n, job.maxRounds = some limit)
    (hrounds : rounds ≤ n) (hfuel : n < rounds + fuel) :
    ∃ report bench', job.runFrom setting fuel rounds s.start begun bench = (some report, bench') ∧
      IsCourse job setting shelf (stored.getD []) report bench'.shelf := by
  induction fuel generalizing rounds s begun bench with
  | zero => omega
  | succ fuel ih =>
    obtain hended | ⟨hcancel, hmore, s', begun', bench', hnext, hrun⟩ := h.step hload hlasting fuel
    · exact hended
    have hne : rounds ≠ n := by
      rintro rfl
      obtain hcancelled | ⟨limit, hle, hlimit⟩ := hover s h.stage
      · rw [hcancel] at hcancelled
        cases hcancelled
      · exact absurd (hmore limit hlimit) (Nat.not_lt.mpr hle)
    rw [hrun]
    exact ih hnext (by omega) (by omega)

end Underway

namespace IsBegun

variable {rounds : Nat} {begun : List Begun} {b b' : Begun}

/-- The first round starts at once, from the first state. -/
theorem first_eq (h : IsBegun job setting shelf first rounds begun) (hb : begun[0]? = some b) :
    b = ⟨0, first⟩ := by
  have hlt : 0 < rounds := h.length ▸ (List.getElem?_eq_some_iff.mp hb).1
  obtain ⟨s, hs, hbegun, -⟩ := h.stage 0 hlt
  cases hs
  exact Option.some.inj (hb.symm.trans hbegun)

/-- The next round gets the state that a round was suspended with, and not before its delay is over. -/
theorem waits (h : IsBegun job setting shelf first rounds begun) (hb : begun[k]? = some b)
    (hb' : begun[k + 1]? = some b') :
    ∃ delay, job.decide job.params b.state = .suspend delay b'.state ∧
      (b.start + setting.takes k) * 1000000 + min delay.nanos (Duration.longestTimer * 1000000) ≤
        b'.start * 1000000 := by
  have hlt : k + 1 < rounds := h.length ▸ (List.getElem?_eq_some_iff.mp hb').1
  obtain ⟨s, hs, hbegun, -⟩ := h.stage k (Nat.lt_of_succ_lt hlt)
  obtain ⟨s', hs', hbegun', -⟩ := h.stage (k + 1) hlt
  obtain rfl := Option.some.inj (hb.symm.trans hbegun)
  obtain rfl := Option.some.inj (hb'.symm.trans hbegun')
  obtain ⟨t, delay, ht, hsuspend, hstart, -⟩ := of_stage_succ hs'
  obtain rfl := Option.some.inj (hs.symm.trans ht)
  refine ⟨delay, hsuspend, ?_⟩
  calc (s.start + setting.takes k) * 1000000 +
        min delay.nanos (Duration.longestTimer * 1000000)
      ≤ (s.start + setting.takes k) * 1000000 + delay.timer * 1000000 :=
        Nat.add_le_add_left (le_timer delay) _
    _ = s'.start * 1000000 := by rw [hstart, ← Nat.add_mul]

end IsBegun

/-- **Iteration.** Let the store have a state under the key that can be read, or none, and let the job
suspend with lasting states only. Without a limit on rounds, let the iteration be over or cancelled
before the rounds can no longer be counted. Then a run reports the rounds of the iteration: the first
one starts from that state, or from the empty one, and every other one from the state that the round
before it was suspended with, after its delay, or after thirty years. It ends with what the last round
decides, or because that was not over in time, or because the job was cancelled or had all its rounds
before the next one. The state is kept only if it was cancelled. -/
theorem run_isCourse {stored : Option Members} (hload : shelf.load job.key = .ok stored)
    (hlasting : ∀ state delay next, job.decide job.params state = .suspend delay next →
      IsLasting next)
    (hlimit : ∀ limit, job.maxRounds = some limit → limit < 0x100000000)
    (hover : job.maxRounds = none → ∃ n < 0x100000000, ∀ s,
      job.stage setting.takes shelf (stored.getD []) n = some s →
        cancelledBy setting.cancel s.start = true) :
    ∃ report shelf', job.run setting shelf = (some report, shelf') ∧
      IsCourse job setting shelf (stored.getD []) report shelf' ∧
      (∀ b, report.begun[0]? = some b → b = ⟨0, stored.getD []⟩) ∧
      ∀ k b b', report.begun[k]? = some b → report.begun[k + 1]? = some b' →
        ∃ delay, job.decide job.params b.state = .suspend delay b'.state ∧
          (b.start + setting.takes k) * 1000000 +
              min delay.nanos (Duration.longestTimer * 1000000) ≤ b'.start * 1000000 := by
  have hstart : Underway job setting shelf (stored.getD []) 0 ⟨0, 0, stored.getD [], shelf⟩ []
      { shelf := shelf } :=
    ⟨rfl, .nil, fun _ _ => Nat.zero_le _, fun h => absurd rfl h, rfl, rfl⟩
  have hhalts : ∃ n < 0x100000000, ∀ s,
      job.stage setting.takes shelf (stored.getD []) n = some s →
        cancelledBy setting.cancel s.start = true ∨ ∃ limit ≤ n, job.maxRounds = some limit := by
    cases hmax : job.maxRounds with
    | none =>
      obtain ⟨n, hn, hcancelled⟩ := hover hmax
      exact ⟨n, hn, fun s hs => .inl (hcancelled s hs)⟩
    | some limit => exact ⟨limit, hlimit limit hmax, fun _ _ => .inr ⟨limit, Nat.le_refl _, rfl⟩⟩
  obtain ⟨n, hn, hhalts⟩ := hhalts
  obtain ⟨report, bench', hrun, hcourse⟩ :=
    hstart.isCourse hload hlasting hhalts (Nat.zero_le n) (by rwa [Nat.zero_add])
  refine ⟨report, bench'.shelf, ?_, hcourse, fun _ => hcourse.begun.first_eq, fun _ _ _ =>
    hcourse.begun.waits⟩
  rw [Job.run_eq, hrun]

namespace Patience

/-- A job that is suspended once, and is done then. -/
def waiting (delay : Duration) : Job where
  key := "wait"
  params := []
  decide _ state := if state.isEmpty then .suspend delay [("a", .int 1)] else .done (.int 1)

theorem isLasting_waited : IsLasting [("a", .int 1)] where
  proper := .obj (List.nodup_singleton _) fun _ hm => List.mem_singleton.mp hm ▸
    .number ⟨by decide, by decide⟩
  depth := by decide
  integral := .obj fun _ hm => List.mem_singleton.mp hm ▸ .int 1

theorem waiting_isLasting (delay : Duration) (state : Members) (delay' : Duration) (next : Members)
    (h : (waiting delay).decide (waiting delay).params state = .suspend delay' next) :
    IsLasting next := by
  unfold waiting at h
  dsimp only at h
  split at h <;> cases h
  exact isLasting_waited

/-- A run that is cancelled after a second. -/
def impatient : Setting := ⟨fun _ => 10, some 1000⟩

/-- A run that is cancelled while it waits has done one round, and the store keeps the state. -/
theorem run_isCourse_waiting :
    ∃ report shelf', (waiting (.ofSecs 60)).run impatient {} = (some report, shelf') ∧
      IsCourse (waiting (.ofSecs 60)) impatient {} [] report shelf' := by
  have hload : Shelf.load {} (waiting (.ofSecs 60)).key = .ok none := rfl
  have hover : (waiting (.ofSecs 60)).maxRounds = none → ∃ n < 0x100000000, ∀ s,
      (waiting (.ofSecs 60)).stage impatient.takes {} [] n = some s →
        cancelledBy impatient.cancel s.start = true := by
    refine fun _ => ⟨1, by decide, fun s hs => ?_⟩
    have hstart : ((waiting (.ofSecs 60)).stage impatient.takes {} [] 1).map (·.start) =
        some 60010 := by decide +kernel
    rw [hs, Option.map_some, Option.some.injEq] at hstart
    rw [hstart]
    decide
  obtain ⟨report, shelf', hrun, hcourse, -⟩ :=
    run_isCourse hload (waiting_isLasting _) (fun _ h => nomatch h) hover
  exact ⟨report, shelf', hrun, hcourse⟩

/-- A delay of a millisecond more than thirty years. -/
def tooLong : Duration := .ofNanos 946080000001000000

/-- The round after a delay of more than thirty years starts before the delay is over. -/
theorem starts_before_delay :
    ((waiting tooLong).run ⟨fun _ => 0, none⟩ {}).1.map
        (fun report => report.begun.map fun b => (b.start, b.state.isEmpty)) =
      some [(0, true), (946080000000, false)] ∧
    (waiting tooLong).decide [] [] = .suspend tooLong [("a", .int 1)] ∧
      946080000000 * 1000000 < tooLong.nanos := by
  refine ⟨?_, rfl, ?_⟩ <;> decide +kernel

end Patience

end RetrySafe.Task
