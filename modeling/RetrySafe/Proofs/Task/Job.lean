import RetrySafe.Proofs.Json.RoundTrip
import RetrySafe.Proofs.Task.Runs

/-!
# Jobs

A job is a task that decides by its parameters and its state alone, under a key of the store in
memory. How long its rounds take and when it is cancelled is up to the run. Before each round a run may
be cancelled, or have had all its rounds; otherwise it does a round, and there is one equation for each
of these.

## Main definitions

* `Workbench` — what a run works on.
* `Job`, `Setting` — a task, and what a run of it meets.
* `Job.runFrom`, `Job.run` — a run, from a number of rounds on and as a whole.
* `IsLasting` — a state that is read back as it was saved.

## Main results

* `load_save` — what was saved is loaded.
* `step_run` — a round is loading, deciding and keeping.
* `runFrom_cancelled`, `runFrom_spent`, `runFrom_step` — how a run goes on.
-/

namespace RetrySafe.Task

/-! ## The store in memory -/

/-- A state that is read back as it was saved: a value that is not nested too deep, and whose numbers
are whole. -/
structure IsLasting (state : Members) : Prop where
  proper : (Json.obj state).IsProper
  depth : (Json.obj state).depth ≤ Json.depthLimit
  integral : (Json.obj state).IsIntegral

namespace Shelf

variable {shelf : Shelf} {key : String} {state state' : Members}

theorem load_save (h : IsLasting state) (shelf : Shelf) (key : String) :
    (shelf.save key state).load key = .ok (some state) := by
  obtain ⟨ws, hread, hsame⟩ := (Json.readTable_text h.proper).1 h.depth
  simp [load, save, hread, hsame h.integral]

theorem clear_save (shelf : Shelf) (key : String) (state : Members) :
    (shelf.save key state).clear key = shelf.clear key := by
  simp [clear, save]

theorem save_save (shelf : Shelf) (key : String) (state state' : Members) :
    (shelf.save key state).save key state' = shelf.save key state' := by
  rw [save, clear_save, save]

/-- The store after a round. -/
def after (shelf : Shelf) (key : String) : Outcome → Shelf
  | .suspend _ state => shelf.save key state
  | _ => shelf.clear key

end Shelf

/-! ## Jobs -/

/-- What a run works on: the store, the warnings, and the number of rounds that the task did. -/
structure Workbench where
  shelf : Shelf
  journal : Journal := {}
  rounds : Nat := 0

namespace Workbench

instance : MonadStateOf Shelf (StateM Workbench) where
  get := fun bench => (bench.shelf, bench)
  set shelf := fun bench => ((), { bench with shelf })
  modifyGet f := fun bench => ((f bench.shelf).1, { bench with shelf := (f bench.shelf).2 })

instance : MonadWarn (StateM Workbench) where
  warn message := fun bench => ((), { bench with journal := ⟨message :: bench.journal.entries⟩ })

/-- With one more warning. -/
def warned (bench : Workbench) (message : String) : Workbench :=
  { bench with journal := ⟨message :: bench.journal.entries⟩ }

end Workbench

/-- A task that decides by its parameters and its state, its key, and the limits of its runner. -/
structure Job where
  key : String
  params : Members
  decide : Members → Members → Outcome
  roundTimeout : Option Time.Duration := none
  maxRounds : Option Nat := none

/-- What a run meets: how many milliseconds each of its rounds takes, and when it is cancelled. -/
structure Setting where
  takes : Nat → Nat
  cancel : Option Nat := none

namespace Job

/-- The task of a job, whose rounds take some milliseconds each. -/
def task (job : Job) (takes : Nat → Nat) : Task (StateM Workbench) := fun params state =>
  modifyGetThe Workbench fun bench =>
    ((job.decide params state, takes bench.rounds), { bench with rounds := bench.rounds + 1 })

/-- The runner of a job. -/
def runner (job : Job) : Runner (StateM Workbench) where
  store := Shelf.store
  roundTimeout := job.roundTimeout
  maxRounds := job.maxRounds

/-- A run goes on at an instant, after some rounds. -/
def runFrom (job : Job) (setting : Setting) (fuel rounds now : Nat) (begun : List Begun)
    (bench : Workbench) : Option Report × Workbench :=
  ((job.runner.runFrom job.key (job.task setting.takes) job.params setting.cancel fuel rounds now
    begun).run bench).run

/-- A run, and the store that it leaves behind. -/
def run (job : Job) (setting : Setting) (shelf : Shelf) : Option Report × Shelf :=
  let (report, bench) := ((job.runner.run job.key (job.task setting.takes) job.params
    setting.cancel).run { shelf := shelf }).run
  (report, bench.shelf)

variable {job : Job} {setting : Setting} {bench bench' : Workbench}

/-! ## Rounds -/

/-- A round is loading, deciding and keeping. -/
theorem step_run (job : Job) (takes : Nat → Nat) (bench : Workbench) :
    ((job.runner.step job.key (job.task takes) job.params).run bench).run =
      match bench.shelf.load job.key with
      | .error error => (⟨.failed error, 0, none⟩, bench)
      | .ok stored =>
        let (outcome, elapsed) :=
          job.runner.inTime (job.decide job.params (stored.getD [])) (takes bench.rounds)
        (⟨outcome, elapsed, some (stored.getD [])⟩,
          { bench with shelf := bench.shelf.after job.key outcome, rounds := bench.rounds + 1 }) := by
  have hload : ((job.runner.store.load job.key).run bench).run =
      (bench.shelf.load job.key, bench) := rfl
  unfold Runner.step
  rw [StateT.run_bind, Id.run_bind, hload]
  cases bench.shelf.load job.key with
  | error error => rfl
  | ok stored =>
    dsimp only
    have htask : ((job.task takes job.params (stored.getD [])).run bench).run =
      ((job.decide job.params (stored.getD []), takes bench.rounds),
        { bench with rounds := bench.rounds + 1 }) := rfl
    rw [StateT.run_bind, Id.run_bind, htask]
    dsimp only
    obtain ⟨outcome, elapsed⟩ := job.runner.inTime (job.decide job.params (stored.getD []))
      (takes bench.rounds)
    cases outcome <;> rfl

/-! ## Runs -/

theorem run_eq (job : Job) (setting : Setting) (shelf : Shelf) :
    job.run setting shelf =
      ((job.runFrom setting 0x100000000 0 0 [] { shelf := shelf }).1,
        (job.runFrom setting 0x100000000 0 0 [] { shelf := shelf }).2.shelf) := rfl

section Runs

variable {fuel rounds now : Nat} {begun : List Begun}

theorem runFrom_cancelled (hcancel : Runner.cancelledBy setting.cancel now = true) :
    job.runFrom setting (fuel + 1) rounds now begun bench =
      (some ⟨.cancelled, rounds, now, begun⟩, bench) :=
  Runner.runFrom_cancelled hcancel

/-- A job that has had all its rounds is given up. -/
theorem runFrom_spent (hcancel : Runner.cancelledBy setting.cancel now = false) {limit : Nat}
    (hlimit : job.maxRounds = some limit) (hspent : limit ≤ rounds) :
    job.runFrom setting (fuel + 1) rounds now begun bench =
      (some ⟨.failed (.roundLimit limit), rounds, now, begun⟩,
        { bench.warned "Task exceeded round limit" with shelf := bench.shelf.clear job.key }) := by
  have hmax : job.runner.maxRounds = some limit := hlimit
  exact Runner.runFrom_spent hcancel hmax hspent

/-- A round ends the run, or suspends the job; then the run waits, and goes on unless it is cancelled
meanwhile. -/
theorem runFrom_step (fuel : Nat) (begun : List Begun)
    (hcancel : Runner.cancelledBy setting.cancel now = false)
    (hmore : ∀ limit, job.maxRounds = some limit → rounds < limit) {round : StepReport}
    (hround : ((job.runner.step job.key (job.task setting.takes) job.params).run bench).run =
      (round, bench')) :
    job.runFrom setting (fuel + 1) rounds now begun bench =
      match round.outcome with
      | .done result =>
        (some ⟨.completed result, rounds + 1, now + round.elapsed,
          begun ++ (round.given.map (Begun.mk now)).toList⟩, bench')
      | .failed error =>
        (some ⟨.failed error, rounds + 1, now + round.elapsed,
          begun ++ (round.given.map (Begun.mk now)).toList⟩, bench'.warned "Task failed")
      | .suspend delay _ =>
        if Runner.cancelledBy setting.cancel (now + round.elapsed + delay.timer) then
          (some ⟨.cancelled, rounds + 1,
            max (now + round.elapsed) (setting.cancel.getD (now + round.elapsed)),
            begun ++ (round.given.map (Begun.mk now)).toList⟩, bench')
        else
          job.runFrom setting fuel (rounds + 1) (now + round.elapsed + delay.timer)
            (begun ++ (round.given.map (Begun.mk now)).toList) bench' :=
  Runner.runFrom_step fuel begun hcancel hmore hround

end Runs

end Job

end RetrySafe.Task
