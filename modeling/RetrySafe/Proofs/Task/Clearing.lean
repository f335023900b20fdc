import RetrySafe.Proofs.Task.Keeping

/-!
# What ended tasks leave behind

A task that ends has nothing under its key any more, if what it had there could be loaded. Nothing
else is asked of it: it may do anything in its rounds, overrun its time, or have all its rounds. But
a state that cannot be loaded stays where it is, and every later round of its key fails for it. A
task can suspend with such a state, one that is nested too deep: it is saved like any other.

## Main definitions

* `Desk` — the store in memory, and what a task has of its own.
* `Shelf.Lacks`, `Shelf.Yields` — nothing is stored under a key, or nothing that cannot be loaded.
* `ClearsStep`, `ClearsRun` — when the end of a step and of a run clears the key.
* `IsShallow`, `Desk.Reached` — tasks that suspend with what can be loaded, and what comes of them.

## Main results

* `terminal_clears` — the end of a step or a run clears the key where it could be loaded, and so it
  always does among tasks that suspend with what can be loaded.
* `kept_after_deep_suspension` — it does not always.
-/

namespace RetrySafe.Task

/-! ## Entries of the store -/

namespace Shelf

variable {shelf : Shelf} {key other : String} {state : Members}

/-- Nothing is stored under a key. -/
def Lacks (shelf : Shelf) (key : String) : Prop := shelf.texts.lookup key = none

/-- What is stored under a key, if anything is, can be loaded. -/
def Yields (shelf : Shelf) (key : String) : Prop := ∃ stored, shelf.load key = .ok stored

theorem Lacks.load (h : shelf.Lacks key) : shelf.load key = .ok none := by
  unfold Lacks at h
  rw [Shelf.load, h]

theorem lacks_clear (shelf : Shelf) (key : String) : (shelf.clear key).Lacks key :=
  Association.lookup_filter_self key shelf.texts

/-- A state can be loaded unless it is nested too deep. -/
theorem yields_save (hproper : (Json.obj state).IsProper)
    (hdepth : (Json.obj state).depth ≤ Json.depthLimit) : (shelf.save key state).Yields key := by
  obtain ⟨ws, hread, -⟩ := (Json.readTable_text hproper).1 hdepth
  exact ⟨some ws, by simp [load, save, hread]⟩

theorem yields_of_lookup_eq {shelf' : Shelf}
    (h : shelf'.texts.lookup key = shelf.texts.lookup key) (hyields : shelf.Yields key) :
    shelf'.Yields key := by
  obtain ⟨stored, hstored⟩ := hyields
  exact ⟨stored, by rw [load, h, ← load, hstored]⟩

/-- A round of a key leaves the other keys alone. -/
theorem lookup_after_of_ne (h : other ≠ key) (outcome : Outcome) :
    (shelf.after key outcome).texts.lookup other = shelf.texts.lookup other := by
  cases outcome with
  | suspend delay state =>
    have hdeed : (Deed.save key state).key ≠ other := h.symm
    exact lookup_perform hdeed shelf
  | done result => exact Association.lookup_filter_ne h _
  | failed error => exact Association.lookup_filter_ne h _

theorem lacks_after {outcome : Outcome} (h : outcome.isTerminal = true) :
    (shelf.after key outcome).Lacks key := by
  cases outcome with
  | suspend delay state => cases h
  | done result => exact lacks_clear shelf key
  | failed error => exact lacks_clear shelf key

end Shelf

/-! ## Desks -/

/-- What runs work on: the store in memory, the warnings, and whatever a task has of its own. -/
structure Desk (σ : Type) where
  shelf : Shelf := {}
  journal : Journal := {}
  own : σ

namespace Desk

variable {σ : Type}

instance : MonadStateOf Shelf (StateM (Desk σ)) where
  get := fun desk => (desk.shelf, desk)
  set shelf := fun desk => ((), { desk with shelf })
  modifyGet f := fun desk => ((f desk.shelf).1, { desk with shelf := (f desk.shelf).2 })

instance : MonadWarn (StateM (Desk σ)) where
  warn message := fun desk => ((), { desk with journal := ⟨message :: desk.journal.entries⟩ })

/-- A runner with some limits. -/
def runner (roundTimeout : Option Time.Duration) (maxRounds : Option Nat) :
    Runner (StateM (Desk σ)) :=
  ⟨Shelf.store, roundTimeout, maxRounds⟩

variable {roundTimeout : Option Time.Duration} {maxRounds : Option Nat} {key : String}
  {task : Task (StateM (Desk σ))} {params : Members} {desk desk' : Desk σ}

/-! ## Rounds -/

/-- A round whose state cannot be loaded is not begun, and nothing is changed. -/
theorem step_unreadable {error : TaskError} (h : desk.shelf.load key = .error error) :
    (((runner roundTimeout maxRounds).step key task params).run desk).run =
      (⟨.failed error, 0, none⟩, desk) := by
  have hload : (((runner roundTimeout maxRounds).store.load key).run desk).run =
      (desk.shelf.load key, desk) := rfl
  unfold Runner.step
  rw [StateT.run_bind, Id.run_bind, hload, h]
  rfl

/-- Any other round is begun, and after it the store keeps what its outcome says. -/
theorem step_readable {stored : Option Members} (h : desk.shelf.load key = .ok stored) :
    (((runner roundTimeout maxRounds).step key task params).run desk).run =
      let (decided, desk') := ((task params (stored.getD [])).run desk).run
      let (outcome, elapsed) :=
        (runner roundTimeout maxRounds : Runner (StateM (Desk σ))).inTime decided.1 decided.2
      (⟨outcome, elapsed, some (stored.getD [])⟩,
        { desk' with shelf := desk'.shelf.after key outcome }) := by
  have hload : (((runner roundTimeout maxRounds).store.load key).run desk).run =
      (desk.shelf.load key, desk) := rfl
  unfold Runner.step
  rw [StateT.run_bind, Id.run_bind, hload, h]
  dsimp only
  rw [StateT.run_bind, Id.run_bind]
  obtain ⟨⟨outcome, elapsed⟩, desk'⟩ := ((task params (stored.getD [])).run desk).run
  dsimp only
  obtain ⟨outcome, elapsed⟩ :=
    (runner roundTimeout maxRounds : Runner (StateM (Desk σ))).inTime outcome elapsed
  cases outcome <;> rfl

theorem exists_step_readable {stored : Option Members} (h : desk.shelf.load key = .ok stored) :
    ∃ outcome elapsed, ∃ later : Desk σ,
      (((runner roundTimeout maxRounds).step key task params).run desk).run =
        (⟨outcome, elapsed, some (stored.getD [])⟩,
          { later with shelf := later.shelf.after key outcome }) :=
  ⟨_, _, _, step_readable h⟩

/-- What a step leaves under its key. If it ends the task, that is nothing exactly if the state
could be loaded. Where it could not, the step changes nothing, and so every later step fails too. -/
structure ClearsStep (key : String) (desk desk' : Desk σ) (report : StepReport) : Prop where
  clears : report.outcome.isTerminal = true → (desk'.shelf.Lacks key ↔ desk.shelf.Yields key)
  stuck : ∀ error, desk.shelf.load key = .error error →
    report.outcome = .failed error ∧ desk' = desk

theorem step_clears (roundTimeout : Option Time.Duration) (maxRounds : Option Nat) (key : String)
    (task : Task (StateM (Desk σ))) (params : Members) (desk : Desk σ) {report : StepReport}
    (hstep : (((runner roundTimeout maxRounds).step key task params).run desk).run =
      (report, desk')) : ClearsStep key desk desk' report := by
  cases hload : desk.shelf.load key with
  | error error =>
    rw [step_unreadable hload] at hstep
    obtain ⟨rfl, rfl⟩ := Prod.mk.inj hstep
    have hnot : ¬desk.shelf.Yields key := by
      rintro ⟨stored, hstored⟩
      rw [hload] at hstored
      cases hstored
    refine ⟨fun _ => ⟨fun hlacks => ?_, fun hyields => absurd hyields hnot⟩, ?_⟩
    · exact absurd ⟨none, hlacks.load⟩ hnot
    · intro other hother
      rw [← Except.error.inj (hload.symm.trans hother)]
      exact ⟨rfl, rfl⟩
  | ok stored =>
    rw [step_readable hload] at hstep
    obtain ⟨rfl, rfl⟩ := Prod.mk.inj hstep
    refine ⟨fun hterminal => ?_, fun error herror => ?_⟩
    · exact iff_of_true (Shelf.lacks_after hterminal) ⟨stored, hload⟩
    · rw [hload] at herror
      cases herror

/-! ## Runs -/

/-- What a run leaves under its key. If it ends the task, that is nothing exactly if every round
that it started was begun, its state being loaded. Where one was not, the run has failed for that,
and what cannot be loaded is there still. -/
structure ClearsRun (key : String) (desk' : Desk σ) (report : Report) : Prop where
  clears : report.ending ≠ .cancelled →
    (desk'.shelf.Lacks key ↔ report.begun.length = report.rounds)
  stuck : report.begun.length ≠ report.rounds → ∃ error, report.ending = .failed error ∧
    desk'.shelf.load key = .error error

namespace ClearsRun

variable {report : Report}

theorem of_lacks (hlacks : desk'.shelf.Lacks key) (hbegun : report.begun.length = report.rounds) :
    ClearsRun key desk' report :=
  ⟨fun _ => iff_of_true hlacks hbegun, fun hmissed => absurd hbegun hmissed⟩

theorem of_cancelled (hended : report.ending = .cancelled)
    (hbegun : report.begun.length = report.rounds) : ClearsRun key desk' report :=
  ⟨fun hnot => absurd hended hnot, fun hmissed => absurd hbegun hmissed⟩

theorem of_unreadable {error : TaskError} (hended : report.ending = .failed error)
    (hload : desk'.shelf.load key = .error error) (hmissed : report.begun.length ≠ report.rounds) :
    ClearsRun key desk' report := by
  refine ⟨fun _ => iff_of_false (fun hlacks => ?_) hmissed, fun _ => ⟨error, hended, hload⟩⟩
  cases hload.symm.trans hlacks.load

end ClearsRun

theorem ended_eq {report report' : Report}
    (h : (some report, desk) = (some report', desk')) : report' = report ∧ desk' = desk := by
  obtain ⟨hreport, rfl⟩ := Prod.mk.inj h
  exact ⟨(Option.some.inj hreport).symm, rfl⟩

theorem runFrom_clears {cancel : Option Nat} {fuel rounds now : Nat} {begun : List Begun}
    {report : Report} (hbegun : begun.length = rounds)
    (hrun : (((runner roundTimeout maxRounds).runFrom key task params cancel fuel rounds now
      begun).run desk).run = (some report, desk')) : ClearsRun key desk' report := by
  -- By induction on the rounds that are left at most; those so far were all begun.
  induction fuel generalizing rounds now begun desk with
  | zero => cases (Prod.mk.inj hrun).1
  | succ fuel ih =>
    cases hcancel : Runner.cancelledBy cancel now with
    | true =>
      rw [Runner.runFrom_cancelled hcancel] at hrun
      obtain ⟨rfl, rfl⟩ := ended_eq hrun
      exact .of_cancelled rfl hbegun
    | false =>
      obtain ⟨limit, hlimit, hle⟩ | hmore :=
        (runner roundTimeout maxRounds : Runner (StateM (Desk σ))).spent_or_more rounds
      · rw [Runner.runFrom_spent hcancel hlimit hle] at hrun
        obtain ⟨rfl, rfl⟩ := ended_eq hrun
        exact .of_lacks (Shelf.lacks_clear desk.shelf key) hbegun
      · cases hload : desk.shelf.load key with
        | error error =>
          rw [Runner.runFrom_step fuel begun hcancel hmore (step_unreadable hload)] at hrun
          obtain ⟨rfl, rfl⟩ := ended_eq hrun
          -- The round counts, but it was not begun, and nothing was changed.
          have hmissed : (begun ++ []).length ≠ rounds + 1 := by
            rw [List.append_nil, hbegun]
            exact Nat.ne_of_lt (Nat.lt_succ_self rounds)
          exact .of_unreadable rfl hload hmissed
        | ok stored =>
          obtain ⟨outcome, elapsed, later, hround⟩ := exists_step_readable hload
          have hnext : (begun ++ [Begun.mk now (stored.getD [])]).length = rounds + 1 := by
            rw [List.length_append, hbegun, List.length_singleton]
          rw [Runner.runFrom_step fuel begun hcancel hmore hround] at hrun
          cases outcome with
          | done result =>
            obtain ⟨rfl, rfl⟩ := ended_eq hrun
            exact .of_lacks (Shelf.lacks_clear later.shelf key) hnext
          | failed error =>
            obtain ⟨rfl, rfl⟩ := ended_eq hrun
            exact .of_lacks (Shelf.lacks_clear later.shelf key) hnext
          | suspend delay state =>
            dsimp only at hrun
            split at hrun
            next =>
              obtain ⟨rfl, rfl⟩ := ended_eq hrun
              exact .of_cancelled rfl hnext
            next => exact ih hnext hrun

end Desk

/-! ## Shallow tasks -/

variable {σ : Type} {roundTimeout : Option Time.Duration} {maxRounds : Option Nat} {key : String}
  {task : Task (StateM (Desk σ))} {params : Members} {desk desk' : Desk σ}

/-- A task that suspends with states only that are not nested too deep, and leaves the store to its
runner. -/
structure IsShallow (task : Task (StateM (Desk σ))) : Prop where
  suspends : ∀ params state desk delay next, ((task params state).run desk).run.1.1 =
    .suspend delay next → (Json.obj next).IsProper ∧ (Json.obj next).depth ≤ Json.depthLimit
  spares : ∀ params state desk, ((task params state).run desk).run.2.shelf = desk.shelf

/-- Time only ever turns the outcome of a round into a failure. -/
theorem inTime_suspend {m : Type → Type} {runner : Runner m} {outcome : Outcome} {elapsed : Nat}
    {delay : Time.Duration} {next : Members}
    (h : (runner.inTime outcome elapsed).1 = .suspend delay next) :
    outcome = .suspend delay next := by
  unfold Runner.inTime at h
  cases hlimit : runner.roundTimeout with
  | none =>
    rw [hlimit] at h
    exact h
  | some limit =>
    rw [hlimit] at h
    dsimp only at h
    split at h
    · cases h
    · exact h

/-- Every entry of the store can be loaded. -/
def Desk.IsReadable (desk : Desk σ) : Prop := ∀ key, desk.shelf.Yields key

namespace IsShallow

theorem step_isReadable (htask : IsShallow task) (hdesk : desk.IsReadable) :
    (((Desk.runner roundTimeout maxRounds).step key task params).run desk).run.2.IsReadable := by
  intro other
  obtain ⟨stored, hstored⟩ := hdesk key
  have hspares := htask.spares params (stored.getD []) desk
  rw [Desk.step_readable hstored]
  dsimp only
  rw [hspares]
  -- Under the key of the task stands what its outcome says, and elsewhere what stood there before.
  by_cases hother : other = key
  · subst hother
    cases houtcome : ((Desk.runner roundTimeout maxRounds :
      Runner (StateM (Desk σ))).inTime ((task params (stored.getD [])).run desk).run.1.1
        ((task params (stored.getD [])).run desk).run.1.2).1 with
    | suspend delay next =>
      obtain ⟨hproper, hdepth⟩ := htask.suspends _ _ _ _ _ (inTime_suspend houtcome)
      exact Shelf.yields_save hproper hdepth
    | done result => exact ⟨none, (Shelf.lacks_clear _ _).load⟩
    | failed error => exact ⟨none, (Shelf.lacks_clear _ _).load⟩
  · exact Shelf.yields_of_lookup_eq (Shelf.lookup_after_of_ne hother _) (hdesk other)

theorem giveUp_isReadable (hdesk : desk.IsReadable) :
    (((Desk.runner roundTimeout maxRounds : Runner (StateM (Desk σ))).giveUp key).run
      desk).run.2.IsReadable := by
  intro other
  change (desk.shelf.clear key).Yields other
  by_cases hother : other = key
  · rw [hother]
    exact ⟨none, (Shelf.lacks_clear _ _).load⟩
  · exact Shelf.yields_of_lookup_eq (Association.lookup_filter_ne hother _) (hdesk other)

theorem run_isReadable (htask : IsShallow task) (hdesk : desk.IsReadable) (cancel : Option Nat) :
    (((Desk.runner roundTimeout maxRounds).run key task params cancel).run desk).run.2.IsReadable :=
  Runner.runFrom_preserves (fun _ h => htask.step_isReadable h) (fun _ h => giveUp_isReadable h)
    (fun _ h => h) _ _ _ _ hdesk

end IsShallow

/-- What comes of an empty store by any steps and runs of shallow tasks. -/
inductive Desk.Reached : Desk σ → Prop
  | fresh (journal : Journal) (own : σ) : Reached ⟨{}, journal, own⟩
  | step {desk : Desk σ} {task : Task (StateM (Desk σ))} (h : Reached desk) (htask : IsShallow task)
      (roundTimeout : Option Time.Duration) (maxRounds : Option Nat) (key : String)
      (params : Members) :
    Reached (((runner roundTimeout maxRounds).step key task params).run desk).run.2
  | run {desk : Desk σ} {task : Task (StateM (Desk σ))} (h : Reached desk) (htask : IsShallow task)
      (roundTimeout : Option Time.Duration) (maxRounds : Option Nat) (key : String)
      (params : Members) (cancel : Option Nat) :
    Reached (((runner roundTimeout maxRounds).run key task params cancel).run desk).run.2

theorem Desk.Reached.isReadable (h : desk.Reached) : desk.IsReadable := by
  induction h with
  | fresh journal own => exact fun key => ⟨none, rfl⟩
  | step h htask _ _ _ _ ih => exact htask.step_isReadable ih
  | run h htask _ _ _ _ cancel ih => exact htask.run_isReadable ih cancel

/-- **Ended tasks leave nothing behind that could be loaded.** Take any task, which may do anything
to the store in its rounds, under any key and any limits. If a step ends it, there is nothing under
its key any more exactly if the state could be loaded before; if not, the step has changed nothing.
If a run ends it, there is nothing under its key any more exactly if every round that was started was
begun; if not, the run has failed because the state could not be loaded, and still it cannot. Where
the store comes of an empty one by steps and runs of shallow tasks, and the task is one, every step
and every run that ends the task leaves nothing behind. -/
theorem terminal_clears (roundTimeout : Option Time.Duration) (maxRounds : Option Nat)
    (key : String) (task : Task (StateM (Desk σ))) (params : Members) (desk : Desk σ) :
    (∀ report desk', (((Desk.runner roundTimeout maxRounds).step key task params).run desk).run =
        (report, desk') → Desk.ClearsStep key desk desk' report) ∧
      (∀ cancel report desk', (((Desk.runner roundTimeout maxRounds).run key task params cancel).run
        desk).run = (some report, desk') → Desk.ClearsRun key desk' report) ∧
      (desk.Reached → IsShallow task →
        (∀ report desk', (((Desk.runner roundTimeout maxRounds).step key task params).run
          desk).run = (report, desk') → report.outcome.isTerminal = true → desk'.shelf.Lacks key) ∧
        ∀ cancel report desk', (((Desk.runner roundTimeout maxRounds).run key task params
          cancel).run desk).run = (some report, desk') → report.ending ≠ .cancelled →
            desk'.shelf.Lacks key) := by
  have hstep (report : StepReport) (desk' : Desk σ) (hrun : (((Desk.runner roundTimeout
      maxRounds).step key task params).run desk).run = (report, desk')) :=
    Desk.step_clears roundTimeout maxRounds key task params desk hrun
  have hrun (cancel : Option Nat) (report : Report) (desk' : Desk σ) (hrun : (((Desk.runner
      roundTimeout maxRounds).run key task params cancel).run desk).run = (some report, desk')) :
      Desk.ClearsRun key desk' report :=
    Desk.runFrom_clears List.length_nil hrun
  refine ⟨hstep, hrun, fun hreached htask => ⟨?_, ?_⟩⟩
  · intro report desk' h hterminal
    exact ((hstep report desk' h).clears hterminal).mpr (hreached.isReadable key)
  · intro cancel report desk' h hended
    have hclears := hrun cancel report desk' h
    refine (hclears.clears hended).mpr (by_contra fun hmissed => ?_)
    -- What cannot be loaded in the end contradicts that everything can be.
    obtain ⟨error, -, hload⟩ := hclears.stuck hmissed
    obtain ⟨stored, hstored⟩ := htask.run_isReadable hreached.isReadable cancel key
    rw [h, hload] at hstored
    cases hstored

namespace Tower

/-- A round that suspends with a tower. -/
def building (height : Nat) : Task (StateM (Desk Unit)) := fun _ _ =>
  return (.suspend .zero (state height), 0)

/-- A round that is done. -/
def finishing : Task (StateM (Desk Unit)) := fun _ _ => return (.done .null, 0)

/-- A store after a step that suspends with a tower. -/
def built (height : Nat) : Desk Unit :=
  (((Desk.runner none none).step "t" (building height) []).run ⟨{}, {}, ()⟩).run.2

theorem building_isShallow {height : Nat} (h : height ≤ 126) : IsShallow (building height) where
  suspends _ _ _ _ _ hsuspend := by
    obtain ⟨-, rfl⟩ := Outcome.suspend.inj hsuspend
    refine ⟨(state_isProper height).1, ?_⟩
    rw [depth_state]
    exact Nat.succ_le_succ h
  spares _ _ _ := rfl

theorem finishing_isShallow : IsShallow finishing where
  suspends _ _ _ _ _ hsuspend := by cases hsuspend
  spares _ _ _ := rfl

theorem load_built : (built 127).shelf.load "t" = .error (.unreadable (.text .tooDeep)) :=
  Shelf.load_save_deep (state_isProper 127).1 (by rw [depth_state]; decide) {} "t"

theorem step_finishing {desk : Desk Unit} {stored : Option Members}
    (h : desk.shelf.load "t" = .ok stored) :
    (((Desk.runner none none).step "t" finishing []).run desk).run =
      (⟨.done .null, 0, some (stored.getD [])⟩, { desk with shelf := desk.shelf.clear "t" }) :=
  Desk.step_readable h

theorem run_finishing {desk : Desk Unit} {stored : Option Members}
    (h : desk.shelf.load "t" = .ok stored) :
    (((Desk.runner none none).run "t" finishing [] none).run desk).run =
      (some ⟨.completed .null, 1, 0, [⟨0, stored.getD []⟩]⟩,
        { desk with shelf := desk.shelf.clear "t" }) :=
  Runner.runFrom_step _ [] rfl (fun _ hlimit => by cases hlimit) (step_finishing h)

theorem run_unreadable : (((Desk.runner none none).run "t" finishing [] none).run (built 127)).run =
    (some ⟨.failed (.unreadable (.text .tooDeep)), 1, 0, []⟩,
      { built 127 with journal := ⟨["Task failed"]⟩ }) :=
  Runner.runFrom_step _ [] rfl (fun _ hlimit => by cases hlimit) (Desk.step_unreadable load_built)

/-- The highest tower that can be loaded is cleared away when the task ends. -/
theorem terminal_clears_tower :
    (((Desk.runner none none).step "t" finishing []).run (built 126)).run.2.shelf.Lacks "t" ∧
      (((Desk.runner none none).run "t" finishing [] none).run (built 126)).run.2.shelf.Lacks
        "t" := by
  have hreached : (built 126).Reached :=
    .step (.fresh {} ()) (building_isShallow (Nat.le_refl 126)) none none "t" []
  obtain ⟨stored, hload⟩ := hreached.isReadable "t"
  obtain ⟨-, -, hshallow⟩ := terminal_clears none none "t" finishing [] (built 126)
  obtain ⟨hstep, hrun⟩ := hshallow hreached finishing_isShallow
  rw [step_finishing hload, run_finishing hload]
  exact ⟨hstep _ _ (step_finishing hload) rfl, hrun _ _ _ (run_finishing hload) Ending.noConfusion⟩

/-- The next tower is saved as well, but it is not cleared away: the task fails in every later step
because of it, and a run of it fails too, and still it is there. -/
theorem kept_after_deep_suspension :
    (((Desk.runner none none).step "t" (building 127) []).run ⟨{}, {}, ()⟩).run =
        (⟨.suspend .zero (state 127), 0, some []⟩, built 127) ∧
      (∀ roundTimeout maxRounds task params,
        (((Desk.runner roundTimeout maxRounds).step "t" task params).run (built 127)).run =
          (⟨.failed (.unreadable (.text .tooDeep)), 0, none⟩, built 127)) ∧
      (∃ desk', (((Desk.runner none none).run "t" finishing [] none).run (built 127)).run =
        (some ⟨.failed (.unreadable (.text .tooDeep)), 1, 0, []⟩, desk') ∧
          ¬desk'.shelf.Lacks "t") ∧
      ¬(built 127).shelf.Lacks "t" := by
  have hthere : ¬(built 127).shelf.Lacks "t" := fun hlacks => by
    cases load_built.symm.trans hlacks.load
  refine ⟨rfl, fun _ _ _ _ => Desk.step_unreadable load_built, ⟨_, run_unreadable, hthere⟩, hthere⟩

end Tower

end RetrySafe.Task
