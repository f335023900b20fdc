import Mathlib.Logic.Function.Basic
import RetrySafe.Proofs.Task.Keeping

/-!
# What is acknowledged is kept

Any call of a store may fail. Still, a step says that a task is suspended only after its state was saved,
and that it is done only after its state was cleared. So every round goes on from the state that was saved
last, unless that was cleared.

## Main definitions

* `StateStore.Keeps` — a store that may fail, but does as it says.
* `Call`, `Call.Ran` — a call of `step`, and how it comes to its round.
* `Call.Acknowledged` — what the report of a call says of the store.
* `Call.Does`, `Course` — calls on a key, with what was saved and cleared under it.

## Main results

* `Call.acknowledged` — what a call reports is so.
* `Course.entry_eq` — what is kept under a key is what was saved last.
* `persisted_before_acknowledged` — both, for all calls on a key.
* `StateStore.Keeps.failing` — a store some of whose calls fail still does as it says.
-/

namespace RetrySafe.Task

/-! ## Stores that may fail -/

namespace Deed

/-- What a deed puts under its key. -/
def entry : Deed → Option Members
  | save _ state => some state
  | clear _ => none

/-- A deed on a store. -/
def on {m : Type → Type} (store : StateStore m) : Deed → m (Except TaskError Unit)
  | save key state => store.save key state
  | clear key => store.clear key

/-- What is to be done after a round. -/
def after (key : String) : Outcome → Deed
  | .suspend _ state => .save key state
  | _ => .clear key

/-- The state that was saved last by some deeds on a key, unless it was cleared after that. Without any
deeds it is what was there before. -/
def lastSaved (before : Option Members) (deeds : List Deed) : Option Members :=
  match deeds.getLast? with
  | some deed => deed.entry
  | none => before

theorem key_after (key : String) (outcome : Outcome) : (after key outcome).key = key := by
  cases outcome <;> rfl

theorem lastSaved_nil (before : Option Members) : lastSaved before [] = before := rfl

theorem lastSaved_append (before : Option Members) (deeds later : List Deed) :
    lastSaved before (deeds ++ later) = lastSaved (lastSaved before deeds) later := by
  unfold lastSaved
  rw [List.getLast?_append]
  cases later.getLast? <;> rfl

end Deed

variable {ω : Type}

/-- A store that keeps a state, or none, under each key. A state is loaded as it is kept, and a deed
changes what is kept under its key and nothing else. Any call may fail; then nothing is changed. -/
structure StateStore.Keeps (store : StateStore (StateM ω)) (kept : ω → String → Option Members) :
    Prop where
  load {key : String} {w w' : ω} {answer : Except TaskError (Option Members)} :
    ((store.load key).run w).run = (answer, w') → kept w' = kept w
  found {key : String} {w w' : ω} {found : Option Members} :
    ((store.load key).run w).run = (.ok found, w') → found = kept w key
  done {deed : Deed} {w w' : ω} : ((deed.on store).run w).run = (.ok (), w') →
    kept w' = Function.update (kept w) deed.key deed.entry
  refused {deed : Deed} {w w' : ω} {error : TaskError} :
    ((deed.on store).run w).run = (.error error, w') → kept w' = kept w

/-- What becomes of an outcome by the answer of a store. -/
def Outcome.answered (outcome : Outcome) : Except TaskError Unit → Outcome
  | .ok _ => outcome
  | .error error => .failed (.state error.message)

/-- What a runner does after a round is a deed, which may fail. -/
theorem Runner.persist_run {runner : Runner (StateM ω)} {key : String} {outcome : Outcome} {w w' : ω}
    {answer : Except TaskError Unit}
    (h : (((Deed.after key outcome).on runner.store).run w).run = (answer, w')) :
    ((runner.persist key outcome).run w).run = (outcome.answered answer, w') := by
  have hdeed : runner.persist key outcome =
      (Deed.after key outcome).on runner.store >>= fun answer => pure (outcome.answered answer) := by
    cases outcome <;> exact bind_congr fun answer => by cases answer <;> rfl
  rw [hdeed, StateT.run_bind, Id.run_bind, h]
  rfl

/-! ## Calls -/

/-- A call of `step`, on a runner with some limits. -/
structure Call (ω : Type) where
  task : Task (StateM ω)
  params : Members := []
  roundTimeout : Option Time.Duration := none
  maxRounds : Option Nat := none

namespace Call

/-- The runner that is called. -/
def runner (call : Call ω) (store : StateStore (StateM ω)) : Runner (StateM ω) :=
  ⟨store, call.roundTimeout, call.maxRounds⟩

/-- What is called. -/
def step (call : Call ω) (store : StateStore (StateM ω)) (key : String) : StateM ω StepReport :=
  (call.runner store).step key call.task call.params

/-- A call comes to its round: the state that is loaded and given to the round, its outcome and the
milliseconds it took, and the world that it leaves. -/
def Ran (call : Call ω) (store : StateStore (StateM ω)) (key : String) (w : ω) (given : Members)
    (outcome : Outcome) (elapsed : Nat) (left : ω) : Prop :=
  ∃ found w₁ decided, ((store.load key).run w).run = (.ok found, w₁) ∧ found.getD [] = given ∧
    ((call.task call.params given).run w₁).run = (decided, left) ∧
    (call.runner store).inTime decided.1 decided.2 = (outcome, elapsed)

/-- What the report of a call says of the store. A task is suspended only if its state has just been
saved, and done only if its state has just been cleared. If the state could not be loaded, there was no
round, and if it could not be saved or cleared after the round, the call has failed and what the round
left there is kept. -/
structure Acknowledged (call : Call ω) (store : StateStore (StateM ω))
    (kept : ω → String → Option Members) (key : String) (w : ω) (report : StepReport) (w' : ω) :
    Prop where
  suspended : ∀ delay state, report.outcome = .suspend delay state →
    kept w' key = some state ∧ ∃ given elapsed left,
      call.Ran store key w given (.suspend delay state) elapsed left ∧
      ((store.save key state).run left).run = (.ok (), w')
  done : ∀ result, report.outcome = .done result →
    kept w' key = none ∧ ∃ given elapsed left,
      call.Ran store key w given (.done result) elapsed left ∧
      ((store.clear key).run left).run = (.ok (), w')
  unloaded : ∀ error w₁, ((store.load key).run w).run = (.error error, w₁) →
    report = ⟨.failed error, 0, none⟩ ∧ w' = w₁ ∧ kept w' = kept w
  unkept : ∀ given outcome elapsed left error w₁, call.Ran store key w given outcome elapsed left →
    (((Deed.after key outcome).on store).run left).run = (.error error, w₁) →
    report = ⟨.failed (.state error.message), elapsed, some given⟩ ∧ w' = w₁ ∧ kept w' = kept left

/-- What a call does under its key. Its round may do something there itself: any deeds that account for
what it leaves. After it the runner does its own, which may fail. -/
inductive Does (call : Call ω) (store : StateStore (StateM ω)) (kept : ω → String → Option Members)
    (key : String) (w : ω) : List Deed → ω → Prop
  | unloaded {error : TaskError} {w' : ω}
      (hload : ((store.load key).run w).run = (.error error, w')) : Does call store kept key w [] w'
  | kept {given : Members} {outcome : Outcome} {elapsed : Nat} {left w' : ω} {own : List Deed}
      (hran : call.Ran store key w given outcome elapsed left)
      (hown : kept left key = Deed.lastSaved (kept w key) own)
      (hdeed : (((Deed.after key outcome).on store).run left).run = (.ok (), w')) :
      Does call store kept key w (own ++ [.after key outcome]) w'
  | unkept {given : Members} {outcome : Outcome} {elapsed : Nat} {left w' : ω} {own : List Deed}
      {error : TaskError} (hran : call.Ran store key w given outcome elapsed left)
      (hown : kept left key = Deed.lastSaved (kept w key) own)
      (hdeed : (((Deed.after key outcome).on store).run left).run = (.error error, w')) :
      Does call store kept key w own w'

variable {call : Call ω} {store : StateStore (StateM ω)} {kept : ω → String → Option Members}
  {key : String} {w w' left : ω} {given : Members} {outcome : Outcome} {elapsed : Nat}
  {error : TaskError} {answer : Except TaskError Unit} {report : StepReport} {deeds : List Deed}

/-- A call whose state cannot be loaded does not come to its round. -/
theorem step_of_load_error (hload : ((store.load key).run w).run = (.error error, w')) :
    ((call.step store key).run w).run = (⟨.failed error, 0, none⟩, w') := by
  have hstore : (((call.runner store).store.load key).run w).run = (.error error, w') := hload
  unfold step Runner.step
  rw [StateT.run_bind, Id.run_bind, hstore]
  rfl

/-- Any other call comes to its round, and after that to a deed. -/
theorem step_of_ran (h : call.Ran store key w given outcome elapsed left)
    (hdeed : (((Deed.after key outcome).on store).run left).run = (answer, w')) :
    ((call.step store key).run w).run = (⟨outcome.answered answer, elapsed, some given⟩, w') := by
  obtain ⟨found, w₁, decided, hload, rfl, hround, htime⟩ := h
  have hstore : (((call.runner store).store.load key).run w).run = (.ok found, w₁) := hload
  have hpersist : (((call.runner store).persist key outcome).run left).run =
      (outcome.answered answer, w') := Runner.persist_run hdeed
  unfold step Runner.step
  rw [StateT.run_bind, Id.run_bind, hstore]
  dsimp only
  rw [StateT.run_bind, Id.run_bind, hround]
  dsimp only
  rw [htime]
  dsimp only
  rw [StateT.run_bind, Id.run_bind, hpersist]
  rfl

/-- Either the state cannot be loaded, or there is a round and the store answers what is to be done after
it. -/
theorem step_cases (h : ((call.step store key).run w).run = (report, w')) :
    (∃ error, ((store.load key).run w).run = (.error error, w') ∧
      report = ⟨.failed error, 0, none⟩) ∨
    ∃ given outcome elapsed left answer, call.Ran store key w given outcome elapsed left ∧
      (((Deed.after key outcome).on store).run left).run = (answer, w') ∧
      report = ⟨outcome.answered answer, elapsed, some given⟩ := by
  obtain ⟨found, w₁, hload⟩ : ∃ found w₁, ((store.load key).run w).run = (found, w₁) := ⟨_, _, rfl⟩
  cases found with
  | error error =>
    rw [step_of_load_error hload] at h
    obtain ⟨rfl, rfl⟩ := Prod.mk.inj h
    exact .inl ⟨error, hload, rfl⟩
  | ok found =>
    have hran : call.Ran store key w (found.getD []) _ _ _ := ⟨found, w₁, _, hload, rfl, rfl, rfl⟩
    rw [step_of_ran hran rfl] at h
    obtain ⟨rfl, rfl⟩ := Prod.mk.inj h
    exact .inr ⟨_, _, _, _, _, hran, rfl, rfl⟩

/-- What is given to a round is what is kept. -/
theorem Ran.given_eq (h : call.Ran store key w given outcome elapsed left)
    (hstore : store.Keeps kept) : given = (kept w key).getD [] := by
  obtain ⟨found, w₁, decided, hload, rfl, -⟩ := h
  rw [hstore.found hload]

/-- A call that does not fail has come to its round, and after it to a deed that did not fail. -/
theorem kept_of_ne_failed (hstore : store.Keeps kept)
    (h : ((call.step store key).run w).run = (report, w'))
    (hok : ∀ error, report.outcome ≠ .failed error) :
    kept w' key = (Deed.after key report.outcome).entry ∧ ∃ given elapsed left,
      call.Ran store key w given report.outcome elapsed left ∧
      (((Deed.after key report.outcome).on store).run left).run = (.ok (), w') := by
  obtain ⟨error, -, rfl⟩ | ⟨given, outcome, elapsed, left, answer, hran, hdeed, rfl⟩ := step_cases h
  · exact absurd rfl (hok error)
  cases answer with
  | error error => exact absurd rfl (hok (.state error.message))
  | ok =>
    refine ⟨?_, given, elapsed, left, hran, hdeed⟩
    rw [hstore.done hdeed, Deed.key_after, Function.update_self]
    rfl

/-- What a call reports is so. -/
theorem acknowledged (hstore : store.Keeps kept)
    (h : ((call.step store key).run w).run = (report, w')) :
    call.Acknowledged store kept key w report w' := by
  refine ⟨fun delay state houtcome => ?_, fun result houtcome => ?_, ?_, ?_⟩
  · have hkept := kept_of_ne_failed hstore h (by simp [houtcome])
    rwa [houtcome] at hkept
  · have hkept := kept_of_ne_failed hstore h (by simp [houtcome])
    rwa [houtcome] at hkept
  · intro error w₁ hload
    rw [step_of_load_error hload] at h
    obtain ⟨rfl, rfl⟩ := Prod.mk.inj h
    exact ⟨rfl, rfl, hstore.load hload⟩
  · intro given outcome elapsed left error w₁ hran hdeed
    rw [step_of_ran hran hdeed] at h
    obtain ⟨rfl, rfl⟩ := Prod.mk.inj h
    exact ⟨rfl, rfl, hstore.refused hdeed⟩

/-- What a call does whose round leaves what is under the key alone. -/
theorem does_of_spared (hran : call.Ran store key w given outcome elapsed left)
    (hspared : kept left key = kept w key)
    (hdeed : (((Deed.after key outcome).on store).run left).run = (.ok (), w')) :
    call.Does store kept key w [.after key outcome] w' :=
  .kept hran (hspared.trans (Deed.lastSaved_nil _).symm) hdeed

theorem does_nothing (hran : call.Ran store key w given outcome elapsed left)
    (hspared : kept left key = kept w key)
    (hdeed : (((Deed.after key outcome).on store).run left).run = (.error error, w')) :
    call.Does store kept key w [] w' :=
  .unkept hran (hspared.trans (Deed.lastSaved_nil _).symm) hdeed

/-- Whatever a call does, there are deeds for it. -/
theorem exists_does (kept : ω → String → Option Members)
    (h : ((call.step store key).run w).run = (report, w')) :
    ∃ deeds, call.Does store kept key w deeds w' := by
  -- One deed accounts for any entry, whatever the round has done to leave it.
  have hown (entry : Option Members) : ∃ own, ∀ before, entry = Deed.lastSaved before own := by
    cases entry with
    | none => exact ⟨[.clear key], fun _ => rfl⟩
    | some state => exact ⟨[.save key state], fun _ => rfl⟩
  obtain ⟨error, hload, -⟩ | ⟨given, outcome, elapsed, left, answer, hran, hdeed, -⟩ := step_cases h
  · exact ⟨[], .unloaded hload⟩
  obtain ⟨own, hown⟩ := hown (kept left key)
  cases answer with
  | error error => exact ⟨_, .unkept hran (hown _) hdeed⟩
  | ok => exact ⟨_, .kept hran (hown _) hdeed⟩

/-- What is kept after a call is what its deeds leave. -/
theorem Does.entry_eq (h : call.Does store kept key w deeds w') (hstore : store.Keeps kept) :
    kept w' key = Deed.lastSaved (kept w key) deeds := by
  cases h with
  | unloaded hload => rw [hstore.load hload]; rfl
  | kept hran hown hdeed =>
    rw [hstore.done hdeed, Deed.key_after, Function.update_self, Deed.lastSaved_append]
    rfl
  | unkept hran hown hdeed => rw [hstore.refused hdeed, hown]

end Call

/-! ## Calls on a key -/

/-- Calls on a key, one after the other. -/
def Call.steps (calls : List (Call ω)) (store : StateStore (StateM ω)) (key : String) :
    StateM ω (List StepReport) :=
  calls.mapM (·.step store key)

/-- What calls on a key, one after the other, do under it. -/
inductive Course (store : StateStore (StateM ω)) (kept : ω → String → Option Members) (key : String) :
    ω → List (Call ω) → List Deed → ω → Prop
  | nil (w : ω) : Course store kept key w [] [] w
  | cons {w w' w'' : ω} {call : Call ω} {calls : List (Call ω)} {deeds log : List Deed}
      (h : call.Does store kept key w deeds w') (hrest : Course store kept key w' calls log w'') :
      Course store kept key w (call :: calls) (deeds ++ log) w''

namespace Course

variable {store : StateStore (StateM ω)} {kept : ω → String → Option Members} {key : String}
  {w w' : ω} {calls : List (Call ω)} {log : List Deed}

/-- Whatever the calls, there is a course for what they do. -/
theorem exists_course (store : StateStore (StateM ω)) (kept : ω → String → Option Members)
    (key : String) (calls : List (Call ω)) (w : ω) :
    ∃ log, Course store kept key w calls log ((Call.steps calls store key).run w).run.2 := by
  induction calls generalizing w with
  | nil => exact ⟨[], .nil w⟩
  | cons call calls ih =>
    obtain ⟨report, w', hstep⟩ : ∃ report w', ((call.step store key).run w).run = (report, w') :=
      ⟨_, _, rfl⟩
    obtain ⟨deeds, hdoes⟩ := Call.exists_does kept hstep
    obtain ⟨log, hrest⟩ := ih w'
    refine ⟨deeds ++ log, ?_⟩
    rw [Call.steps, List.mapM_cons, StateT.run_bind, Id.run_bind, hstep]
    exact .cons hdoes hrest

/-- What is kept under a key is what was saved there last, unless it was cleared after that. -/
theorem entry_eq (h : Course store kept key w calls log w') (hstore : store.Keeps kept) :
    kept w' key = Deed.lastSaved (kept w key) log := by
  -- What the first call leaves is what the others find.
  induction h with
  | nil w => rfl
  | cons h hrest ih => rw [ih, h.entry_eq hstore, Deed.lastSaved_append]

end Course

/-- **Nothing is acknowledged before it is kept.** Take any store that does as it says, though any call of
it may fail, any calls of `step` on a key, whatever their tasks do, and another one after them. It reports
that the task is suspended only after it has saved just this state, and that it is done only after it has
cleared the state. If the state cannot be loaded there is no round, and if it cannot be saved or cleared
after the round, the call has failed and what was there is kept. If there is a round, it is given the
state that was saved last, unless it was cleared after that, and else an empty one. -/
theorem persisted_before_acknowledged {store : StateStore (StateM ω)}
    {kept : ω → String → Option Members} (hstore : store.Keeps kept) (key : String) (w : ω)
    (calls : List (Call ω)) :
    let w' := ((Call.steps calls store key).run w).run.2
    (∃ log, Course store kept key w calls log w') ∧ ∀ call : Call ω,
      (∀ report w'', ((call.step store key).run w').run = (report, w'') →
        call.Acknowledged store kept key w' report w'') ∧
      ∀ log, Course store kept key w calls log w' → ∀ given outcome elapsed left,
        call.Ran store key w' given outcome elapsed left →
        given = (Deed.lastSaved (kept w key) log).getD [] := by
  intro w'
  refine ⟨Course.exists_course store kept key calls w, fun call => ⟨?_, ?_⟩⟩
  · exact fun report w'' h => Call.acknowledged hstore h
  · intro log hcourse given outcome elapsed left hran
    rw [hran.given_eq hstore, hcourse.entry_eq hstore]

/-! ## Stores some of whose calls fail -/

namespace StateStore

variable [MonadStateOf StoreOutages (StateM ω)] {store : StateStore (StateM ω)}
  {kept : ω → String → Option Members}

/-- A call that is counted is made or fails. -/
theorem counted_cases
    (hcount : ∀ f w, kept ((modifyThe StoreOutages f : StateM ω Unit).run w).run.2 = kept w)
    (hread : ∀ w, ((getThe StoreOutages : StateM ω _).run w).run.2 = w) {α : Type}
    (count : StoreOutages → StoreOutages) (failures : StoreOutages → List (Nat × String))
    (number : StoreOutages → Nat) (call : StateM ω (Except TaskError α)) (w : ω) :
    let counted : StateM ω (Except TaskError α) := do
      modifyThe StoreOutages count
      let o ← getThe StoreOutages
      orFail (failures o) (number o) call
    ∃ w₁, kept w₁ = kept w ∧ ((counted.run w).run = (call.run w₁).run ∨
      ∃ message, (counted.run w).run = (.error (.state message), w₁)) := by
  intro counted
  refine ⟨_, hcount count w, ?_⟩
  obtain ⟨o, w', ho⟩ : ∃ o w', ((getThe StoreOutages : StateM ω _).run
      ((modifyThe StoreOutages count : StateM ω Unit).run w).run.2).run = (o, w') := ⟨_, _, rfl⟩
  have hsame := hread ((modifyThe StoreOutages count : StateM ω Unit).run w).run.2
  rw [ho] at hsame
  obtain rfl : w' = _ := hsame
  have hrun : (counted.run w).run = ((orFail (failures o) (number o) call).run
      ((modifyThe StoreOutages count : StateM ω Unit).run w).run.2).run := by
    dsimp only [counted]
    rw [StateT.run_bind, Id.run_bind, StateT.run_bind, Id.run_bind, ho]
  rw [hrun, orFail]
  cases (failures o).lookup (number o) with
  | none => exact .inl rfl
  | some message => exact .inr ⟨message, rfl⟩

/-- A store keeps what it says also if some of its calls fail, whichever they are. -/
theorem Keeps.failing
    (hcount : ∀ f w, kept ((modifyThe StoreOutages f : StateM ω Unit).run w).run.2 = kept w)
    (hread : ∀ w, ((getThe StoreOutages : StateM ω _).run w).run.2 = w) (h : store.Keeps kept) :
    store.failing.Keeps kept := by
  have hload (key : String) (w : ω) := counted_cases hcount hread
    (fun o => { o with loads := o.loads + 1 }) (·.load) (·.loads) (store.load key) w
  have hdeed (deed : Deed) (w : ω) : ∃ w₁, kept w₁ = kept w ∧
      (((deed.on store.failing).run w).run = ((deed.on store).run w₁).run ∨
        ∃ message, ((deed.on store.failing).run w).run = (.error (.state message), w₁)) := by
    cases deed with
    | save key state => exact counted_cases hcount hread _ _ _ (store.save key state) w
    | clear key => exact counted_cases hcount hread _ _ _ (store.clear key) w
  constructor
  case load =>
    intro key w w' answer hrun
    obtain ⟨w₁, hsame, hmade | ⟨message, hfails⟩⟩ := hload key w
    · rw [h.load (hmade.symm.trans hrun), hsame]
    · rw [← (Prod.mk.inj (hfails.symm.trans hrun)).2, hsame]
  case found =>
    intro key w w' found hrun
    obtain ⟨w₁, hsame, hmade | ⟨message, hfails⟩⟩ := hload key w
    · rw [h.found (hmade.symm.trans hrun), hsame]
    · cases (Prod.mk.inj (hfails.symm.trans hrun)).1
  case done =>
    intro deed w w' hrun
    obtain ⟨w₁, hsame, hmade | ⟨message, hfails⟩⟩ := hdeed deed w
    · rw [h.done (hmade.symm.trans hrun), hsame]
    · cases (Prod.mk.inj (hfails.symm.trans hrun)).1
  case refused =>
    intro deed w w' error hrun
    obtain ⟨w₁, hsame, hmade | ⟨message, hfails⟩⟩ := hdeed deed w
    · rw [h.refused (hmade.symm.trans hrun), hsame]
    · rw [← (Prod.mk.inj (hfails.symm.trans hrun)).2, hsame]

end StateStore

/-! ## A cabinet that jams -/

/-- Entries by key, and the calls that fail. -/
structure Cabinet where
  entries : String → Option Members := fun _ => none
  outages : StoreOutages := {}

namespace Cabinet

instance : MonadStateOf StoreOutages (StateM Cabinet) where
  get := fun cabinet => (cabinet.outages, cabinet)
  set outages := fun cabinet => ((), { cabinet with outages })
  modifyGet f := fun cabinet =>
    ((f cabinet.outages).1, { cabinet with outages := (f cabinet.outages).2 })

/-- The cabinet while nothing fails. -/
def sound : StateStore (StateM Cabinet) where
  load key := fun cabinet => (.ok (cabinet.entries key), cabinet)
  save key state := fun cabinet =>
    (.ok (), { cabinet with entries := Function.update cabinet.entries key (some state) })
  clear key := fun cabinet =>
    (.ok (), { cabinet with entries := Function.update cabinet.entries key none })

/-- The cabinet. -/
def store : StateStore (StateM Cabinet) := sound.failing

theorem sound_keeps : sound.Keeps entries where
  load h := congrArg (·.2.entries) h.symm
  found h := (Except.ok.inj (Prod.mk.inj h).1).symm
  done {deed} _ _ h := by cases deed <;> exact congrArg (·.2.entries) h.symm
  refused {deed} _ _ _ h := by cases deed <;> cases h

theorem store_keeps : store.Keeps entries := sound_keeps.failing (fun _ _ => rfl) fun _ => rfl

/-- A cabinet that jams at the second attempt to load, the second to save and the first to clear. -/
def jamming : Cabinet where
  outages := { load := [(2, "jam")], save := [(2, "jam")], clear := [(1, "jam")] }

/-- A call whose round counts and suspends the task. -/
def counting : Call Cabinet where
  task := fun _ state => return (.suspend .zero (state ++ [("n", .nat state.length)]), 0)

/-- A call whose round is done. -/
def finishing : Call Cabinet where
  task := fun _ state => return (.done (.obj state), 0)

/-- The cabinet after some calls. -/
def following (calls : List (Call Cabinet)) : Cabinet :=
  ((Call.steps calls store "t").run jamming).run.2

theorem counting_ran {w left : Cabinet} {found : Option Members}
    (h : ((store.load "t").run w).run = (.ok found, left)) : counting.Ran store "t" w (found.getD [])
      (.suspend .zero (found.getD [] ++ [("n", .nat (found.getD []).length)])) 0 left :=
  ⟨found, left, _, h, rfl, rfl, rfl⟩

theorem finishing_ran {w left : Cabinet} {found : Option Members}
    (h : ((store.load "t").run w).run = (.ok found, left)) :
    finishing.Ran store "t" w (found.getD []) (.done (.obj (found.getD []))) 0 left :=
  ⟨found, left, _, h, rfl, rfl, rfl⟩

/-- What the first call saves is not lost when the second one cannot load it, the third one cannot save
another state and the fourth one cannot clear it, so the fifth one is given it. -/
theorem persisted_before_acknowledged_jamming :
    (following [counting]).entries "t" = some [("n", .nat 0)] ∧
      (∀ report w', ((counting.step store "t").run (following [counting])).run = (report, w') →
        report = ⟨.failed (.state "jam"), 0, none⟩) ∧
      (∀ report w', ((counting.step store "t").run (following [counting, counting])).run =
          (report, w') →
        report = ⟨.failed (.state "Task state error: jam"), 0, some [("n", .nat 0)]⟩ ∧
          w'.entries = (following [counting, counting]).entries) ∧
      ∀ given outcome elapsed left, finishing.Ran store "t"
        (following [counting, counting, counting, finishing]) given outcome elapsed left →
        given = [("n", .nat 0)] := by
  have hcalls := persisted_before_acknowledged store_keeps "t" jamming
  have hfirst := counting_ran (w := jamming) rfl
  have hthird := counting_ran (w := following [counting, counting]) rfl
  have hfourth := finishing_ran (w := following [counting, counting, counting]) rfl
  refine ⟨?_, ?_, ?_, ?_⟩
  · exact ((((hcalls []).2 counting).1 _ _ rfl).suspended _ _ rfl).1
  · intro report w' h
    exact ((((hcalls [counting]).2 counting).1 _ _ h).unloaded _ _ rfl).1
  · intro report w' h
    obtain ⟨hreport, -, hentries⟩ :=
      (((hcalls [counting, counting]).2 counting).1 _ _ h).unkept _ _ _ _ _ _ hthird rfl
    exact ⟨hreport, hentries⟩
  · have hcourse : Course store entries "t" jamming [counting, counting, counting, finishing]
        [.save "t" [("n", .nat 0)]] (following [counting, counting, counting, finishing]) :=
      .cons (Call.does_of_spared hfirst rfl rfl) (.cons (.unloaded rfl)
        (.cons (Call.does_nothing hthird rfl rfl) (.cons (Call.does_nothing hfourth rfl rfl) (.nil _))))
    exact ((hcalls _).2 finishing).2 _ hcourse

end Cabinet

end RetrySafe.Task
