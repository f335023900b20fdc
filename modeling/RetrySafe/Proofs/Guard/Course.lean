import RetrySafe.Guard.Basic

/-!
# What an execution does

An execution under a strict guard calls primitives of its target and invokes the action. The target
here is any one with a state: each primitive may change the state as it likes, and succeed or fail
with any error. To see what an execution does, the target and the action are watched: every call is
noted with its answer, and nothing else is different. What the action does with the target is its
own business and not noted.

An execution takes one of a few courses, and the course settles the result.

## Main definitions

* `Act` — a call with its answer.
* `Watched`, `Target.watched` — a state with the acts so far, and a target whose calls are noted.
* `Guard.observed` — an execution with its acts.
* `LockedCourse`, `Course` — what is done after the transaction has begun, and in all.
* `Answers` — a target that always answers the same.

## Main results

* `observed_course` — an execution does the same whether it is watched or not, and takes a course.
* `Course.exists_answers` — every course is taken by some execution.
-/

namespace RetrySafe

open Time (Instant)

/-! ## Acts -/

/-- What an execution does, with the answer to it. -/
inductive Act
  | execute (statement : String) (answer : Except GuardError Nat)
  | start (answer : Except GuardError Unit)
  | commit (answer : Except GuardError Unit)
  | rollback (answer : Except GuardError Unit)
  | createTable (table : StatusTable) (answer : Except GuardError Unit)
  | register (table : StatusTable) (operation : String) (answer : Except GuardError Unit)
  | lock (table : StatusTable) (operation : String) (answer : Except GuardError (Option Instant))
  | mark (table : StatusTable) (operation : String) (answer : Except GuardError Unit)
  | purge (table : StatusTable) (cutoff : Instant) (answer : Except GuardError Nat)
  /-- The action is invoked. -/
  | action (answer : Except GuardError Unit)

/-- A state, and what has been done so far. -/
structure Watched (σ : Type) where
  state : σ
  acts : List Act := []

variable {σ α β : Type}

/-- Do something, and note it with its answer. -/
def noted (act : α → Act) (x : StateM σ α) : StateM (Watched σ) α := fun w =>
  let (answer, state) := (x.run w.state).run
  (answer, ⟨state, w.acts ++ [act answer]⟩)

/-- Do something that is not an act. -/
def unnoted (x : StateM σ α) : StateM (Watched σ) α := fun w =>
  let (answer, state) := (x.run w.state).run
  (answer, ⟨state, w.acts⟩)

instance [MonadWarn (StateM σ)] : MonadWarn (StateM (Watched σ)) where
  warn message := unnoted (warn message)

/-- A target whose calls are noted. -/
def Target.watched (target : Target (StateM σ)) : Target (StateM (Watched σ)) where
  capabilities := target.capabilities
  now := unnoted target.now
  execute statement := noted (.execute statement) (target.execute statement)
  start := noted .start target.start
  commit := noted .commit target.commit
  rollback := noted .rollback target.rollback
  createTable table := noted (.createTable table) (target.createTable table)
  register table operation := noted (.register table operation) (target.register table operation)
  lock table operation := noted (.lock table operation) (target.lock table operation)
  mark table operation := noted (.mark table operation) (target.mark table operation)
  purge table cutoff := noted (.purge table cutoff) (target.purge table cutoff)

/-! ## Watching -/

/-- From a state, a watched computation does what the other one does, with the same answer, and
something holds of its acts and of the answer. -/
def Shows (x' : StateM (Watched σ) α) (x : StateM σ α) (s : σ) (post : List Act → α → Prop) :
    Prop :=
  ∀ acts, ∃ more, (x'.run ⟨s, acts⟩).run = ((x.run s).run.1, ⟨(x.run s).run.2, acts ++ more⟩) ∧
    post more (x.run s).run.1

namespace Shows

variable {x : StateM σ α} {x' : StateM (Watched σ) α} {f : α → StateM σ β}
  {f' : α → StateM (Watched σ) β} {s : σ} {post : List Act → β → Prop}

theorem mono {post post' : List Act → α → Prop} (h : Shows x' x s post)
    (hpost : ∀ acts a, post acts a → post' acts a) : Shows x' x s post' := by
  intro acts
  obtain ⟨more, hrun, hmore⟩ := h acts
  exact ⟨more, hrun, hpost _ _ hmore⟩

theorem pure {b : β} (h : post [] b) : Shows (pure b) (pure b) s post := by
  intro acts
  refine ⟨[], ?_, h⟩
  rw [List.append_nil]
  rfl

theorem bind {mid : List Act → α → Prop} (h : Shows x' x s mid)
    (hnext : ∀ acts a s', (x.run s).run = (a, s') → mid acts a →
      Shows (f' a) (f a) s' fun more => post (acts ++ more)) :
    Shows (x' >>= f') (x >>= f) s post := by
  intro acts
  obtain ⟨first, hfirst, hmid⟩ := h acts
  obtain ⟨more, hmore, hpost⟩ := hnext first _ _ rfl hmid (acts ++ first)
  refine ⟨first ++ more, ?_, hpost⟩
  rw [StateT.run_bind, Id.run_bind, hfirst, ← List.append_assoc]
  exact hmore

/-- After an act, by what it was answered. -/
theorem noted {act : α → Act} (hnext : ∀ a s', (x.run s).run = (a, s') →
      Shows (f' a) (f a) s' fun more => post (act a :: more)) :
    Shows (noted act x >>= f') (x >>= f) s post := by
  have hact : Shows (RetrySafe.noted act x) x s fun acts a => acts = [act a] :=
    fun acts => ⟨_, rfl, rfl⟩
  refine hact.bind ?_
  rintro _ a s' hrun rfl
  exact hnext a s' hrun

theorem warn [MonadWarn (StateM σ)] {message : String} {post : List Act → Unit → Prop}
    (h : post [] ()) : Shows (warn message) (warn message) s post :=
  fun acts => ⟨[], by rw [List.append_nil]; rfl, h⟩

end Shows

/-! ## Courses -/

/-- What can be done after the transaction has begun, and what comes of it. -/
inductive LockedCourse (transactional : Bool) (table : StatusTable) (operation : String) :
    List Act → Except GuardError Execution → Prop
  | unlocked {error : GuardError} :
    LockedCourse transactional table operation [.lock table operation (.error error)] (.error error)
  | alreadyApplied {t : Instant} :
    LockedCourse transactional table operation [.lock table operation (.ok (some t))]
      (.ok .alreadyApplied)
  | failed {error : GuardError} :
    LockedCourse transactional table operation
      [.lock table operation (.ok none), .action (.error error)] (.error error.ofAction)
  | unmarked {error : GuardError} (htransactional : transactional = true) :
    LockedCourse transactional table operation
      [.lock table operation (.ok none), .action (.ok ()), .mark table operation (.error error)]
      (.error error)
  | unrecorded {error : GuardError} (htransactional : transactional = false) :
    LockedCourse transactional table operation
      [.lock table operation (.ok none), .action (.ok ()), .mark table operation (.error error)]
      (.error (.notRecorded operation error.message))
  | applied :
    LockedCourse transactional table operation
      [.lock table operation (.ok none), .action (.ok ()), .mark table operation (.ok ())]
      (.ok .applied)

/-- What can be done in an execution, and its result. The first index is what came of the part after
the transaction had begun, if it had. -/
inductive Course (transactional : Bool) (table : StatusTable) (operation : String) :
    Option (Except GuardError Execution) → List Act → Except GuardError Execution → Prop
  | unregistered {error : GuardError} :
    Course transactional table operation none [.register table operation (.error error)]
      (.error (error.namedFor operation))
  | unstarted {error : GuardError} :
    Course transactional table operation none
      [.register table operation (.ok ()), .start (.error error)]
      (.error (error.namedFor operation))
  | takenBack {acts : List Act} {error : GuardError} {answer : Except GuardError Unit}
      (hlocked : LockedCourse transactional table operation acts (.error error)) :
    Course transactional table operation (some (.error error))
      ([.register table operation (.ok ()), .start (.ok ())] ++ acts ++ [.rollback answer])
      (.error (error.namedFor operation))
  | committed {acts : List Act} {execution : Execution}
      (hlocked : LockedCourse transactional table operation acts (.ok execution)) :
    Course transactional table operation (some (.ok execution))
      ([.register table operation (.ok ()), .start (.ok ())] ++ acts ++ [.commit (.ok ())])
      (.ok execution)
  | uncommitted {acts : List Act} {execution : Execution} {error : GuardError}
      {answer : Except GuardError Unit}
      (hlocked : LockedCourse transactional table operation acts (.ok execution))
      (hlasting : ¬(execution = .applied ∧ transactional = false)) :
    Course transactional table operation (some (.ok execution))
      ([.register table operation (.ok ()), .start (.ok ())] ++ acts ++
        [.commit (.error error), .rollback answer])
      (.error (error.namedFor operation))
  | unrecorded {acts : List Act} {error : GuardError} {answer : Except GuardError Unit}
      (hlocked : LockedCourse transactional table operation acts (.ok .applied))
      (htransactional : transactional = false) :
    Course transactional table operation (some (.ok .applied))
      ([.register table operation (.ok ()), .start (.ok ())] ++ acts ++
        [.commit (.error error), .rollback answer])
      (.error (.notRecorded operation error.message))

/-! ## Executions -/

namespace Guard

variable [MonadWarn (StateM σ)] (target : Target (StateM σ)) (table : StatusTable)
  (operation : String) (action : StateM σ (Except GuardError Unit))

/-- An execution with its acts. -/
def observed (s : σ) : Except GuardError Execution × Watched σ :=
  ((executeStrict target.watched table operation (noted .action action)).run ⟨s, []⟩).run

/-- What comes of the part of an execution after the transaction has begun, if it has. -/
def lockedAnswer (s : σ) : Option (Except GuardError Execution) :=
  match ((target.register table operation).run s).run with
  | (.error _, _) => none
  | (.ok (), s) =>
    match (target.start.run s).run with
    | (.error _, _) => none
    | (.ok (), s) => some ((runLocked target table operation action).run s).run.1

variable {target table operation action} {s : σ}

theorem notRecorded_shows {cause : GuardError} :
    Shows (notRecorded operation cause) (notRecorded operation cause) s fun acts error =>
      acts = [] ∧ error = .notRecorded operation cause.message := by
  have hwarn : Shows (warn "Guarded action applied but its completion was not recorded")
      (warn "Guarded action applied but its completion was not recorded") s
      fun acts _ => acts = [] := .warn rfl
  apply hwarn.bind
  rintro _ _ s' - rfl
  exact .pure ⟨rfl, rfl⟩

theorem takeBack_shows (occasion : String) :
    Shows (takeBack target.watched occasion) (takeBack target occasion) s fun acts _ =>
      ∃ answer, acts = [.rollback answer] := by
  apply Shows.noted
  intro answer s' _
  cases answer with
  | ok => exact .pure ⟨_, rfl⟩
  | error error => exact .warn ⟨_, rfl⟩

theorem runLocked_shows :
    Shows (runLocked target.watched table operation (noted .action action))
      (runLocked target table operation action) s
      (LockedCourse target.capabilities.transactional table operation) := by
  apply Shows.noted
  intro completion s₁ _
  match completion with
  | .error error => exact .pure .unlocked
  | .ok (some t) => exact .pure .alreadyApplied
  | .ok none =>
    apply Shows.noted
    intro answer s₂ _
    cases answer with
    | error error => exact .pure .failed
    | ok =>
      apply Shows.noted
      intro marked s₃ _
      cases marked with
      | ok => exact .pure .applied
      | error error =>
        -- What could not be recorded is reported by whether the action can still be taken back.
        have hsame : target.watched.capabilities = target.capabilities := rfl
        dsimp only
        rw [hsame]
        split
        next htransactional => exact .pure (.unmarked htransactional)
        next htransactional =>
          apply notRecorded_shows.bind
          rintro _ _ s₄ - ⟨rfl, rfl⟩
          exact .pure (.unrecorded (Bool.eq_false_iff.mpr htransactional))

/-- The end of an execution after its transaction has begun. -/
theorem conclude_shows {execution : Execution} :
    Shows (conclude target.watched operation execution) (conclude target operation execution) s
      fun acts result => ∀ inner, LockedCourse target.capabilities.transactional table operation
          inner (.ok execution) →
        Course target.capabilities.transactional table operation (some (.ok execution))
          ([.register table operation (.ok ()), .start (.ok ())] ++ inner ++ acts) result := by
  apply Shows.noted
  intro committed s₁ _
  cases committed with
  | ok => exact .pure fun inner hlocked => .committed hlocked
  -- The rollback comes before anything is reported, whatever is.
  | error error =>
    apply (takeBack_shows "commit").bind
    rintro _ _ s₂ - ⟨answer, rfl⟩
    have hsame : target.watched.capabilities = target.capabilities := rfl
    rw [hsame]
    split
    next hlasting =>
      obtain ⟨rfl, htransactional⟩ := hlasting
      apply notRecorded_shows.bind
      rintro _ _ s₃ - ⟨rfl, rfl⟩
      exact .pure fun inner hlocked => .unrecorded hlocked (by simpa using htransactional)
    next hlasting =>
      exact .pure fun inner hlocked => .uncommitted hlocked (by simpa using hlasting)

theorem executeStrict_shows :
    Shows (executeStrict target.watched table operation (noted .action action))
      (executeStrict target table operation action) s
      (Course target.capabilities.transactional table operation
        (lockedAnswer target table operation action s)) := by
  apply Shows.noted
  intro registered s₁ hregister
  cases registered with
  | error error =>
    have hnone : lockedAnswer target table operation action s = none := by
      rw [lockedAnswer, hregister]
    rw [hnone]
    exact .pure .unregistered
  | ok =>
    apply Shows.noted
    intro started s₂ hstart
    cases started with
    | error error =>
      have hnone : lockedAnswer target table operation action s = none := by
        rw [lockedAnswer, hregister]
        dsimp only
        rw [hstart]
      rw [hnone]
      exact .pure .unstarted
    -- The transaction has begun; what comes of the rest decides how it ends.
    | ok =>
      apply runLocked_shows.bind
      intro inner answer s₃ hrun hlocked
      have hanswer : lockedAnswer target table operation action s = some answer := by
        rw [lockedAnswer, hregister]
        dsimp only
        rw [hstart]
        dsimp only
        rw [hrun]
      rw [hanswer]
      cases answer with
      | error error =>
        apply (takeBack_shows "guarded action").bind
        rintro _ _ s₄ - ⟨answer, rfl⟩
        exact .pure (.takenBack hlocked)
      | ok execution => exact conclude_shows.mono fun acts result hcourse => hcourse inner hlocked

/-- An execution has the same result and leaves the same state whether it is watched or not, and it
takes a course. -/
theorem observed_course (target : Target (StateM σ)) (table : StatusTable) (operation : String)
    (action : StateM σ (Except GuardError Unit)) (s : σ) :
    (observed target table operation action s).1 =
        ((executeStrict target table operation action).run s).run.1 ∧
      (observed target table operation action s).2.state =
        ((executeStrict target table operation action).run s).run.2 ∧
      Course target.capabilities.transactional table operation
        (lockedAnswer target table operation action s)
        (observed target table operation action s).2.acts
        (observed target table operation action s).1 := by
  have hshows : Shows (executeStrict target.watched table operation (noted .action action))
    (executeStrict target table operation action) s _ := executeStrict_shows
  obtain ⟨acts, hrun, hcourse⟩ := hshows []
  rw [observed, hrun]
  exact ⟨rfl, rfl, hcourse⟩

end Guard

/-! ## Every course is taken -/

/-- What the primitives of a target and the action answer. -/
structure Answers where
  register : Except GuardError Unit := .ok ()
  start : Except GuardError Unit := .ok ()
  lock : Except GuardError (Option Instant) := .ok none
  action : Except GuardError Unit := .ok ()
  mark : Except GuardError Unit := .ok ()
  commit : Except GuardError Unit := .ok ()
  rollback : Except GuardError Unit := .ok ()

/-- A target that keeps nothing but warnings, and always gives the same answers. -/
def Answers.target (answers : Answers) (transactional : Bool) : Target (StateM Journal) where
  capabilities := { transactional }
  now := pure (.ofSeconds 0)
  execute _ := pure (.ok 0)
  start := pure answers.start
  commit := pure answers.commit
  rollback := pure answers.rollback
  createTable _ := pure (.ok ())
  register _ _ := pure answers.register
  lock _ _ := pure answers.lock
  mark _ _ := pure answers.mark
  purge _ _ := pure (.ok 0)

/-- No primitive is called twice in an execution, so constant answers lead to each course. -/
theorem Course.exists_answers {transactional : Bool} {table : StatusTable} {operation : String}
    {locked : Option (Except GuardError Execution)} {acts : List Act}
    {result : Except GuardError Execution}
    (h : Course transactional table operation locked acts result) :
    ∃ answers : Answers, (Guard.observed (answers.target transactional) table operation
      (pure answers.action) {}).2.acts = acts := by
  cases h with
  | @unregistered error => exact ⟨{ register := .error error }, rfl⟩
  | @unstarted error => exact ⟨{ start := .error error }, rfl⟩
  | @takenBack _ error answer hlocked =>
    cases hlocked with
    | unlocked =>
      refine ⟨{ lock := .error error, rollback := answer }, ?_⟩
      cases answer <;> rfl
    | @failed error' =>
      refine ⟨{ action := .error error', rollback := answer }, ?_⟩
      cases answer <;> rfl
    | unmarked =>
      refine ⟨{ mark := .error error, rollback := answer }, ?_⟩
      cases transactional <;> cases answer <;> rfl
    | @unrecorded error' =>
      refine ⟨{ mark := .error error', rollback := answer }, ?_⟩
      cases transactional <;> cases answer <;> rfl
  | committed hlocked =>
    cases hlocked with
    | @alreadyApplied t => exact ⟨{ lock := .ok (some t) }, rfl⟩
    | applied => exact ⟨{}, rfl⟩
  | @uncommitted _ _ error answer hlocked =>
    cases hlocked with
    | @alreadyApplied t =>
      refine ⟨{ lock := .ok (some t), commit := .error error, rollback := answer }, ?_⟩
      cases answer <;> rfl
    | applied =>
      refine ⟨{ commit := .error error, rollback := answer }, ?_⟩
      cases transactional <;> cases answer <;> rfl
  | @unrecorded _ error answer hlocked =>
    cases hlocked with
    | applied =>
      refine ⟨{ commit := .error error, rollback := answer }, ?_⟩
      cases transactional <;> cases answer <;> rfl

end RetrySafe
