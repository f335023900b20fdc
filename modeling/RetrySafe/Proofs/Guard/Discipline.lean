import RetrySafe.Proofs.Guard.Course

/-!
# The discipline of executions

However the primitives of a target answer, an execution invokes the action at most once, and only
inside a transaction, with the row of the operation locked and open. It records nothing but the
completion of an action that succeeded, and it does not leave its transaction behind. And whatever
fails, its result tells what became of the action.

## Main definitions

* `Act.IsPlaced` — an act has its place among the others.
* `leavesOpen` — whether a transaction is open after some acts.
* `IsDisciplined` — how the acts of an execution are ordered, and how they end.
* `IsTruthful` — what the result of an execution says of its acts.

## Main results

* `execution_isDisciplined` — the acts of an execution are in order, whatever the target answers.
* `execution_isTruthful` — the result of an execution is true.
-/

namespace RetrySafe

variable {σ : Type} {transactional : Bool} {table : StatusTable} {operation : String}
  {locked : Option (Except GuardError Execution)} {acts inner before after : List Act}
  {result answer : Except GuardError Execution} {error : GuardError}

/-! ## Acts in their places -/

namespace Act

/-- The action is invoked. -/
def isAction : Act → Bool
  | action _ => true
  | _ => false

/-- The transaction is to be committed. -/
def isCommit : Act → Bool
  | commit _ => true
  | _ => false

/-- Whether a transaction is open after an act, if that is known of the time before it. -/
def leavesOpen (isOpen : Bool) : Act → Bool
  | start (.ok ()) => true
  | commit (.ok ()) => false
  | rollback (.ok ()) => false
  | _ => isOpen

/-- An act has its place. The action comes right after the row was registered, a transaction was
begun, and the row was locked and found open. The completion is recorded right after an action that
succeeded. Where the row could not be registered or the transaction not begun, nothing follows. -/
def IsPlaced (table : StatusTable) (operation : String) (before after : List Act) : Act → Prop
  | action _ =>
    before = [register table operation (.ok ()), start (.ok ()), lock table operation (.ok none)]
  | mark table' operation' _ =>
    table' = table ∧ operation' = operation ∧ ∃ earlier, before = earlier ++ [action (.ok ())]
  | register _ _ (.error _) => after = []
  | start (.error _) => after = []
  | _ => True

end Act

/-- Whether a transaction is open after some acts, when none is before. -/
def leavesOpen (acts : List Act) : Bool := acts.foldl Act.leavesOpen false

/-- Each act has its place, with some acts before all of them. -/
def ArePlaced (table : StatusTable) (operation : String) : List Act → List Act → Prop
  | _, [] => True
  | before, act :: acts =>
    act.IsPlaced table operation before acts ∧ ArePlaced table operation (before ++ [act]) acts

theorem ArePlaced.isPlaced {earlier : List Act} {act : Act}
    (h : ArePlaced table operation earlier (before ++ act :: after)) :
    act.IsPlaced table operation (earlier ++ before) after := by
  induction before generalizing earlier with
  | nil =>
    rw [List.append_nil]
    exact h.1
  | cons first before ih =>
    have hrest := ih h.2
    rwa [List.append_assoc] at hrest

/-! ## The order of acts -/

/-- How the acts of an execution are ordered, and how they end: each has its place, and the action
is invoked at most once. Once the transaction has begun, the last thing done is to commit it with
success or to roll it back; it is committed, or that is tried, exactly if all went well before. So
the transaction is open in the end only if it could not be rolled back. -/
structure IsDisciplined (table : StatusTable) (operation : String)
    (locked : Option (Except GuardError Execution)) (acts : List Act) : Prop where
  placed : ∀ before act after, acts = before ++ act :: after →
    act.IsPlaced table operation before after
  once : acts.countP Act.isAction ≤ 1
  ends : .start (.ok ()) ∈ acts → ∃ before, acts = before ++ [.commit (.ok ())] ∨
    ∃ answer, acts = before ++ [.rollback answer]
  commits : acts.countP Act.isCommit = if locked.any Except.isOk then 1 else 0
  closes : (∀ error, .rollback (.error error) ∉ acts) → leavesOpen acts = false

namespace LockedCourse

theorem arePlaced (h : LockedCourse transactional table operation inner answer) {rest : List Act}
    (hrest : ∀ before, ArePlaced table operation before rest) :
    ArePlaced table operation [.register table operation (.ok ()), .start (.ok ())]
      (inner ++ rest) := by
  cases h with
  | unlocked => exact ⟨trivial, hrest _⟩
  | alreadyApplied => exact ⟨trivial, hrest _⟩
  | failed => exact ⟨trivial, rfl, hrest _⟩
  | unmarked => exact ⟨trivial, rfl, ⟨rfl, rfl, _, rfl⟩, hrest _⟩
  | unrecorded => exact ⟨trivial, rfl, ⟨rfl, rfl, _, rfl⟩, hrest _⟩
  | applied => exact ⟨trivial, rfl, ⟨rfl, rfl, _, rfl⟩, hrest _⟩

theorem countP_isAction_le (h : LockedCourse transactional table operation inner answer) :
    inner.countP Act.isAction ≤ 1 := by
  cases h <;> simp [Act.isAction, List.countP_cons]

theorem countP_isCommit (h : LockedCourse transactional table operation inner answer) :
    inner.countP Act.isCommit = 0 := by
  cases h <;> rfl

end LockedCourse

namespace Course

theorem arePlaced (h : Course transactional table operation locked acts result) :
    ArePlaced table operation [] acts := by
  cases h with
  | unregistered => exact ⟨rfl, trivial⟩
  | unstarted => exact ⟨trivial, rfl, trivial⟩
  | takenBack hlocked =>
    exact ⟨trivial, trivial, hlocked.arePlaced fun _ => ⟨trivial, trivial⟩⟩
  | committed hlocked =>
    exact ⟨trivial, trivial, hlocked.arePlaced fun _ => ⟨trivial, trivial⟩⟩
  | uncommitted hlocked =>
    exact ⟨trivial, trivial, hlocked.arePlaced fun _ => ⟨trivial, trivial, trivial⟩⟩
  | unrecorded hlocked =>
    exact ⟨trivial, trivial, hlocked.arePlaced fun _ => ⟨trivial, trivial, trivial⟩⟩

theorem countP_isAction_le (h : Course transactional table operation locked acts result) :
    acts.countP Act.isAction ≤ 1 := by
  cases h with
  | unregistered => exact Nat.zero_le 1
  | unstarted => exact Nat.zero_le 1
  | takenBack hlocked => simpa [Act.isAction, List.countP_cons] using hlocked.countP_isAction_le
  | committed hlocked => simpa [Act.isAction, List.countP_cons] using hlocked.countP_isAction_le
  | uncommitted hlocked => simpa [Act.isAction, List.countP_cons] using hlocked.countP_isAction_le
  | unrecorded hlocked => simpa [Act.isAction, List.countP_cons] using hlocked.countP_isAction_le

theorem ends (h : Course transactional table operation locked acts result)
    (hstarted : .start (.ok ()) ∈ acts) : ∃ before, acts = before ++ [.commit (.ok ())] ∨
      ∃ answer, acts = before ++ [.rollback answer] := by
  cases h with
  | unregistered => simp at hstarted
  | unstarted => simp at hstarted
  | takenBack hlocked => exact ⟨_, .inr ⟨_, rfl⟩⟩
  | committed hlocked => exact ⟨_, .inl rfl⟩
  | uncommitted hlocked => exact ⟨_, .inr ⟨_, List.append_cons _ _ _⟩⟩
  | unrecorded hlocked => exact ⟨_, .inr ⟨_, List.append_cons _ _ _⟩⟩

theorem countP_isCommit (h : Course transactional table operation locked acts result) :
    acts.countP Act.isCommit = if locked.any Except.isOk then 1 else 0 := by
  cases h with
  | unregistered => rfl
  | unstarted => rfl
  | takenBack hlocked =>
    simp [Act.isCommit, hlocked.countP_isCommit, Except.isOk, Except.toBool]
  -- In the other three all went well before, and there is one commit, behind the locked part.
  | committed hlocked =>
    simp [Act.isCommit, List.countP_cons, hlocked.countP_isCommit, Except.isOk, Except.toBool]
  | uncommitted hlocked =>
    simp [Act.isCommit, List.countP_cons, hlocked.countP_isCommit, Except.isOk, Except.toBool]
  | unrecorded hlocked =>
    simp [Act.isCommit, List.countP_cons, hlocked.countP_isCommit, Except.isOk, Except.toBool]

theorem leavesOpen_eq (h : Course transactional table operation locked acts result)
    (hrollback : ∀ error, .rollback (.error error) ∉ acts) : leavesOpen acts = false := by
  -- A rollback that does not fail closes the transaction, whatever came before it.
  have hclosed (before : List Act) (answer : Except GuardError Unit)
      (hno : ∀ error, .rollback (.error error) ∉ before ++ [.rollback answer]) :
      leavesOpen (before ++ [.rollback answer]) = false := by
    cases answer with
    | error error => exact absurd List.mem_concat_self (hno error)
    | ok => simp [leavesOpen, Act.leavesOpen]
  cases h with
  | unregistered => rfl
  | unstarted => rfl
  | takenBack hlocked => exact hclosed _ _ hrollback
  | committed hlocked => simp [leavesOpen, Act.leavesOpen]
  | uncommitted hlocked =>
    rw [List.append_cons] at hrollback ⊢
    exact hclosed _ _ hrollback
  | unrecorded hlocked =>
    rw [List.append_cons] at hrollback ⊢
    exact hclosed _ _ hrollback

theorem isDisciplined (h : Course transactional table operation locked acts result) :
    IsDisciplined table operation locked acts where
  placed before act after hacts := by
    have hplaced := h.arePlaced
    rw [hacts] at hplaced
    exact hplaced.isPlaced
  once := h.countP_isAction_le
  ends := h.ends
  commits := h.countP_isCommit
  closes := h.leavesOpen_eq

end Course

/-- **Discipline.** However the primitives of a target and the action answer, an execution does the
same whether it is watched or not, and its acts are in order. -/
theorem execution_isDisciplined [MonadWarn (StateM σ)] (target : Target (StateM σ))
    (table : StatusTable) (operation : String) (action : StateM σ (Except GuardError Unit))
    (s : σ) :
    (Guard.observed target table operation action s).1 =
        ((Guard.executeStrict target table operation action).run s).run.1 ∧
      (Guard.observed target table operation action s).2.state =
        ((Guard.executeStrict target table operation action).run s).run.2 ∧
      IsDisciplined table operation (Guard.lockedAnswer target table operation action s)
        (Guard.observed target table operation action s).2.acts := by
  obtain ⟨hresult, hstate, hcourse⟩ := Guard.observed_course target table operation action s
  exact ⟨hresult, hstate, hcourse.isDisciplined⟩

/-! ## The truth of results -/

/-- What the result of an execution says of its acts.

The action was applied, or an earlier one, exactly if the result says so. A lock conflict is one on
the operation. An action that failed is reported as such, unless it met a lock conflict. Where the
target cannot take back what the action did, a success of the action is never reported as something
to try again: it was applied, or applied without being recorded. Where it can, that is tried.
Anything else that fails is reported as it is. -/
structure IsTruthful (transactional : Bool) (table : StatusTable) (operation : String)
    (acts : List Act) (result : Except GuardError Execution) : Prop where
  applied : result = .ok .applied ↔ .action (.ok ()) ∈ acts ∧
    .mark table operation (.ok ()) ∈ acts ∧ .commit (.ok ()) ∈ acts
  alreadyApplied : result = .ok .alreadyApplied ↔
    (∃ t, .lock table operation (.ok (some t)) ∈ acts) ∧ .commit (.ok ()) ∈ acts
  conflict : ∀ resource, result = .error (.lockConflict resource) → resource = operation
  failed : ∀ error, .action (.error error) ∈ acts →
    result = .error
      (if error.isLockConflict then .lockConflict operation else .action error.message)
  unrecorded : transactional = false → .action (.ok ()) ∈ acts → ∀ error,
    .mark table operation (.error error) ∈ acts ∨ .commit (.error error) ∈ acts →
      result = .error (.notRecorded operation error.message)
  lasting : transactional = false → .action (.ok ()) ∈ acts →
    ∀ resource, result ≠ .error (.lockConflict resource)
  takenBack : transactional = true → ∀ error,
    .mark table operation (.error error) ∈ acts ∨ .commit (.error error) ∈ acts →
      result = .error (error.namedFor operation) ∧ ∃ answer, .rollback answer ∈ acts
  unreached : .action (.ok ()) ∉ acts → ∀ error,
    .register table operation (.error error) ∈ acts ∨ .start (.error error) ∈ acts ∨
        .lock table operation (.error error) ∈ acts ∨ .commit (.error error) ∈ acts →
      result = .error (error.namedFor operation)

theorem GuardError.namedFor_ofAction (error : GuardError) : error.ofAction.namedFor operation =
    if error.isLockConflict then .lockConflict operation else .action error.message := by
  cases error <;> rfl

theorem GuardError.eq_of_namedFor {resource : String}
    (h : error.namedFor operation = .lockConflict resource) : resource = operation := by
  cases error with
  | lockConflict other => exact (GuardError.lockConflict.inj h).symm
  | database message => cases h
  | action reason => cases h
  | notRecorded other reason => cases h
  | invalidTable name => cases h

namespace LockedCourse

theorem applied_iff (h : LockedCourse transactional table operation inner answer) :
    answer = .ok .applied ↔
      .action (.ok ()) ∈ inner ∧ .mark table operation (.ok ()) ∈ inner := by
  cases h <;> simp

theorem alreadyApplied_iff (h : LockedCourse transactional table operation inner answer) :
    answer = .ok .alreadyApplied ↔ ∃ t, .lock table operation (.ok (some t)) ∈ inner := by
  cases h <;> simp

theorem of_action_error (h : LockedCourse transactional table operation inner answer)
    (herror : .action (.error error) ∈ inner) : answer = .error error.ofAction := by
  cases h <;> simp_all

theorem of_lock_error (h : LockedCourse transactional table operation inner answer)
    (herror : .lock table operation (.error error) ∈ inner) : answer = .error error := by
  cases h <;> simp_all

theorem of_mark_error (h : LockedCourse transactional table operation inner answer)
    (herror : .mark table operation (.error error) ∈ inner) :
    answer = .error (if transactional then error else .notRecorded operation error.message) := by
  cases h <;> simp_all

theorem of_acted (h : LockedCourse transactional table operation inner answer)
    (hacted : .action (.ok ()) ∈ inner) (htransactional : transactional = false) :
    answer = .ok .applied ∨ ∃ reason, answer = .error (.notRecorded operation reason) := by
  cases h <;> simp_all

theorem register_notMem (h : LockedCourse transactional table operation inner answer)
    (registered : Except GuardError Unit) : .register table operation registered ∉ inner := by
  cases h <;> simp

theorem start_notMem (h : LockedCourse transactional table operation inner answer)
    (started : Except GuardError Unit) : .start started ∉ inner := by
  cases h <;> simp

theorem commit_notMem (h : LockedCourse transactional table operation inner answer)
    (committed : Except GuardError Unit) : .commit committed ∉ inner := by
  cases h <;> simp

/-- The only commit is the one at the end. -/
theorem commit_error_eq (h : LockedCourse transactional table operation inner answer)
    {error' : GuardError} {ended : Except GuardError Unit}
    (hcommit : .commit (.error error) ∈ [.register table operation (.ok ()), .start (.ok ())] ++
      inner ++ [.commit (.error error'), .rollback ended]) : error = error' := by
  simpa [h.commit_notMem] using hcommit

end LockedCourse

namespace Course

theorem applied_iff (h : Course transactional table operation locked acts result) :
    result = .ok .applied ↔ .action (.ok ()) ∈ acts ∧ .mark table operation (.ok ()) ∈ acts ∧
      .commit (.ok ()) ∈ acts := by
  cases h with
  | unregistered => simp
  | unstarted => simp
  | takenBack hlocked => simp [hlocked.commit_notMem]
  | committed hlocked => simp [hlocked.applied_iff]
  | uncommitted hlocked => simp [hlocked.commit_notMem]
  | unrecorded hlocked => simp [hlocked.commit_notMem]

theorem alreadyApplied_iff (h : Course transactional table operation locked acts result) :
    result = .ok .alreadyApplied ↔
      (∃ t, .lock table operation (.ok (some t)) ∈ acts) ∧ .commit (.ok ()) ∈ acts := by
  cases h with
  | unregistered => simp
  | unstarted => simp
  | takenBack hlocked => simp [hlocked.commit_notMem]
  | committed hlocked => simp [hlocked.alreadyApplied_iff]
  | uncommitted hlocked => simp [hlocked.commit_notMem]
  | unrecorded hlocked => simp [hlocked.commit_notMem]

theorem conflict (h : Course transactional table operation locked acts result) {resource : String}
    (hresult : result = .error (.lockConflict resource)) : resource = operation := by
  cases h with
  | unregistered => exact GuardError.eq_of_namedFor (Except.error.inj hresult)
  | unstarted => exact GuardError.eq_of_namedFor (Except.error.inj hresult)
  | takenBack hlocked => exact GuardError.eq_of_namedFor (Except.error.inj hresult)
  | committed hlocked => cases hresult
  | uncommitted hlocked => exact GuardError.eq_of_namedFor (Except.error.inj hresult)
  | unrecorded hlocked => cases hresult

theorem of_action_error (h : Course transactional table operation locked acts result)
    (herror : .action (.error error) ∈ acts) : result = .error (if error.isLockConflict then
      .lockConflict operation else .action error.message) := by
  cases h with
  | unregistered => simp at herror
  | unstarted => simp at herror
  | takenBack hlocked =>
    have hfailed := hlocked.of_action_error (by simpa using herror)
    rw [Except.error.inj hfailed, GuardError.namedFor_ofAction]
  -- An action that fails keeps the execution from being committed.
  | committed hlocked => cases hlocked.of_action_error (by simpa using herror)
  | uncommitted hlocked => cases hlocked.of_action_error (by simpa using herror)
  | unrecorded hlocked => cases hlocked.of_action_error (by simpa using herror)

theorem of_unrecorded (h : Course transactional table operation locked acts result)
    (htransactional : transactional = false) (hacted : .action (.ok ()) ∈ acts)
    (herror : .mark table operation (.error error) ∈ acts ∨ .commit (.error error) ∈ acts) :
    result = .error (.notRecorded operation error.message) := by
  subst htransactional
  cases h with
  | unregistered => simp at hacted
  | unstarted => simp at hacted
  | takenBack hlocked =>
    have hmark := hlocked.of_mark_error (by simpa [hlocked.commit_notMem] using herror)
    rw [Except.error.inj hmark]
    rfl
  | committed hlocked => cases hlocked.of_mark_error (by simpa [hlocked.commit_notMem] using herror)
  | uncommitted hlocked hlasting =>
    obtain happlied | ⟨reason, hreason⟩ := hlocked.of_acted (by simpa using hacted) rfl
    · exact absurd ⟨Except.ok.inj happlied, rfl⟩ hlasting
    · cases hreason
  -- The completion was recorded, so it was the commit that failed.
  | unrecorded hlocked =>
    obtain hmark | hcommit := herror
    · cases hlocked.of_mark_error (by simpa using hmark)
    · rw [hlocked.commit_error_eq hcommit]

theorem of_lasting (h : Course transactional table operation locked acts result)
    (htransactional : transactional = false) (hacted : .action (.ok ()) ∈ acts)
    (resource : String) : result ≠ .error (.lockConflict resource) := by
  intro hresult
  cases h with
  | unregistered => simp at hacted
  | unstarted => simp at hacted
  -- Where the action cannot be taken back, only a failure to record it comes after its success.
  | takenBack hlocked =>
    obtain happlied | ⟨reason, hreason⟩ := hlocked.of_acted (by simpa using hacted) htransactional
    · cases happlied
    · rw [Except.error.inj hreason] at hresult
      cases hresult
  | committed hlocked => cases hresult
  | uncommitted hlocked hlasting =>
    obtain happlied | ⟨reason, hreason⟩ := hlocked.of_acted (by simpa using hacted) htransactional
    · exact hlasting ⟨Except.ok.inj happlied, htransactional⟩
    · cases hreason
  | unrecorded hlocked => cases hresult

theorem of_takenBack (h : Course transactional table operation locked acts result)
    (htransactional : transactional = true)
    (herror : .mark table operation (.error error) ∈ acts ∨ .commit (.error error) ∈ acts) :
    result = .error (error.namedFor operation) ∧ ∃ answer, .rollback answer ∈ acts := by
  subst htransactional
  cases h with
  | unregistered => simp at herror
  | unstarted => simp at herror
  | @takenBack _ _ answer hlocked =>
    have hmark := hlocked.of_mark_error (by simpa [hlocked.commit_notMem] using herror)
    rw [Except.error.inj hmark]
    exact ⟨rfl, answer, by simp⟩
  | committed hlocked => cases hlocked.of_mark_error (by simpa [hlocked.commit_notMem] using herror)
  | @uncommitted _ _ _ answer hlocked =>
    obtain hmark | hcommit := herror
    · cases hlocked.of_mark_error (by simpa using hmark)
    · rw [hlocked.commit_error_eq hcommit]
      exact ⟨rfl, answer, by simp⟩
  | unrecorded hlocked htransactional => cases htransactional

theorem of_unreached (h : Course transactional table operation locked acts result)
    (hacted : .action (.ok ()) ∉ acts)
    (herror : .register table operation (.error error) ∈ acts ∨ .start (.error error) ∈ acts ∨
      .lock table operation (.error error) ∈ acts ∨ .commit (.error error) ∈ acts) :
    result = .error (error.namedFor operation) := by
  cases h with
  | @unregistered error' =>
    have heq : error = error' := by simpa using herror
    rw [heq]
  | @unstarted error' =>
    have heq : error = error' := by simpa using herror
    rw [heq]
  | takenBack hlocked =>
    have hlock := hlocked.of_lock_error (by
      simpa [hlocked.register_notMem, hlocked.start_notMem, hlocked.commit_notMem] using herror)
    rw [Except.error.inj hlock]
  | committed hlocked =>
    cases hlocked.of_lock_error (by
      simpa [hlocked.register_notMem, hlocked.start_notMem, hlocked.commit_notMem] using herror)
  | uncommitted hlocked =>
    obtain hregister | hstart | hlock | hcommit := herror
    · simp [hlocked.register_notMem] at hregister
    · simp [hlocked.start_notMem] at hstart
    · cases hlocked.of_lock_error (by simpa using hlock)
    · rw [hlocked.commit_error_eq hcommit]
  -- Nothing is left unrecorded but an action that succeeded.
  | unrecorded hlocked => exact absurd (by simp [(hlocked.applied_iff.mp rfl).1]) hacted

theorem isTruthful (h : Course transactional table operation locked acts result) :
    IsTruthful transactional table operation acts result where
  applied := h.applied_iff
  alreadyApplied := h.alreadyApplied_iff
  conflict _ := h.conflict
  failed _ := h.of_action_error
  unrecorded htransactional hacted _ := h.of_unrecorded htransactional hacted
  lasting := h.of_lasting
  takenBack htransactional _ := h.of_takenBack htransactional
  unreached hacted _ := h.of_unreached hacted

end Course

/-- **Truth.** However the primitives of a target and the action answer, an execution does the same
whether it is watched or not, and its result tells what became of the action. -/
theorem execution_isTruthful [MonadWarn (StateM σ)] (target : Target (StateM σ))
    (table : StatusTable) (operation : String) (action : StateM σ (Except GuardError Unit))
    (s : σ) :
    (Guard.observed target table operation action s).1 =
        ((Guard.executeStrict target table operation action).run s).run.1 ∧
      (Guard.observed target table operation action s).2.state =
        ((Guard.executeStrict target table operation action).run s).run.2 ∧
      IsTruthful target.capabilities.transactional table operation
        (Guard.observed target table operation action s).2.acts
        ((Guard.executeStrict target table operation action).run s).run.1 := by
  obtain ⟨hresult, hstate, hcourse⟩ := Guard.observed_course target table operation action s
  refine ⟨hresult, hstate, ?_⟩
  rw [← hresult]
  exact hcourse.isTruthful

end RetrySafe
