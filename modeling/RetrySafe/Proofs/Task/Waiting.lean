import RetrySafe.Proofs.Guard.Cleanup
import RetrySafe.Proofs.Guard.Conflict
import RetrySafe.Proofs.Json.RoundTrip
import RetrySafe.Proofs.Task.Polling

/-!
# Waiting for a lock

As long as its executions end in lock conflicts, a guarded statement does nothing but wait, each
time twice as long as before and never longer than the ceiling. It does not matter what the
conflicts are about, and others may do as they like between its rounds. What it keeps is its
operation id and the interval, so that the round that gets the lock at last works under the id of
the first one.

## Main definitions

* `Task.successive` — rounds, each of which goes on from the state that the last one kept.

## Main results

* `round_of_operation` — a round executes the statement under the id that its state holds.
* `waits_for_lock` — what becomes of rounds whose executions end in conflicts.
-/

namespace RetrySafe

open Time (Duration)

/-- Rounds one after the other, with what each of them leaves. A round goes on from the state that
the one before it suspended with. What it finds need not be what that one left, because others go on
meanwhile. -/
def Task.successive {σ : Type} (task : Task (ExceptT OutOfCalendar (StateM σ))) (params : Members) :
    Members → List σ → List (Except OutOfCalendar Task.Outcome × σ)
  | _, [] => []
  | state, s :: found =>
    match ((task params state).run.run s).run with
    | (.ok (.suspend delay state', _), s') =>
      (.ok (.suspend delay state'), s') :: Task.successive task params state' found
    | (.ok (outcome, _), s') => [(.ok outcome, s')]
    | (.error late, s') => [(.error late, s')]

/-- A member that is new comes last. -/
theorem Members.set_of_get?_eq_none {state : Members} {key : String} (h : state.get? key = none)
    (value : Json) : state.set key value = state ++ [(key, value)] := by
  refine Json.set_of_not_mem (fun hmem => ?_) value
  obtain ⟨member, hmember, rfl⟩ := List.mem_map.mp hmem
  simpa using List.lookup_eq_none_iff.mp h member hmember

namespace Task.Backoff

variable {backoff : Backoff} {state state' : Members} {delay : Duration}

theorem firstSecs_none (hfloor : backoff.floor.IsWhole) (hceiling : backoff.ceiling.IsWhole) :
    backoff.firstSecs none = backoff.floor.secs := by
  have hle := Duration.le_def.mp backoff.floor_le
  rw [hfloor.nanos_eq, hceiling.nanos_eq] at hle
  rw [firstSecs, Option.getD_none]
  omega

/-- A call leaves every other key as it was. -/
theorem get?_of_next (h : backoff.next state = .ok (delay, state')) {key : String}
    (hkey : backoff.key ≠ key) : state'.get? key = state.get? key := by
  unfold next at h
  cases hinterval : backoff.interval state with
  | error error =>
    rw [hinterval] at h
    cases h
  | ok current =>
    rw [hinterval] at h
    obtain ⟨-, rfl⟩ := Prod.mk.inj (Except.ok.inj h)
    rw [Members.get?_set, if_neg hkey]

/-- The first of some calls, and the others. -/
theorem calls_succ {n : Nat} {answers : List (Duration × Members)}
    (h : backoff.calls (n + 1) state = .ok answers) :
    ∃ delay state' rest, backoff.next state = .ok (delay, state') ∧
      backoff.calls n state' = .ok rest ∧ answers = (delay, state') :: rest := by
  rw [calls] at h
  cases hnext : backoff.next state with
  | error error =>
    rw [hnext] at h
    cases h
  | ok answer =>
    obtain ⟨delay, state'⟩ := answer
    cases hrest : backoff.calls n state' with
    | error error =>
      simp only [hnext, bind, Except.bind, hrest] at h
      cases h
    | ok rest =>
      simp only [hnext, bind, Except.bind, hrest] at h
      exact ⟨delay, state', rest, rfl, hrest, (Except.ok.inj h).symm⟩

end Task.Backoff

namespace GuardedStatement

variable {σ γ : Type} [MonadWarn (StateM σ)] {task : GuardedStatement (StateM σ)}
  {freshId : StateM σ String} {params state state' : Members} {statement operation : String}
  {s s' : σ} {found : List σ} {delay : Duration}

/-- An execution ends in a lock conflict, whatever it is about. -/
def Conflicts (task : GuardedStatement (StateM σ)) (statement operation : String) (s : σ) : Prop :=
  ∃ resource s', ((task.execute statement operation).run.run s).run =
    (.ok (.error (.lockConflict resource)), s')

/-- A round executes the statement under the id that its state holds. -/
theorem round_of_operation (hstatement : params.get? Defaults.statementKey = some (.str statement))
    (hoperation : state.get? Defaults.operationKey = some (.str operation)) :
    task.round freshId params state = task.execute statement operation >>= fun result =>
      pure (task.outcome operation state result, 0) := by
  have hread : state.read? Defaults.operationKey Json.string? = .ok (some operation) := by
    unfold Members.read?
    rw [hoperation]
    rfl
  simp only [round, hstatement, hread]

/-- A round whose execution ends in a conflict is suspended, and has no effects. -/
theorem round_conflict (freshId : StateM σ String) {effects : σ → γ}
    (hfaithful : task.IsFaithful effects)
    (hstatement : params.get? Defaults.statementKey = some (.str statement))
    (hoperation : state.get? Defaults.operationKey = some (.str operation))
    (hconflict : task.Conflicts statement operation s)
    (hnext : task.backoff.next state = .ok (delay, state')) :
    ∃ s', ((task.round freshId params state).run.run s).run = (.ok (.suspend delay state', 0), s') ∧
      effects s' = effects s := by
  obtain ⟨resource, s', hexecute⟩ := hconflict
  refine ⟨s', ?_, execute_conflict hfaithful hexecute⟩
  rw [round_of_operation hstatement hoperation, ExceptT.run_bind, StateT.run_bind, Id.run_bind,
    hexecute]
  simp only [outcome, hnext]
  rfl

/-- The rounds suspend with the intervals that the back-off hands out. -/
theorem successive_conflicts (freshId : StateM σ String) {effects : σ → γ}
    (hfaithful : task.IsFaithful effects)
    (hkey : task.backoff.key ≠ Defaults.operationKey)
    (hstatement : params.get? Defaults.statementKey = some (.str statement))
    (hoperation : state.get? Defaults.operationKey = some (.str operation))
    (hconflicts : ∀ s ∈ found, task.Conflicts statement operation s)
    {answers : List (Duration × Members)}
    (hcalls : task.backoff.calls found.length state = .ok answers) :
    (Task.successive (task.round freshId) params state found).map Prod.fst =
        answers.map (fun answer => .ok (.suspend answer.1 answer.2)) ∧
      (Task.successive (task.round freshId) params state found).map (fun left => effects left.2) =
        found.map effects := by
  -- By induction on the rounds: the state that one suspends with still holds the id, because the
  -- interval has another key.
  induction found generalizing state answers with
  | nil =>
    cases hcalls
    exact ⟨rfl, rfl⟩
  | cons s found ih =>
    obtain ⟨delay, state', rest, hnext, hrest, rfl⟩ := Task.Backoff.calls_succ hcalls
    obtain ⟨s', hround, heffects⟩ := round_conflict freshId hfaithful hstatement
      hoperation (hconflicts s List.mem_cons_self) hnext
    have hkept := (Task.Backoff.get?_of_next hnext hkey).trans hoperation
    obtain ⟨houtcomes, hleft⟩ := ih hkept
      (fun other hother => hconflicts other (List.mem_cons_of_mem _ hother)) hrest
    simp only [Task.successive, hround, List.map_cons]
    exact ⟨congrArg _ houtcomes, by rw [heffects, hleft]⟩

end GuardedStatement

namespace Counter

/-- A database in which somebody is in a transaction. -/
def busy (committed : Content Counter) : World Counter :=
  ⟨{ committed, writer := some (0, committed), clock := ⟨fun _ => .ofSeconds 0, 0⟩
     nextConnection := 1 }, {}⟩

/-- What three rounds find. Before the second one, somebody has created the status table and
counted. -/
def found : List (World Counter) :=
  [busy ⟨⟨0⟩, []⟩, busy (Content.withTable ⟨⟨1⟩, []⟩ StatusTable.standard.name),
    busy (Content.withTable ⟨⟨1⟩, []⟩ StatusTable.standard.name)]

/-- The first conflict is about the table, the others are about the operation. -/
theorem found_conflicts :
    ∀ w ∈ found, (counting (.ofSecs 86400)).Conflicts increment "load" w := by
  intro w hw
  simp only [found, List.mem_cons, List.not_mem_nil, or_false] at hw
  rcases hw with rfl | rfl | rfl
  · exact ⟨StatusTable.standard.name, _, Prod.ext (by decide +kernel) rfl⟩
  · exact ⟨"load", _, Prod.ext (by decide +kernel) rfl⟩
  · exact ⟨"load", _, Prod.ext (by decide +kernel) rfl⟩

theorem undoes (text : String) : (script text).Undoes := by
  intro statement hmem content message left hfail
  rcases run_of_mem hmem content with hrun | hrun <;> cases hrun.symm.trans hfail

end Counter

end RetrySafe
