import RetrySafe.Task.Runner

/-!
# How runs go on

A run works on a state of which nothing is known but what its store, its task and its warnings do
to it. Before each round it may be cancelled, or have had all its rounds; otherwise it does a round,
and there is one equation for each of these. What these keep, a whole run keeps.

## Main results

* `runFrom_cancelled`, `runFrom_spent`, `runFrom_step` — how a run goes on.
* `runFrom_preserves` — what rounds, warnings and giving up keep.
-/

namespace RetrySafe.Task.Runner

/-- A task has had all its rounds, or may have another one. -/
theorem spent_or_more {m : Type → Type} (runner : Runner m) (rounds : Nat) :
    (∃ limit, runner.maxRounds = some limit ∧ limit ≤ rounds) ∨
      ∀ limit, runner.maxRounds = some limit → rounds < limit := by
  by_cases hspent : ∃ limit, runner.maxRounds = some limit ∧ limit ≤ rounds
  · exact .inl hspent
  · exact .inr fun limit hlimit => Nat.lt_of_not_le fun hle => hspent ⟨limit, hlimit, hle⟩

variable {ω : Type} [MonadWarn (StateM ω)] {runner : Runner (StateM ω)} {key : String}
  {task : Task (StateM ω)} {params : Members} {cancel : Option Nat} {fuel rounds now : Nat}
  {begun : List Begun} {s s' : ω}

theorem runFrom_cancelled (hcancel : cancelledBy cancel now = true) :
    ((runner.runFrom key task params cancel (fuel + 1) rounds now begun).run s).run =
      (some ⟨.cancelled, rounds, now, begun⟩, s) := by
  unfold runFrom
  rw [if_pos hcancel]
  rfl

/-- A task that has had all its rounds is given up. -/
theorem runFrom_spent (hcancel : cancelledBy cancel now = false) {limit : Nat}
    (hlimit : runner.maxRounds = some limit) (hspent : limit ≤ rounds) :
    ((runner.runFrom key task params cancel (fuel + 1) rounds now begun).run s).run =
      (some ⟨.failed (.roundLimit limit), rounds, now, begun⟩,
        ((runner.giveUp key).run s).run.2) := by
  unfold runFrom
  rw [if_neg (Bool.eq_false_iff.mp hcancel), hlimit]
  dsimp only
  rw [if_pos hspent]
  rfl

/-- A round ends the run, or suspends the task; then the run waits, and goes on unless it is
cancelled meanwhile. -/
theorem runFrom_step (fuel : Nat) (begun : List Begun) (hcancel : cancelledBy cancel now = false)
    (hmore : ∀ limit, runner.maxRounds = some limit → rounds < limit) {round : StepReport}
    (hround : ((runner.step key task params).run s).run = (round, s')) :
    ((runner.runFrom key task params cancel (fuel + 1) rounds now begun).run s).run =
      match round.outcome with
      | .done result =>
        (some ⟨.completed result, rounds + 1, now + round.elapsed,
          begun ++ (round.given.map (Begun.mk now)).toList⟩, s')
      | .failed error =>
        (some ⟨.failed error, rounds + 1, now + round.elapsed,
          begun ++ (round.given.map (Begun.mk now)).toList⟩,
          ((warn "Task failed" : StateM ω Unit).run s').run.2)
      | .suspend delay _ =>
        if cancelledBy cancel (now + round.elapsed + delay.timer) then
          (some ⟨.cancelled, rounds + 1,
            max (now + round.elapsed) (cancel.getD (now + round.elapsed)),
            begun ++ (round.given.map (Begun.mk now)).toList⟩, s')
        else
          ((runner.runFrom key task params cancel fuel (rounds + 1)
            (now + round.elapsed + delay.timer)
            (begun ++ (round.given.map (Begun.mk now)).toList)).run s').run := by
  rw [runFrom, if_neg (Bool.eq_false_iff.mp hcancel)]
  cases hlimit : runner.maxRounds
  case' none => dsimp only
  case' some limit =>
    dsimp only
    rw [if_neg (Nat.not_le.mpr (hmore limit hlimit))]
  -- What is left is the same with and without a limit.
  all_goals
    rw [StateT.run_bind, Id.run_bind, hround]
    dsimp only
    cases round.outcome with
    | done result => rfl
    | failed error => rfl
    | suspend delay state =>
      dsimp only
      split <;> rfl

/-- What rounds, warnings and giving up keep is kept by a run. -/
theorem runFrom_preserves {P : ω → Prop}
    (hstep : ∀ s, P s → P ((runner.step key task params).run s).run.2)
    (hgiveUp : ∀ s, P s → P ((runner.giveUp key).run s).run.2)
    (hwarn : ∀ s, P s → P ((warn "Task failed" : StateM ω Unit).run s).run.2)
    (fuel rounds now : Nat) (begun : List Begun) (hs : P s) :
    P ((runner.runFrom key task params cancel fuel rounds now begun).run s).run.2 := by
  -- By induction on the rounds that are left at most.
  induction fuel generalizing rounds now begun s with
  | zero => exact hs
  | succ fuel ih =>
    cases hcancel : cancelledBy cancel now with
    | true => rwa [runFrom_cancelled hcancel]
    | false =>
      obtain ⟨limit, hlimit, hle⟩ | hmore := spent_or_more runner rounds
      · rw [runFrom_spent hcancel hlimit hle]
        exact hgiveUp s hs
      · have hnext := hstep s hs
        obtain ⟨round, s', hround⟩ : ∃ round s',
          ((runner.step key task params).run s).run = (round, s') := ⟨_, _, rfl⟩
        rw [hround] at hnext
        rw [runFrom_step fuel begun hcancel hmore hround]
        cases round.outcome with
        | done result => exact hnext
        | failed error => exact hwarn s' hnext
        | suspend delay state =>
          dsimp only
          split
          · exact hnext
          · exact ih _ _ _ hnext

end RetrySafe.Task.Runner
