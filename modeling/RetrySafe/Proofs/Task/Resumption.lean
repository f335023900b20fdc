import RetrySafe.Proofs.Task.Job

/-!
# Cancelling and resuming

A run that is cancelled leaves in the store what the next run of the job has to go on with. So a job
without limits can be cancelled at any instant and resumed as often as one likes: its rounds are given
the same states as in one run, it ends in the same way, and it leaves the same store.

## Main definitions

* `Remains` — what is left to do of a job.
* `Does` — what a run does of it.
* `Job.resumed` — runs of a job, one after the other, until one is not cancelled.

## Main results

* `remains_of_runFrom` — what a run that is not cancelled does was left to do.
* `Remains.runFrom` — any run does this, or a part of it and leaves the rest.
* `resumed_eq_run` — runs that are cancelled and resumed do together what one run does.
-/

namespace RetrySafe.Task

open Runner (cancelledBy)

/-- What is left to do of a job: the states that its rounds are given, the number of rounds, the ending
and the store in the end. -/
inductive Remains (job : Job) : Shelf → List Members → Nat → Ending → Shelf → Prop
  | unreadable {shelf : Shelf} {error : TaskError} (hload : shelf.load job.key = .error error) :
      Remains job shelf [] 1 (.failed error) shelf
  | completed {shelf : Shelf} {stored : Option Members} {result : Json}
      (hload : shelf.load job.key = .ok stored)
      (hdone : job.decide job.params (stored.getD []) = .done result) :
      Remains job shelf [stored.getD []] 1 (.completed result) (shelf.clear job.key)
  | failed {shelf : Shelf} {stored : Option Members} {error : TaskError}
      (hload : shelf.load job.key = .ok stored)
      (hfailed : job.decide job.params (stored.getD []) = .failed error) :
      Remains job shelf [stored.getD []] 1 (.failed error) (shelf.clear job.key)
  | suspended {shelf final : Shelf} {stored : Option Members} {delay : Time.Duration}
      {state : Members} {states : List Members} {rounds : Nat} {ending : Ending}
      (hload : shelf.load job.key = .ok stored)
      (hsuspend : job.decide job.params (stored.getD []) = .suspend delay state)
      (hrest : Remains job (shelf.save job.key state) states rounds ending final) :
      Remains job shelf (stored.getD [] :: states) (rounds + 1) ending final

/-- What a run does of that: all of it, or a part, because it is cancelled; then the rest is left. -/
inductive Does (job : Job) (cancel : Option Nat) (states : List Members) (rounds : Nat)
    (ending : Ending) (final : Shelf) : List Members → Nat → Ending → Shelf → Prop
  | all : Does job cancel states rounds ending final states rounds ending final
  | part {given rest : List Members} {before after : Nat} {shelf : Shelf} (hcancel : cancel ≠ none)
      (hstates : states = given ++ rest) (hrounds : rounds = before + after)
      (hrest : Remains job shelf rest after ending final) :
      Does job cancel states rounds ending final given before .cancelled shelf

theorem Remains.pos {job : Job} {shelf final : Shelf} {states : List Members} {n : Nat}
    {ending : Ending} (h : Remains job shelf states n ending final) : 0 < n := by
  cases h <;> exact Nat.succ_pos _

theorem Remains.ne_cancelled {job : Job} {shelf final : Shelf} {states : List Members} {n : Nat}
    {ending : Ending} (h : Remains job shelf states n ending final) : ending ≠ .cancelled := by
  induction h with
  | unreadable hload => exact fun h => nomatch h
  | completed hload hdone => exact fun h => nomatch h
  | failed hload hfailed => exact fun h => nomatch h
  | suspended hload hsuspend hrest ih => exact ih

theorem Does.all_or_part {job : Job} {cancel : Option Nat} {states given : List Members} {n k : Nat}
    {ending ending' : Ending} {final shelf : Shelf}
    (h : Does job cancel states n ending final given k ending' shelf) :
    given = states ∧ k = n ∧ ending' = ending ∧ shelf = final ∨
      cancel ≠ none ∧ ending' = .cancelled ∧ ∃ rest m, states = given ++ rest ∧ n = k + m ∧
        Remains job shelf rest m ending final := by
  cases h with
  | all => exact .inl ⟨rfl, rfl, rfl, rfl⟩
  | part hcancel hstates hrounds hrest => exact .inr ⟨hcancel, rfl, _, _, hstates, hrounds, hrest⟩

/-- One more round before. -/
theorem Does.cons {job : Job} {cancel : Option Nat} {states given : List Members} {n k : Nat}
    {ending ending' : Ending} {final shelf : Shelf} {state : Members}
    (h : Does job cancel states n ending final given k ending' shelf) :
    Does job cancel (state :: states) (n + 1) ending final (state :: given) (k + 1) ending' shelf := by
  cases h with
  | all => exact .all
  | part hcancel hstates hrounds hrest =>
    exact .part hcancel (by rw [hstates, List.cons_append]) (by omega) hrest

namespace Job

/-- Runs of a job on one store, one after the other, until one is not cancelled. -/
def resumed (job : Job) : List Setting → Shelf → Option (List Report) × Shelf
  | [], shelf => (some [], shelf)
  | setting :: settings, shelf =>
    match job.run setting shelf with
    | (none, shelf) => (none, shelf)
    | (some report, shelf) =>
      match report.ending with
      | .cancelled =>
        let (reports, shelf) := job.resumed settings shelf
        (reports.map (report :: ·), shelf)
      | _ => (some [report], shelf)

variable {job : Job} {setting : Setting} {bench : Workbench} {fuel rounds now : Nat}
  {begun : List Begun} {stored : Option Members}

/-- There are always more rounds to go. -/
theorem more_of_unlimited (job : Job) (hmax : job.maxRounds = none) (rounds : Nat) :
    ∀ limit, job.maxRounds = some limit → rounds < limit :=
  fun _ hlimit => nomatch hmax.symm.trans hlimit

/-- A round for which there is no limit of time. -/
theorem step_untimed (htimeout : job.roundTimeout = none) (takes : Nat → Nat)
    (hload : bench.shelf.load job.key = .ok stored) :
    ((job.runner.step job.key (job.task takes) job.params).run bench).run =
      (⟨job.decide job.params (stored.getD []), takes bench.rounds, some (stored.getD [])⟩,
        { bench with
          shelf := bench.shelf.after job.key (job.decide job.params (stored.getD []))
          rounds := bench.rounds + 1 }) := by
  have hnone : job.runner.roundTimeout = none := htimeout
  rw [step_run, hload]
  dsimp only
  rw [Runner.inTime, hnone]

/-- A round whose state cannot be loaded. -/
theorem step_unreadable (takes : Nat → Nat) {error : TaskError}
    (hload : bench.shelf.load job.key = .error error) :
    ((job.runner.step job.key (job.task takes) job.params).run bench).run =
      (⟨.failed error, 0, none⟩, bench) := by
  rw [step_run, hload]

end Job

section Unlimited

variable {job : Job} (htimeout : job.roundTimeout = none) (hmax : job.maxRounds = none)

include htimeout hmax

/-- What a run that is not cancelled does was left to do. -/
theorem remains_of_runFrom {setting : Setting} (hnever : setting.cancel = none)
    {fuel rounds now : Nat} {begun : List Begun} {bench bench' : Workbench} {report : Report}
    (hrun : job.runFrom setting fuel rounds now begun bench = (some report, bench')) :
    ∃ states n, Remains job bench.shelf states n report.ending bench'.shelf ∧
      report.begun.map (·.state) = begun.map (·.state) ++ states ∧ report.rounds = rounds + n ∧
      n ≤ fuel := by
  have hmore := job.more_of_unlimited hmax
  have hcancel (now : Nat) : cancelledBy setting.cancel now = false := by
    rw [hnever]
    rfl
  induction fuel generalizing rounds now begun bench with
  | zero => cases hrun
  | succ fuel ih =>
    cases hload : bench.shelf.load job.key with
    | error error =>
      have hround := Job.step_unreadable setting.takes hload
      rw [Job.runFrom_step fuel begun (hcancel now) (hmore rounds) hround] at hrun
      cases hrun
      exact ⟨[], 1, .unreadable hload, by simp, rfl, by omega⟩
    | ok stored =>
      have hround := Job.step_untimed htimeout setting.takes hload
      cases houtcome : job.decide job.params (stored.getD []) with
      | done result =>
        rw [houtcome] at hround
        rw [Job.runFrom_step fuel begun (hcancel now) (hmore rounds) hround] at hrun
        cases hrun
        exact ⟨_, 1, .completed hload houtcome, by simp, rfl, by omega⟩
      | failed error =>
        rw [houtcome] at hround
        rw [Job.runFrom_step fuel begun (hcancel now) (hmore rounds) hround] at hrun
        cases hrun
        exact ⟨_, 1, .failed hload houtcome, by simp, rfl, by omega⟩
      | suspend delay state =>
        rw [houtcome] at hround
        rw [Job.runFrom_step fuel begun (hcancel now) (hmore rounds) hround] at hrun
        dsimp only at hrun
        rw [if_neg (Bool.eq_false_iff.mp (hcancel _))] at hrun
        obtain ⟨states, n, hrest, hstates, hrounds, hle⟩ := ih hrun
        refine ⟨_, n + 1, .suspended hload houtcome hrest, ?_, by omega, by omega⟩
        rw [hstates]
        simp

/-- Any run does what is left to do, or a part of it and leaves the rest. -/
theorem Remains.runFrom {shelf final : Shelf} {states : List Members} {n : Nat} {ending : Ending}
    (h : Remains job shelf states n ending final) (setting : Setting) {fuel : Nat}
    (rounds now : Nat) (begun : List Begun) (bench : Workbench) (hshelf : bench.shelf = shelf)
    (hfuel : n ≤ fuel) :
    ∃ report bench' given k,
      job.runFrom setting fuel rounds now begun bench = (some report, bench') ∧
      report.begun.map (·.state) = begun.map (·.state) ++ given ∧ report.rounds = rounds + k ∧
      Does job setting.cancel states n ending final given k report.ending bench'.shelf := by
  have hmore := job.more_of_unlimited hmax
  have hcancelled {now : Nat} (hcancel : cancelledBy setting.cancel now = true) :
      setting.cancel ≠ none := by
    intro hnone
    rw [hnone] at hcancel
    cases hcancel
  induction fuel generalizing shelf states n rounds now begun bench with
  | zero => exact absurd h.pos (Nat.not_lt.mpr hfuel)
  | succ fuel ih =>
    by_cases hcancel : cancelledBy setting.cancel now = true
    · exact ⟨_, _, [], 0, Job.runFrom_cancelled hcancel, (List.append_nil _).symm, rfl,
        .part (hcancelled hcancel) rfl (Nat.zero_add n).symm (hshelf ▸ h)⟩
    have hcancel' := Bool.eq_false_iff.mpr hcancel
    subst hshelf
    cases h with
    | unreadable hload =>
      have hrun := Job.runFrom_step fuel begun hcancel' (hmore rounds)
        (Job.step_unreadable setting.takes hload)
      exact ⟨_, _, [], 1, hrun, by simp, rfl, .all⟩
    | completed hload hdone =>
      have hround := Job.step_untimed htimeout setting.takes hload
      rw [hdone] at hround
      exact ⟨_, _, _, 1, Job.runFrom_step fuel begun hcancel' (hmore rounds) hround, by simp, rfl, .all⟩
    | failed hload hfailed =>
      have hround := Job.step_untimed htimeout setting.takes hload
      rw [hfailed] at hround
      exact ⟨_, _, _, 1, Job.runFrom_step fuel begun hcancel' (hmore rounds) hround, by simp, rfl, .all⟩
    | @suspended _ _ stored delay state states n _ hload hsuspend hrest =>
      have hround := Job.step_untimed htimeout setting.takes hload
      rw [hsuspend] at hround
      have hrun := Job.runFrom_step fuel begun hcancel' (hmore rounds) hround
      by_cases hlater : cancelledBy setting.cancel
          (now + setting.takes bench.rounds + delay.timer) = true
      · refine ⟨_, _, [stored.getD []], 1, hrun.trans (if_pos hlater), by simp, rfl, ?_⟩
        exact .part (hcancelled hlater) rfl (Nat.add_comm n 1) hrest
      -- The round has left in the store what the next one has to go on with.
      obtain ⟨report, bench', given, k, hrun', hstates, hrounds, hdoes⟩ :=
        ih hrest (rounds + 1) (now + setting.takes bench.rounds + delay.timer)
          (begun ++ [⟨now, stored.getD []⟩])
          { bench with shelf := bench.shelf.save job.key state, rounds := bench.rounds + 1 } rfl
          (Nat.le_of_succ_le_succ hfuel)
      refine ⟨report, bench', stored.getD [] :: given, k + 1,
        (hrun.trans (if_neg hlater)).trans hrun', ?_, by omega, hdoes.cons⟩
      rw [hstates]
      simp

/-- A run from the start. -/
theorem Remains.run {shelf final : Shelf} {states : List Members} {n : Nat} {ending : Ending}
    (h : Remains job shelf states n ending final) (hn : n ≤ 0x100000000) (setting : Setting) :
    ∃ report shelf', job.run setting shelf = (some report, shelf') ∧
      Does job setting.cancel states n ending final (report.begun.map (·.state)) report.rounds
        report.ending shelf' := by
  obtain ⟨report, bench', given, k, hrun, hstates, hrounds, hdoes⟩ :=
    h.runFrom htimeout hmax setting 0 0 [] { shelf := shelf } rfl hn
  refine ⟨report, bench'.shelf, ?_, ?_⟩
  · rw [Job.run_eq, hrun]
  · rw [List.map_nil, List.nil_append] at hstates
    rw [Nat.zero_add] at hrounds
    rwa [hstates, hrounds]

end Unlimited

/-! ## Resuming -/

section Resuming

variable {job : Job} {setting : Setting} {settings : List Setting} {shelf shelf' : Shelf}
  {report : Report}

theorem resumed_of_cancelled (hrun : job.run setting shelf = (some report, shelf'))
    (hcancelled : report.ending = .cancelled) {reports : List Report} {final : Shelf}
    (hrest : job.resumed settings shelf' = (some reports, final)) :
    job.resumed (setting :: settings) shelf = (some (report :: reports), final) := by
  rw [Job.resumed, hrun]
  dsimp only
  rw [hcancelled, hrest]
  rfl

theorem resumed_of_ended (hrun : job.run setting shelf = (some report, shelf'))
    (hended : report.ending ≠ .cancelled) :
    job.resumed (setting :: settings) shelf = (some [report], shelf') := by
  rw [Job.resumed, hrun]
  dsimp only
  cases hending : report.ending with
  | completed result => rfl
  | failed error => rfl
  | cancelled => exact absurd hending hended

/-- Runs of which one is not cancelled do together all that is left to do. -/
theorem Remains.resumed (htimeout : job.roundTimeout = none) (hmax : job.maxRounds = none)
    {states : List Members} {n : Nat} {ending : Ending} {final : Shelf}
    (h : Remains job shelf states n ending final) (hn : n ≤ 0x100000000)
    (hnever : ∃ setting ∈ settings, setting.cancel = none) :
    ∃ pieces last, job.resumed settings shelf = (some (pieces ++ [last]), final) ∧
      (∀ piece ∈ pieces, piece.ending = .cancelled) ∧ last.ending = ending ∧
      (pieces ++ [last]).flatMap (fun piece => piece.begun.map (·.state)) = states ∧
      ((pieces ++ [last]).map (·.rounds)).sum = n := by
  induction settings generalizing shelf states n with
  | nil =>
    obtain ⟨setting, hmem, -⟩ := hnever
    exact absurd hmem List.not_mem_nil
  | cons setting settings ih =>
    obtain ⟨report, shelf', hrun, hdoes⟩ := h.run htimeout hmax hn setting
    obtain ⟨hgiven, hrounds, hending, rfl⟩ | ⟨hcancel, hending, rest, m, hstates, hsum, hrest⟩ :=
      hdoes.all_or_part
    · refine ⟨[], report, resumed_of_ended hrun (hending ▸ h.ne_cancelled), by simp, hending, ?_, ?_⟩
      · simp [hgiven]
      · simp [hrounds]
    -- The run was cancelled, so it is another one that is not.
    have hnever' : ∃ setting ∈ settings, setting.cancel = none := by
      obtain ⟨other, hmem, hnone⟩ := hnever
      rcases List.mem_cons.mp hmem with rfl | hmem
      · exact absurd hnone hcancel
      · exact ⟨other, hmem, hnone⟩
    obtain ⟨pieces, last, hresumed, hpieces, hlast, hgivens, hcounts⟩ := ih hrest (by omega) hnever'
    refine ⟨report :: pieces, last, resumed_of_cancelled hrun hending hresumed, ?_, hlast, ?_, ?_⟩
    · exact List.forall_mem_cons.mpr ⟨hending, hpieces⟩
    · rw [List.cons_append, List.flatMap_cons, hgivens, hstates]
    · rw [List.cons_append, List.map_cons, List.sum_cons, hcounts, hsum]

/-- **Resumption.** Let a job without limits end, in a run that is not cancelled. Then runs of the job
on the same store, each with rounds of its own length, one after the other until one is not cancelled,
give the rounds the same states, end in the same way, leave the same store and have as many rounds,
wherever they are cancelled. -/
theorem resumed_eq_run (htimeout : job.roundTimeout = none) (hmax : job.maxRounds = none)
    (hfull : setting.cancel = none) {full : Report} {final : Shelf}
    (hrun : job.run setting shelf = (some full, final))
    (hnever : ∃ setting ∈ settings, setting.cancel = none) :
    full.ending ≠ .cancelled ∧
      ∃ pieces last, job.resumed settings shelf = (some (pieces ++ [last]), final) ∧
        (∀ piece ∈ pieces, piece.ending = .cancelled) ∧ last.ending = full.ending ∧
        (pieces ++ [last]).flatMap (fun piece => piece.begun.map (·.state)) =
          full.begun.map (·.state) ∧
        ((pieces ++ [last]).map (·.rounds)).sum = full.rounds := by
  rw [Job.run_eq] at hrun
  obtain ⟨hreport, rfl⟩ := Prod.mk.inj hrun
  obtain ⟨states, n, hremains, hstates, hrounds, hn⟩ :=
    remains_of_runFrom htimeout hmax hfull (Prod.ext hreport rfl)
  rw [List.map_nil, List.nil_append] at hstates
  rw [Nat.zero_add] at hrounds
  rw [hstates, hrounds]
  exact ⟨hremains.ne_cancelled, hremains.resumed htimeout hmax hn hnever⟩

end Resuming

namespace Counting

/-- A job that is suspended twice, and ends with its state then. -/
def job : Job where
  key := "count"
  params := []
  decide _ state :=
    match state with
    | [] => .suspend (.ofSecs 5) [("a", .int 1)]
    | [_] => .suspend (.ofSecs 5) [("a", .int 1), ("b", .int 2)]
    | _ => .done (.obj state)

/-- A run that is cancelled at once, one that is cancelled while it waits, and one that is not. -/
def settings : List Setting := [⟨fun _ => 3, some 0⟩, ⟨fun _ => 7, some 2000⟩, ⟨fun _ => 1, none⟩]

/-- Three rounds in one run, and in the runs that were resumed. -/
theorem resumed_eq_run_counting :
    ∃ pieces last, (job.resumed settings {}).1 = some (pieces ++ [last]) ∧
      (∀ piece ∈ pieces, piece.ending = .cancelled) ∧ last.ending ≠ .cancelled ∧
      ((pieces ++ [last]).map (·.rounds)).sum = 3 := by
  have hrounds : (job.run ⟨fun _ => 10, none⟩ {}).1.map (·.rounds) = some 3 := by
    decide +kernel
  obtain ⟨full, hfull, hthree⟩ := Option.map_eq_some_iff.mp hrounds
  obtain ⟨hended, pieces, last, hresumed, hpieces, hlast, -, hsum⟩ :=
    resumed_eq_run rfl rfl rfl (Prod.ext hfull rfl)
      (⟨⟨fun _ => 1, none⟩, by simp [settings], rfl⟩ : ∃ setting ∈ settings, setting.cancel = none)
  exact ⟨pieces, last, congrArg Prod.fst hresumed, hpieces, hlast ▸ hended, hsum.trans hthree⟩

end Counting

end RetrySafe.Task
