import Mathlib.Algebra.Group.Nat.Defs
import Mathlib.Data.List.Basic
import Mathlib.Logic.Function.Iterate
import RetrySafe.Task.Backoff

/-!
# How polling intervals grow

A back-off hands out intervals one after the other. Each call reads the interval that the last one
left in the state, in whole seconds, moves it into the bounds, and leaves the next one. What is cut
off when seconds are counted is less than what doubling adds, so from the floor on the intervals
never shrink. Between bounds of whole seconds nothing is cut off: the intervals are the powers of
two times the first one, up to the ceiling.

## Main definitions

* `Backoff.Holds` — what a state holds for a back-off.
* `Backoff.calls` — the answers of some calls in a row.
* `Backoff.kept`, `Backoff.following` — what a call leaves, and the interval of the next call.
* `Backoff.IsSteady` — what is promised of a back-off.

## Main results

* `Backoff.calls_of_holds` — the answers of calls in a row, by the iterates of `Backoff.following`.
* `Backoff.calls_of_isWhole` — the same between bounds of whole seconds.
* `Backoff.of_isSteady` — the promises are kept, whatever bounds are asked for.
-/

namespace RetrySafe

open Time (Duration)

/-! ## Durations -/

namespace Time.Duration

variable {d e : Duration} {secs : Nat}

theorem ext_nanos (h : d.nanos = e.nanos) : d = e := by
  cases d
  cases h
  rfl

theorem le_def : d ≤ e ↔ d.nanos ≤ e.nanos := Iff.rfl

@[simp]
theorem nanos_max (d e : Duration) : (d.max e).nanos = max d.nanos e.nanos := by
  unfold Duration.max
  split
  · next h => exact (Nat.max_eq_right h).symm
  · next h => exact (Nat.max_eq_left (Nat.le_of_not_le h)).symm

@[simp]
theorem nanos_min (d e : Duration) : (d.min e).nanos = min d.nanos e.nanos := by
  unfold Duration.min
  split
  · next h => exact (Nat.min_eq_left h).symm
  · next h => exact (Nat.min_eq_right (Nat.le_of_not_le h)).symm

@[simp]
theorem nanos_doubled (d : Duration) :
    d.doubled.nanos = min (2 * d.nanos) 18446744073709551615999999999 := rfl

@[simp]
theorem nanos_ofSecs (secs : Nat) :
    (ofSecs secs).nanos = min (secs * 1000000000) 18446744073709551615999999999 := rfl

/-- There is no fraction of a second. -/
def IsWhole (d : Duration) : Prop := d.subsecNanos = 0

theorem IsWhole.nanos_eq (h : d.IsWhole) : d.nanos = d.secs * 1000000000 := by
  unfold IsWhole subsecNanos at h
  unfold secs
  omega

theorem IsWhole.ofSecs_secs (h : d.IsWhole) : ofSecs d.secs = d := by
  refine ext_nanos ?_
  have hnanos := h.nanos_eq
  have hle := d.nanos_le
  rw [nanos_ofSecs]
  omega

theorem secs_le (d : Duration) : d.secs ≤ 18446744073709551615 := by
  have hle := d.nanos_le
  unfold secs
  omega

end Time.Duration

/-! ## States -/

namespace Members

variable {state : Members} {key : String}

theorem set_set (state : Members) (key : String) (v w : Json) :
    (state.set key v).set key w = state.set key w := by
  induction state with
  | nil => simp [set]
  | cons m rest ih =>
    obtain ⟨k, u⟩ := m
    by_cases hk : k = key
    · simp [set, hk]
    · simp [set, hk, ih]

/-- A state differs from another only in the value of a key, which stands in its old place, or comes
last if it is new. -/
structure DiffersOnlyAt (key : String) (state state' : Members) : Prop where
  others : ∀ other, other ≠ key → state'.get? other = state.get? other
  keys : state'.keys = if key ∈ state.keys then state.keys else state.keys ++ [key]

theorem differsOnlyAt_set (state : Members) (key : String) (v : Json) :
    DiffersOnlyAt key state (state.set key v) where
  others other hne := by rw [get?_set, if_neg hne.symm]
  keys := by
    split
    · next hmem => exact keys_set_of_mem hmem v
    · next hmem => exact keys_set_of_not_mem hmem v

end Members

namespace Task.Backoff

variable {backoff : Backoff} {state : Members} {stored : Option Nat} {d : Duration}

/-! ## One call -/

/-- A state holds a number of seconds for a back-off, or nothing. -/
structure Holds (backoff : Backoff) (state : Members) (stored : Option Nat) : Prop where
  get? : state.get? backoff.key = stored.map .nat
  le : ∀ secs ∈ stored, secs ≤ 18446744073709551615

/-- The interval that stands for what a state holds. -/
def first (backoff : Backoff) (stored : Option Nat) : Duration :=
  backoff.clamp (stored.elim backoff.floor .ofSecs)

/-- The seconds that a call leaves which has handed out an interval. -/
def kept (backoff : Backoff) (d : Duration) : Nat := (d.doubled.min backoff.ceiling).secs

/-- The interval of the next call. -/
def following (backoff : Backoff) (d : Duration) : Duration :=
  backoff.clamp (.ofSecs (backoff.kept d))

theorem natural_nat {secs : Nat} (h : secs ≤ 18446744073709551615) :
    Json.natural .u64 (.nat secs) = .ok secs := by
  have hrange : (0 : Int) ≤ secs ∧ (secs : Int) ≤ 18446744073709551615 := by omega
  simp [Json.natural, Json.integer, Json.nat, Json.int, Json.IntegerType.u64, hrange, bind,
    Except.bind, pure, Except.pure]

/-- What is read as a number of seconds is one. -/
theorem eq_nat_of_natural {value : Json} {secs : Nat} (h : Json.natural .u64 value = .ok secs) :
    secs ≤ 18446744073709551615 ∧ value = .nat secs := by
  simp only [Json.natural, bind, Except.bind, pure, Except.pure] at h
  split at h
  · cases h
  · next n hn =>
    unfold Json.integer at hn
    split at hn
    · next m =>
      split at hn
      · next hrange =>
        cases hn
        cases h
        simp only [Json.IntegerType.u64] at hrange
        refine ⟨by omega, ?_⟩
        rw [Json.nat, Json.int, Int.toNat_of_nonneg hrange.1]
      · cases hn
    · cases hn

theorem next_of_holds (h : backoff.Holds state stored) :
    backoff.next state = .ok (backoff.first stored,
      state.set backoff.key (.nat (backoff.kept (backoff.first stored)))) := by
  have hinterval : backoff.interval state = .ok (backoff.first stored) := by
    unfold interval Members.read?
    cases stored with
    | none => rw [h.get?]; rfl
    | some secs =>
      rw [h.get?, Option.map_some]
      simp only [natural_nat (h.le secs rfl)]
      rfl
  unfold next
  rw [hinterval]
  rfl

theorem holds_set (backoff : Backoff) (state : Members) (d : Duration) :
    backoff.Holds (state.set backoff.key (.nat (backoff.kept d))) (some (backoff.kept d)) where
  get? := by rw [Members.get?_set, if_pos rfl, Option.map_some]
  le secs hsecs := by
    rw [Option.mem_some_iff.mp hsecs.symm]
    exact Duration.secs_le _

theorem first_kept (backoff : Backoff) (d : Duration) :
    backoff.first (some (backoff.kept d)) = backoff.following d := by
  rw [first, following, Option.elim_some]

/-! ## Calls in a row -/

/-- The answers of some calls in a row: the interval and the state of each. -/
def calls (backoff : Backoff) : Nat → Members → Except TaskError (List (Duration × Members))
  | 0, _ => .ok []
  | n + 1, state => do
    let (delay, state) ← backoff.next state
    return (delay, state) :: (← backoff.calls n state)

/-- The answers are made of the iterates of the next interval. -/
theorem calls_of_holds (h : backoff.Holds state stored) (n : Nat) :
    backoff.calls n state = .ok ((List.range n).map fun i =>
      (backoff.following^[i] (backoff.first stored),
        state.set backoff.key
          (.nat (backoff.kept (backoff.following^[i] (backoff.first stored)))))) := by
  -- By induction on the number of calls, for any state: the calls after the first one go on from
  -- the state that it leaves, and every later state differs from that in the same place.
  induction n generalizing state stored with
  | zero => rfl
  | succ n ih =>
    have hiterate : ∀ i, backoff.following^[i] (backoff.following (backoff.first stored)) =
        backoff.following^[i + 1] (backoff.first stored) :=
      fun i => (Function.iterate_succ_apply _ i _).symm
    have hrest := ih (holds_set backoff state (backoff.first stored))
    simp only [first_kept, Members.set_set, hiterate] at hrest
    simp only [calls, next_of_holds h, bind, Except.bind, hrest, pure, Except.pure]
    rw [List.range_succ_eq_map, List.map_cons, List.map_map, Function.iterate_zero_apply]
    simp only [Function.comp_def, Nat.succ_eq_add_one]

/-! ## Intervals stay in the bounds and do not shrink -/

@[simp]
theorem nanos_clamp (backoff : Backoff) (d : Duration) :
    (backoff.clamp d).nanos =
      min (max d.nanos backoff.floor.nanos) backoff.ceiling.nanos := by
  simp [clamp]

theorem floor_le_clamp (backoff : Backoff) (d : Duration) : backoff.floor ≤ backoff.clamp d := by
  have hle := Duration.le_def.mp backoff.floor_le
  rw [Duration.le_def, nanos_clamp]
  omega

theorem clamp_le_ceiling (backoff : Backoff) (d : Duration) :
    backoff.clamp d ≤ backoff.ceiling := by
  rw [Duration.le_def, nanos_clamp]
  exact Nat.min_le_right _ _

/-- The floor, or a whole number of seconds inside the bounds: nothing is cut off where an interval
is read that was kept. -/
structure IsSettled (backoff : Backoff) (d : Duration) : Prop where
  floor_le : backoff.floor ≤ d
  le_ceiling : d ≤ backoff.ceiling
  isWhole : d = backoff.floor ∨ d.IsWhole

theorem isSettled_floor (backoff : Backoff) : backoff.IsSettled backoff.floor :=
  ⟨Nat.le_refl _, backoff.floor_le, .inl rfl⟩

theorem nanos_following (backoff : Backoff) (d : Duration) :
    (backoff.following d).nanos =
      max (min (2 * d.nanos) backoff.ceiling.nanos / 1000000000 * 1000000000)
        backoff.floor.nanos := by
  have hfloor := Duration.le_def.mp backoff.floor_le
  have hceiling := backoff.ceiling.nanos_le
  rw [following, nanos_clamp, kept, Duration.secs, Duration.nanos_ofSecs, Duration.nanos_min,
    Duration.nanos_doubled]
  omega

theorem isSettled_following (backoff : Backoff) (d : Duration) :
    backoff.IsSettled (backoff.following d) where
  floor_le := floor_le_clamp _ _
  le_ceiling := clamp_le_ceiling _ _
  isWhole := by
    have hnanos := nanos_following backoff d
    -- A number of seconds below the floor stands for the floor.
    rcases Nat.le_total (min (2 * d.nanos) backoff.ceiling.nanos / 1000000000 * 1000000000)
      backoff.floor.nanos with hle | hle
    · exact .inl (Duration.ext_nanos (hnanos.trans (Nat.max_eq_right hle)))
    · refine .inr ?_
      rw [Duration.IsWhole, Duration.subsecNanos, hnanos, Nat.max_eq_left hle]
      exact Nat.mul_mod_left _ _

/-- What is cut off is less than a second, and the floor is at least one. -/
theorem IsSettled.le_following (h : backoff.IsSettled d) : d ≤ backoff.following d := by
  have hsecond : 1000000000 ≤ backoff.floor.nanos := backoff.second_le
  have hfloor := Duration.le_def.mp h.floor_le
  have hceiling := Duration.le_def.mp h.le_ceiling
  rw [Duration.le_def, nanos_following]
  rcases h.isWhole with rfl | hwhole
  · exact Nat.le_max_right _ _
  · have hnanos := hwhole.nanos_eq
    omega

theorem iterate_following_le (h : backoff.IsSettled d) {i j : Nat} (hij : i ≤ j) :
    backoff.following^[i] d ≤ backoff.following^[j] d := by
  have hsettled : ∀ k, backoff.IsSettled (backoff.following^[k] d) := by
    intro k
    cases k with
    | zero => exact h
    | succ k =>
      rw [Function.iterate_succ_apply']
      exact isSettled_following _ _
  induction hij with
  | refl => exact Nat.le_refl _
  | @step j _ ih =>
    rw [Function.iterate_succ_apply']
    exact Nat.le_trans ih (hsettled j).le_following

/-! ## Bounds of whole seconds -/

section Whole

/-- The seconds that stand for what a state holds. -/
def firstSecs (backoff : Backoff) (stored : Option Nat) : Nat :=
  min (max (stored.getD backoff.floor.secs) backoff.floor.secs) backoff.ceiling.secs

variable (hfloor : backoff.floor.IsWhole) (hceiling : backoff.ceiling.IsWhole)

/-- Nothing is cut off from what is kept. -/
theorem kept_ofSecs (hceiling : backoff.ceiling.IsWhole) {secs : Nat}
    (hsecs : secs ≤ backoff.ceiling.secs) :
    backoff.kept (.ofSecs secs) = min (2 * secs) backoff.ceiling.secs := by
  have hmost := backoff.ceiling.secs_le
  rw [kept, Duration.secs, Duration.nanos_min, Duration.nanos_doubled, Duration.nanos_ofSecs,
    hceiling.nanos_eq]
  omega

include hfloor hceiling

theorem first_of_isWhole (stored : Option Nat) :
    backoff.first stored = .ofSecs (backoff.firstSecs stored) := by
  have hle := Duration.le_def.mp backoff.floor_le
  have hmost := backoff.ceiling.secs_le
  refine Duration.ext_nanos ?_
  rw [first, nanos_clamp, Duration.nanos_ofSecs, firstSecs]
  rw [hfloor.nanos_eq, hceiling.nanos_eq] at *
  cases stored with
  | none =>
    rw [Option.elim_none, hfloor.nanos_eq, Option.getD_none]
    omega
  | some secs =>
    rw [Option.elim_some, Duration.nanos_ofSecs, Option.getD_some]
    omega

theorem firstSecs_bounds (stored : Option Nat) :
    backoff.floor.secs ≤ backoff.firstSecs stored ∧
      backoff.firstSecs stored ≤ backoff.ceiling.secs := by
  have hle := Duration.le_def.mp backoff.floor_le
  rw [hfloor.nanos_eq, hceiling.nanos_eq] at hle
  unfold firstSecs
  omega

theorem iterate_following_ofSecs {secs : Nat} (hle : backoff.floor.secs ≤ secs)
    (hsecs : secs ≤ backoff.ceiling.secs) (i : Nat) :
    backoff.following^[i] (.ofSecs secs) =
      .ofSecs (min (2 ^ i * secs) backoff.ceiling.secs) := by
  induction i with
  | zero => rw [Function.iterate_zero_apply, Nat.pow_zero, Nat.one_mul, Nat.min_eq_left hsecs]
  | succ i ih =>
    -- Twice what was cut at the ceiling is cut at the ceiling again.
    have hgrown : secs ≤ 2 ^ i * secs := Nat.le_mul_of_pos_left _ (Nat.two_pow_pos i)
    have htwice : 2 ^ (i + 1) * secs = 2 * (2 ^ i * secs) := by
      rw [Nat.pow_succ', Nat.mul_assoc]
    have hmost := backoff.ceiling.secs_le
    rw [Function.iterate_succ_apply', ih, htwice, following,
      kept_ofSecs hceiling (Nat.min_le_right _ _)]
    refine Duration.ext_nanos ?_
    rw [nanos_clamp, Duration.nanos_ofSecs, Duration.nanos_ofSecs, hfloor.nanos_eq,
      hceiling.nanos_eq]
    generalize 2 ^ i * secs = grown at *
    omega

/-- The answers of calls in a row are the powers of two times the first interval, up to the
ceiling. -/
theorem calls_of_isWhole (h : backoff.Holds state stored) (n : Nat) :
    backoff.calls n state = .ok ((List.range n).map fun i =>
      (.ofSecs (min (2 ^ i * backoff.firstSecs stored) backoff.ceiling.secs),
        state.set backoff.key
          (.nat (min (2 ^ (i + 1) * backoff.firstSecs stored) backoff.ceiling.secs)))) := by
  obtain ⟨hlow, hhigh⟩ := firstSecs_bounds hfloor hceiling stored
  have hkept (i : Nat) : backoff.kept (.ofSecs (min (2 ^ i * backoff.firstSecs stored)
      backoff.ceiling.secs)) =
        min (2 ^ (i + 1) * backoff.firstSecs stored) backoff.ceiling.secs := by
    have htwice : 2 ^ (i + 1) * backoff.firstSecs stored =
        2 * (2 ^ i * backoff.firstSecs stored) := by
      rw [Nat.pow_succ', Nat.mul_assoc]
    rw [kept_ofSecs hceiling (Nat.min_le_right _ _), htwice]
    omega
  have hcalls := calls_of_holds h n
  simp only [first_of_isWhole hfloor hceiling,
    iterate_following_ofSecs hfloor hceiling hlow hhigh, hkept] at hcalls
  exact hcalls

/-- Doubling reaches the ceiling. -/
theorem exists_le_pow_mul (stored : Option Nat) :
    ∃ N, ∀ i, N ≤ i → backoff.ceiling.secs ≤ 2 ^ i * backoff.firstSecs stored := by
  refine ⟨backoff.ceiling.secs, fun i hi => ?_⟩
  have hsecond : 1000000000 ≤ backoff.floor.nanos := backoff.second_le
  have hpos : 1 ≤ backoff.firstSecs stored := by
    have hbounds := firstSecs_bounds hfloor hceiling stored
    rw [hfloor.nanos_eq] at hsecond
    omega
  calc backoff.ceiling.secs ≤ i := hi
    _ ≤ 2 ^ i := Nat.le_of_lt Nat.lt_two_pow_self
    _ ≤ 2 ^ i * backoff.firstSecs stored := Nat.le_mul_of_pos_right _ hpos

end Whole

/-! ## What is promised -/

/-- What is promised of a back-off. -/
structure IsSteady (backoff : Backoff) : Prop where
  /-- A call answers with an interval inside the bounds, and changes nothing but the number that is
  kept. -/
  answers {state : Members} {stored : Option Nat} (h : backoff.Holds state stored) :
    ∃ delay state', backoff.next state = .ok (delay, state') ∧
      backoff.floor ≤ delay ∧ delay ≤ backoff.ceiling ∧
      Members.DiffersOnlyAt backoff.key state state' ∧ ∃ secs, backoff.Holds state' (some secs)
  /-- From a state that holds nothing, the intervals of calls in a row begin with the floor and
  never shrink. -/
  ascends {state : Members} (h : state.get? backoff.key = none) (n : Nat) :
    ∃ answers, backoff.calls n state = .ok answers ∧ answers.length = n ∧
      (answers.map Prod.fst).Pairwise (· ≤ ·) ∧ ∀ d ∈ answers.head?, d.1 = backoff.floor
  /-- Between bounds of whole seconds the intervals are powers of two times the first one, up to the
  ceiling. -/
  doubles (hfloor : backoff.floor.IsWhole) (hceiling : backoff.ceiling.IsWhole) {state : Members}
      {stored : Option Nat} (h : backoff.Holds state stored) (n : Nat) :
    (backoff.calls n state).map (List.map Prod.fst) = .ok ((List.range n).map fun i =>
      .ofSecs (min (2 ^ i * backoff.firstSecs stored) backoff.ceiling.secs))
  /-- Between such bounds the ceiling is reached after some calls, and from then on it stays. -/
  reaches (hfloor : backoff.floor.IsWhole) (hceiling : backoff.ceiling.IsWhole) {state : Members}
      {stored : Option Nat} (h : backoff.Holds state stored) :
    ∃ N, ∀ n answers, backoff.calls n state = .ok answers → ∀ i (hi : i < answers.length), N ≤ i →
      answers[i].1 = backoff.ceiling
  /-- What is no number of seconds is refused; there is no new state then. -/
  refuses {state : Members} {value : Json} (hvalue : state.get? backoff.key = some value)
      (hno : ∀ secs ≤ 18446744073709551615, value ≠ .nat secs) :
    ∃ mismatch, Json.natural .u64 value = .error mismatch ∧
      backoff.next state = .error (.unreadable (.shape mismatch))

theorem holds_none (h : state.get? backoff.key = none) : backoff.Holds state none :=
  ⟨h, by simp⟩

theorem first_none (backoff : Backoff) : backoff.first none = backoff.floor := by
  have hle := Duration.le_def.mp backoff.floor_le
  refine Duration.ext_nanos ?_
  rw [first, nanos_clamp, Option.elim_none]
  omega

theorem isSteady (backoff : Backoff) : backoff.IsSteady where
  answers h :=
    ⟨_, _, next_of_holds h, floor_le_clamp _ _, clamp_le_ceiling _ _,
      Members.differsOnlyAt_set _ _ _, _, holds_set _ _ _⟩
  ascends h n := by
    refine ⟨_, calls_of_holds (holds_none h) n, by simp, ?_, ?_⟩
    · rw [List.map_map, List.pairwise_map]
      refine List.pairwise_lt_range.imp fun hij => ?_
      rw [first_none]
      exact iterate_following_le (isSettled_floor backoff) (Nat.le_of_lt hij)
    · intro d hd
      cases n with
      | zero => cases hd
      | succ n =>
        rw [List.range_succ_eq_map, List.map_cons, List.head?_cons, Option.mem_some_iff] at hd
        rw [← hd, Function.iterate_zero_apply, first_none]
  doubles hfloor hceiling _ _ h n := by
    rw [calls_of_isWhole hfloor hceiling h, Except.map, List.map_map]
    rfl
  reaches hfloor hceiling _ stored h := by
    obtain ⟨N, hN⟩ := exists_le_pow_mul hfloor hceiling stored
    refine ⟨N, fun n answers hanswers i hi hNi => ?_⟩
    rw [calls_of_isWhole hfloor hceiling h] at hanswers
    cases hanswers
    rw [List.getElem_map, List.getElem_range, Nat.min_eq_right (hN i hNi)]
    exact hceiling.ofSecs_secs
  refuses {_ value} hvalue hno := by
    cases hnatural : Json.natural .u64 value with
    | ok secs =>
      obtain ⟨hsecs, heq⟩ := eq_nat_of_natural hnatural
      exact absurd heq (hno secs hsecs)
    | error mismatch =>
      refine ⟨mismatch, rfl, ?_⟩
      unfold next interval Members.read?
      rw [hvalue]
      simp only [hnatural]
      rfl

/-- **Polling intervals.** Whatever floor and ceiling are asked for, the floor of a back-off is at
least a second and its ceiling at least its floor, and then it keeps its promises: a call that finds
a number of seconds or nothing answers with an interval inside the bounds, in calls from nothing on
the intervals never shrink, between bounds of whole seconds they double up to the ceiling, and
anything else that is found is refused. -/
theorem of_isSteady (key : String) (floor ceiling : Duration) :
    (Backoff.of key floor ceiling).key = key ∧
      (Backoff.of key floor ceiling).floor.nanos = max floor.nanos 1000000000 ∧
      (Backoff.of key floor ceiling).ceiling.nanos =
        max ceiling.nanos (Backoff.of key floor ceiling).floor.nanos ∧
      (Backoff.of key floor ceiling).IsSteady := by
  refine ⟨rfl, ?_, ?_, isSteady _⟩
  · exact Duration.nanos_max _ _
  · exact Duration.nanos_max _ _

/-- Between bounds with fractions of a second the ceiling need not be reached. -/
example :
    ((Backoff.of "poll" ⟨1500000000, by decide⟩ ⟨2500000000, by decide⟩).calls 4 []).toOption.map
      (List.map fun answer => answer.1.nanos) =
        some [1500000000, 2000000000, 2000000000, 2000000000] := by
  decide +kernel

end Task.Backoff

end RetrySafe
