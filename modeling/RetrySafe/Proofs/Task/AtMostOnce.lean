import RetrySafe.Proofs.Task.Guarded

/-!
# A guarded statement is applied at most once

Attempts are made for one task key, each of which may crash anywhere, until the state of the key is
cleared. The first round only draws an operation id, which is kept before anything is done under it.
From then on every round works under that id, so that what is committed stays safe whatever is lost:
the statement was not applied yet, or the row of the one operation says that it was.

## Main definitions

* `Errand.IsIdle`, `Errand.IsUnderway`, `IsOver` — how far the attempts have come.
* `Errand.IsFresh` — where they begin.
* `Errand.runs` — the gauge that any statement has.

## Main results

* `attempt_idle`, `attempt_underway` — what an attempt makes of that.
* `applied_at_most_once` — the statement is applied at most once, and under one id.
-/

namespace RetrySafe

open Plant

variable {δ σ α : Type} [HasTables δ]

/-! ## The store -/

namespace Errand

variable {errand : Errand δ σ} {gauge : Gauge δ} {k : Nat} {kept : Option Members}
  {base : List (Option String)} {cleanups : List (Time.Instant × List StatusRow)}
  {p : Plant δ σ} {good : Content δ → Prop} {id : String} {crash : Plant δ σ → Prop}

namespace Site

/-- From here on another operation is named. -/
theorem rebased (h : errand.Site gauge kept id base cleanups good p) (id' : String) :
    errand.Site gauge kept id' p.touches cleanups good p :=
  ⟨h.kept, h.isCleared, .refl id' p.touches, h.cleanups, h.good, h.older, h.polite⟩

theorem fresh_goes {post : String → Plant δ σ → Prop}
    (h : errand.Site gauge kept id base cleanups good p)
    (hstable : ∀ change, errand.IsPolite gauge change → ∀ content, good content →
      good (change content))
    (hcrash : ∀ p', errand.Site gauge kept id base cleanups good p' → crash p')
    (hpost : ∀ k p', errand.Site gauge kept id base cleanups good p' → post (errand.draws k) p') :
    Goes crash errand.fresh p post := by
  refine Goes.bind ((h.pause hstable hcrash).mono ?_)
  rintro _ p' ⟨h', -⟩
  refine Goes.modifyGet (hpost p'.drawn _ ?_)
  exact ⟨h'.kept, h'.isCleared, h'.touches, h'.cleanups, h'.good, h'.older, h'.polite⟩

/-- The store holds another state of the key. -/
theorem stored (h : errand.Site gauge kept id base cleanups good p) {s : σ}
    {kept' : Option Members} (hs : errand.lasting.kept s errand.key = kept') :
    errand.Site gauge kept' id base cleanups good { p with store := s } :=
  ⟨hs, h.isCleared, h.touches, h.cleanups, h.good, h.older, h.polite⟩

theorem load_goes (h : errand.Site gauge kept id base cleanups good p)
    (hstable : ∀ change, errand.IsPolite gauge change → ∀ content, good content →
      good (change content))
    (hcrash : ∀ p', errand.Site gauge kept id base cleanups good p' → crash p') :
    GoesOn crash (errand.store.load errand.key) p fun answer p' =>
      errand.Site gauge kept id base cleanups good p' ∧
        (answer = .ok kept ∨ ∃ error, answer = .error error) := by
  refine GoesOn.lift (Goes.bind ((h.pause hstable hcrash).mono ?_))
  rintro _ p' ⟨h', -⟩
  refine Goes.keep ((errand.lasting.load_kept p'.store errand.key).mono ?_)
  rintro answer after ⟨rfl, hanswer⟩ s hs
  rw [h'.kept] at hs hanswer
  exact ⟨h'.stored hs, hanswer⟩

theorem save_goes (h : errand.Site gauge kept id base cleanups good p)
    (hstable : ∀ change, errand.IsPolite gauge change → ∀ content, good content →
      good (change content))
    (hcrash : ∀ p', errand.Site gauge kept id base cleanups good p' → crash p')
    (state : Members) :
    GoesOn crash (errand.store.save errand.key state) p fun _ p' =>
      errand.Site gauge (some state) id base cleanups good p' ∨
        errand.Site gauge kept id base cleanups good p' := by
  refine GoesOn.lift (Goes.bind ((h.pause hstable hcrash).mono ?_))
  rintro _ p' ⟨h', -⟩
  refine Goes.keep ((errand.lasting.save_kept p'.store errand.key state).mono ?_)
  rintro answer after hafter s hs
  rcases hafter with rfl | ⟨rfl, -⟩
  · exact .inl (h'.stored hs)
  · rw [h'.kept] at hs
    exact .inr (h'.stored hs)

/-- A state that is gone is known to be gone. -/
theorem clear_goes {state : Members}
    (h : errand.Site gauge (some state) id base cleanups good p)
    (hstable : ∀ change, errand.IsPolite gauge change → ∀ content, good content →
      good (change content))
    (hcrash : ∀ p', errand.Site gauge (some state) id base cleanups good p' → crash p') :
    GoesOn crash (errand.store.clear errand.key) p fun _ p' =>
      errand.Site gauge (some state) id base cleanups good p' ∨
        p'.isCleared = true ∧ OnlyNames id base p'.touches ∧ p'.cleanups = cleanups ∧
          good p'.database.committed := by
  refine GoesOn.lift (Goes.bind ((h.pause hstable hcrash).mono ?_))
  rintro _ p' ⟨h', -⟩
  refine Goes.bind (Goes.keep ((errand.lasting.clear_kept p'.store errand.key).mono ?_))
  rintro answer after hafter s hs
  refine Goes.bind (Goes.modify (Goes.pure ?_))
  dsimp only
  rcases hafter with rfl | ⟨rfl, -⟩
  · rw [hs]
    exact .inr ⟨rfl, h'.touches, h'.cleanups, h'.good⟩
  · rw [h'.kept] at hs
    rw [hs]
    exact .inl ⟨hs, rfl, h'.touches, h'.cleanups, h'.good, h'.older, h'.polite⟩

end Site

/-! ## How far the attempts have come -/

/-- No operation id is kept. -/
def IsIdle (errand : Errand δ σ) (gauge : Gauge δ) (p : Plant δ σ) : Prop :=
  ∃ id base cleanups, errand.Site gauge none id base cleanups (errand.IsUndone gauge) p

/-- The `k`th operation id is kept. -/
def IsUnderway (errand : Errand δ σ) (gauge : Gauge δ) (k : Nat) (base : List (Option String))
    (p : Plant δ σ) : Prop :=
  ∃ state cleanups, state.get? Defaults.operationKey = some (.str (errand.draws k)) ∧
    errand.Site gauge (some state) (errand.draws k) base cleanups (errand.IsSafe gauge k) p

/-- The state of the key was not cleared yet. -/
def IsOpen (errand : Errand δ σ) (gauge : Gauge δ) (p : Plant δ σ) : Prop :=
  errand.IsIdle gauge p ∨ ∃ k base, errand.IsUnderway gauge k base p

/-- The state of the key was cleared. -/
structure IsOver (gauge : Gauge δ) (id : String) (base : List (Option String)) (p : Plant δ σ) :
    Prop where
  isCleared : p.isCleared = true
  touches : OnlyNames id base p.touches
  once : gauge.AtMostOnce p.database.committed.data

/-- Once an operation id is kept it stays until the state is cleared, if cleanups were timely. -/
def GoesAhead (errand : Errand δ σ) (gauge : Gauge δ) (k : Nat) (base : List (Option String))
    (p : Plant δ σ) : Prop :=
  errand.IsTimely p.cleanups →
    errand.IsUnderway gauge k base p ∨ IsOver gauge (errand.draws k) base p

theorem IsSafe.once {content : Content δ} (h : errand.IsSafe gauge k content) :
    gauge.AtMostOnce content.data := by
  rcases h with hundone | ⟨honce, -⟩
  · exact .inl hundone.before
  · exact honce

theorem Rest.goesAhead {state : Members} (h : errand.Rest gauge k (some state) base p)
    (hid : state.get? Defaults.operationKey = some (.str (errand.draws k))) :
    errand.GoesAhead gauge k base p := by
  obtain ⟨cleanups, hsite⟩ := h
  intro htimely
  rw [hsite.cleanups] at htimely
  exact .inl ⟨state, cleanups, hid, hsite.mono fun _ hsafe => hsafe htimely⟩

/-! ## Keeping an outcome -/

/-- The next polling interval takes the place of the last one, not that of the operation id. -/
theorem backoff_keeps {backoff : Task.Backoff} {state state' : Members} {delay : Time.Duration}
    (hid : state.get? Defaults.operationKey = some (.str id))
    (hnext : backoff.next state = .ok (delay, state')) :
    state'.get? Defaults.operationKey = some (.str id) := by
  by_cases hkey : backoff.key = Defaults.operationKey
  · -- An id in the place of an interval cannot be read as one.
    have hread : state.read? backoff.key (Json.natural .u64) =
        .error (.unreadable (.shape (.invalidType (.str id) "u64"))) := by
      unfold Members.read?
      rw [hkey, hid]
      rfl
    unfold Task.Backoff.next Task.Backoff.interval at hnext
    rw [hread] at hnext
    cases hnext
  · unfold Task.Backoff.next at hnext
    cases hinterval : backoff.interval state with
    | error error =>
      rw [hinterval] at hnext
      cases hnext
    | ok current =>
      rw [hinterval] at hnext
      cases hnext
      rw [Members.get?_set, if_neg hkey, hid]

/-- A round under an operation id suspends with that id. -/
theorem outcome_keeps {state state' : Members} {delay : Time.Duration}
    {result : Except GuardError Execution}
    (hid : state.get? Defaults.operationKey = some (.str id))
    (houtcome : errand.task.outcome id state result = .suspend delay state') :
    state'.get? Defaults.operationKey = some (.str id) := by
  unfold GuardedStatement.outcome at houtcome
  split at houtcome
  · cases houtcome
  · cases hnext : errand.task.backoff.next state with
    | error error =>
      rw [hnext] at houtcome
      cases houtcome
    | ok next =>
      rw [hnext] at houtcome
      cases houtcome
      exact backoff_keeps hid hnext
  · cases houtcome

/-- Keeping the outcome of a round under an operation id. -/
theorem persist_goes {state : Members} (h : errand.Rest gauge k (some state) base p)
    (hid : state.get? Defaults.operationKey = some (.str (errand.draws k)))
    (outcome : Task.Outcome)
    (houtcome : ∀ delay state', outcome = .suspend delay state' →
      state'.get? Defaults.operationKey = some (.str (errand.draws k))) :
    GoesOn (errand.GoesAhead gauge k base) (errand.runner.persist errand.key outcome) p
      fun _ p' => errand.GoesAhead gauge k base p' := by
  obtain ⟨cleanups, hsite⟩ := h
  have hcrash : ∀ p', errand.Site gauge (some state) (errand.draws k) base cleanups
      (fun content => errand.IsTimely cleanups → errand.IsSafe gauge k content) p' →
      errand.GoesAhead gauge k base p' :=
    fun p' hp' => Rest.goesAhead ⟨cleanups, hp'⟩ hid
  have hclear : GoesOn (errand.GoesAhead gauge k base) (errand.store.clear errand.key) p
      fun _ p' => errand.GoesAhead gauge k base p' := by
    refine (hsite.clear_goes (fun _ => stable_if_timely) hcrash).mono fun _ p' hp' => ?_
    rcases hp' with hp' | ⟨hcleared, htouches, hcleanups, hsafe⟩
    · exact hcrash p' hp'
    · intro htimely
      rw [hcleanups] at htimely
      exact .inr ⟨hcleared, htouches, (hsafe htimely).once⟩
  -- Whether the store did as told changes the outcome only.
  cases outcome with
  | suspend delay state' =>
    refine GoesOn.bind ((hsite.save_goes (fun _ => stable_if_timely) hcrash state').mono ?_)
    intro saved p' hp'
    have hahead : errand.GoesAhead gauge k base p' := by
      rcases hp' with hp' | hp'
      · exact Rest.goesAhead ⟨cleanups, hp'⟩ (houtcome delay state' rfl)
      · exact hcrash p' hp'
    cases saved <;> exact GoesOn.pure hahead
  | done result =>
    refine GoesOn.bind (hclear.mono fun cleared p' hp' => ?_)
    cases cleared <;> exact GoesOn.pure hp'
  | failed error =>
    refine GoesOn.bind (hclear.mono fun cleared p' hp' => ?_)
    cases cleared <;> exact GoesOn.pure hp'

/-! ## Rounds -/

/-- A round that finds an operation id runs the statement under it. -/
theorem round_goes {text : String} {state : Members}
    (hparams : errand.params.get? Defaults.statementKey = some (.str text))
    (hgauged : errand.IsGauged gauge text)
    (hid : state.get? Defaults.operationKey = some (.str (errand.draws k)))
    (h : errand.Site gauge (some state) (errand.draws k) base [] (errand.IsSafe gauge k) p) :
    GoesOn (errand.GoesAhead gauge k base) (errand.round errand.params state) p fun answer p' =>
      errand.Rest gauge k (some state) base p' ∧ answer.2 = 0 ∧
        ∀ delay state', answer.1 = .suspend delay state' →
          state'.get? Defaults.operationKey = some (.str (errand.draws k)) := by
  have hread : state.read? Defaults.operationKey Json.string? = .ok (some (errand.draws k)) := by
    unfold Members.read?
    rw [hid]
    rfl
  unfold round GuardedStatement.round
  rw [hparams]
  dsimp only
  rw [hread]
  refine GoesOn.bind ((execute_goes hgauged h).imp (fun _ hp' => hp'.goesAhead hid) ?_)
  intro result p' hp'
  exact GoesOn.pure ⟨hp', rfl, fun delay state' => outcome_keeps hid⟩

/-- A round that finds no operation id draws one. -/
theorem round_without_id {text : String} {state : Members}
    {post : Task.Outcome × Nat → Plant δ σ → Prop}
    (hparams : errand.params.get? Defaults.statementKey = some (.str text))
    (hid : state.get? Defaults.operationKey = none)
    (h : Goes crash errand.fresh p fun operation p' =>
      post (.checkpoint (state.set Defaults.operationKey (.str operation)), 0) p') :
    GoesOn crash (errand.round errand.params state) p post := by
  have hread : state.read? Defaults.operationKey Json.string? = .ok none := by
    unfold Members.read?
    rw [hid]
  unfold round GuardedStatement.round
  rw [hparams]
  dsimp only
  rw [hread]
  exact GoesOn.bind ((GoesOn.lift h).mono fun operation p' hp' => GoesOn.pure hp')

/-! ## Attempts -/

/-- A round that takes no time is in time. -/
theorem inTime_zero {m : Type → Type} (runner : Task.Runner m) (outcome : Task.Outcome) :
    runner.inTime outcome 0 = (outcome, 0) := by
  unfold Task.Runner.inTime
  split
  · exact if_neg (Nat.not_lt_zero _)
  · rfl

theorem Site.begun (h : errand.Site gauge kept id base cleanups good p) :
    errand.Site gauge kept id base [] good { p with cleanups := [] } :=
  ⟨h.kept, h.isCleared, h.touches, rfl, h.good, h.older, h.polite⟩

theorem attempt_of_not_cleared {post : Plant δ σ → Prop} (hcleared : p.isCleared = false)
    (h : GoesOn post (errand.runner.step errand.key errand.round errand.params)
      { p with cleanups := [] } fun _ p' => post p') :
    post (errand.attempt p) := by
  unfold attempt
  rw [if_neg (Bool.eq_false_iff.mp hcleared)]
  exact h.leaves

theorem attempt_of_cleared (hcleared : p.isCleared = true) : errand.attempt p = p := by
  unfold attempt
  rw [if_pos hcleared]

section Attempts

variable {text : String} (hparams : errand.params.get? Defaults.statementKey = some (.str text))
  (hgauged : errand.IsGauged gauge text)
include hparams hgauged

theorem attempt_underway (h : errand.IsUnderway gauge k base p) :
    errand.GoesAhead gauge k base (errand.attempt p) := by
  obtain ⟨state, cleanups, hid, hsite⟩ := h
  refine attempt_of_not_cleared hsite.isCleared (GoesOn.bind ((hsite.begun.load_goes
    (fun _ hpolite _ => hpolite.safe) (fun _ hp' => hp'.rest_of_safe.goesAhead hid)).mono ?_))
  rintro _ p₁ ⟨h₁, rfl | ⟨error, rfl⟩⟩
  -- The state was loaded, and a round under its id follows.
  · refine GoesOn.bind ((round_goes hparams hgauged hid h₁).mono ?_)
    rintro ⟨outcome, _⟩ p₂ ⟨h₂, rfl, houtcome⟩
    dsimp only
    rw [inTime_zero]
    refine GoesOn.bind ((persist_goes h₂ hid outcome houtcome).mono ?_)
    intro _ p₃ h₃
    exact GoesOn.pure h₃
  · exact GoesOn.pure (h₁.rest_of_safe.goesAhead hid)

omit hgauged in
theorem attempt_idle (h : errand.IsIdle gauge p) :
    errand.IsOpen gauge (errand.attempt p) := by
  obtain ⟨id, base, cleanups, hsite⟩ := h
  have hstable : ∀ change, errand.IsPolite gauge change → ∀ content,
      errand.IsUndone gauge content → errand.IsUndone gauge (change content) :=
    fun _ hpolite _ => hpolite.undone
  refine attempt_of_not_cleared hsite.isCleared (GoesOn.bind ((hsite.begun.load_goes hstable
    (fun _ hp' => .inl ⟨id, base, [], hp'⟩)).mono ?_))
  rintro _ p₁ ⟨h₁, rfl | ⟨error, rfl⟩⟩
  -- Without a state the round draws an id, which the store may or may not keep.
  · refine GoesOn.bind (round_without_id hparams rfl (h₁.fresh_goes hstable
      (fun _ hp' => .inl ⟨id, base, [], hp'⟩) ?_))
    intro k p₂ h₂
    dsimp only
    rw [inTime_zero]
    refine GoesOn.bind (GoesOn.bind ((h₂.save_goes hstable
      (fun _ hp' => .inl ⟨id, base, [], hp'⟩) _).mono ?_))
    intro saved p₃ h₃
    have hopen : errand.IsOpen gauge p₃ := by
      rcases h₃ with h₃ | h₃
      · refine .inr ⟨k, p₃.touches, _, [], ?_, (h₃.mono fun _ => .inl).rebased _⟩
        rw [Members.get?_set, if_pos rfl]
      · exact .inl ⟨id, base, [], h₃⟩
    cases saved <;> exact GoesOn.pure (GoesOn.pure hopen)
  · exact GoesOn.pure (.inl ⟨id, base, [], h₁⟩)

/-- Once an operation id is kept, attempts go ahead under it. -/
theorem attempt_ahead
    (h : errand.IsUnderway gauge k base p ∨ IsOver gauge (errand.draws k) base p) :
    errand.GoesAhead gauge k base (errand.attempt p) := by
  rcases h with hunderway | hover
  · exact attempt_underway hparams hgauged hunderway
  · rw [attempt_of_cleared hover.isCleared]
    exact fun _ => .inr hover

end Attempts

/-! ## Any number of attempts -/

/-- The gauge of a text for some data: that very data, and what one run of the text makes of it. -/
def runs (errand : Errand δ σ) (text : String) (d : δ) : Gauge δ where
  before d' := d' = d
  after d' := ∃ statement content content' changed, .ok statement ∈ errand.setup.language text ∧
    content.data = d ∧ statement.run content = .done content' changed ∧ content'.data = d'

/-- Every text that leaves the status table alone has a gauge. -/
theorem runs_isGauged {text : String} (hspares : errand.setup.Spares text) (d : δ) :
    errand.IsGauged (errand.runs text d) text :=
  ⟨hspares, fun statement hmem content content' changed hbefore hrun =>
    ⟨statement, content, content', changed, hmem, hbefore, hrun, rfl⟩⟩

/-- Where attempts begin: no state is kept, the statement was not applied, and whatever others do
leaves alone what they share with it. -/
structure IsFresh (errand : Errand δ σ) (gauge : Gauge δ) (start : Plant δ σ) : Prop where
  kept : errand.lasting.kept start.store errand.key = none
  isCleared : start.isCleared = false
  ready : errand.IsReady start.database.committed
  before : gauge.before start.database.committed.data
  older : ∀ w working, start.database.writer = some (w, working) →
    w < start.database.nextConnection
  polite : ∀ change stays, .others change stays ∈ start.turns → errand.IsPolite gauge change

/-- How far attempts have come. -/
def IsOnTrack (errand : Errand δ σ) (gauge : Gauge δ) (p : Plant δ σ) : Prop :=
  errand.IsIdle gauge p ∨
    ∃ k base, errand.IsUnderway gauge k base p ∨ IsOver gauge (errand.draws k) base p

theorem IsOnTrack.once (h : errand.IsOnTrack gauge p) :
    gauge.AtMostOnce p.database.committed.data := by
  rcases h with ⟨id, base, cleanups, hsite⟩ | ⟨k, base, ⟨state, cleanups, -, hsite⟩ | hover⟩
  · exact .inl hsite.good.before
  · exact hsite.good.once
  · exact hover.once

/-- A plant that keeps an operation id goes on under that id. -/
theorem IsOnTrack.of_kept {state : Members} (h : errand.IsOnTrack gauge p)
    (hkept : errand.lasting.kept p.store errand.key = some state)
    (hid : state.get? Defaults.operationKey = some (.str id)) :
    p.isCleared = true ∨
      ∃ k, errand.draws k = id ∧ errand.IsUnderway gauge k p.touches p := by
  rcases h with ⟨_, base, cleanups, hsite⟩ | ⟨k, base, ⟨state', cleanups, hid', hsite⟩ | hover⟩
  · rw [hsite.kept] at hkept
    cases hkept
  · have hsame := hsite.kept
    rw [hkept] at hsame
    obtain rfl := Option.some.inj hsame
    rw [hid] at hid'
    injection hid' with hid'
    injection hid' with hid'
    exact .inr ⟨k, hid'.symm, state, cleanups, hid' ▸ hid, hsite.rebased _⟩
  · exact .inl hover.isCleared

section Run

variable {text : String} {start : Plant δ σ}
  (hparams : errand.params.get? Defaults.statementKey = some (.str text))
  (hgauged : errand.IsGauged gauge text)
include hparams hgauged

theorem attempts_onTrack (hstart : errand.IsFresh gauge start) (n : Nat)
    (htimely : ∀ i ≤ n, errand.IsTimely (errand.attempts start i).cleanups) :
    errand.IsOnTrack gauge (errand.attempts start n) := by
  -- By induction on the attempts; only the first ones, as long as no id is kept, are idle.
  induction n with
  | zero =>
    refine .inl ⟨"", start.touches, start.cleanups, hstart.kept, hstart.isCleared, .refl _ _, rfl,
      ⟨hstart.ready, hstart.before⟩, hstart.older, hstart.polite⟩
  | succ n ih =>
    rcases ih fun i hi => htimely i (Nat.le_succ_of_le hi) with hidle | ⟨k, base, hahead⟩
    · rcases attempt_idle hparams hidle with hidle | ⟨k, base, hunderway⟩
      · exact .inl hidle
      · exact .inr ⟨k, base, .inl hunderway⟩
    · exact .inr ⟨k, base, attempt_ahead hparams hgauged hahead (htimely _ (Nat.le_refl _))⟩

/-- From an attempt that left an operation id on, every attempt goes ahead under it. -/
theorem attempts_ahead {m : Nat}
    (h : errand.IsUnderway gauge k base (errand.attempts start m) ∨
      IsOver gauge (errand.draws k) base (errand.attempts start m)) (n : Nat)
    (htimely : ∀ i ≤ m + n, errand.IsTimely (errand.attempts start i).cleanups) :
    errand.IsUnderway gauge k base (errand.attempts start (m + n)) ∨
      IsOver gauge (errand.draws k) base (errand.attempts start (m + n)) := by
  induction n with
  | zero => exact h
  | succ n ih =>
    have hahead := ih fun i hi => htimely i (Nat.le_succ_of_le hi)
    exact attempt_ahead hparams hgauged hahead (htimely _ (Nat.le_refl _))

omit hparams hgauged in
theorem attempts_of_cleared {m : Nat} (h : (errand.attempts start m).isCleared = true) (n : Nat) :
    errand.attempts start (m + n) = errand.attempts start m := by
  induction n with
  | zero => rfl
  | succ n ih =>
    have hcleared : (errand.attempts start (m + n)).isCleared = true := by rw [ih, h]
    exact (attempt_of_cleared hcleared).trans ih

end Run

/-- **At most once.** Let a guarded statement be attempted any number of times under one task key
that has no state at first, where every attempt may crash before any of its primitives, any of its
commits and rollbacks may fail, others may change the database politely between primitives or stay
in a transaction, and cleanups are timely. Then a round that finds no operation id calls no
primitive of the target and suspends with the next id; an id that is kept is the only one that is
named from there on, and is kept until the state is cleared; and the statement is applied at most
once. -/
theorem applied_at_most_once {text : String} {start : Plant δ σ}
    (hparams : errand.params.get? Defaults.statementKey = some (.str text))
    (hgauged : errand.IsGauged gauge text) (hstart : errand.IsFresh gauge start) (n : Nat)
    (htimely : ∀ i ≤ n, errand.IsTimely (errand.attempts start i).cleanups) :
    (∀ (state : Members) (p : Plant δ σ), state.get? Defaults.operationKey = none →
      GoesOn (fun p' => p'.touches = p.touches) (errand.round errand.params state) p
        fun answer p' => answer = (.suspend .zero
            (state.set Defaults.operationKey (.str (errand.draws p.drawn))), 0) ∧
          p'.drawn = p.drawn + 1 ∧ p'.touches = p.touches) ∧
      (∀ m ≤ n, ∀ state id,
        errand.lasting.kept (errand.attempts start m).store errand.key = some state →
        state.get? Defaults.operationKey = some (.str id) →
          OnlyNames id (errand.attempts start m).touches (errand.attempts start n).touches ∧
          ((errand.attempts start n).isCleared = true ∨ ∃ state',
            errand.lasting.kept (errand.attempts start n).store errand.key = some state' ∧
            state'.get? Defaults.operationKey = some (.str id))) ∧
      gauge.AtMostOnce (errand.attempts start n).database.committed.data := by
  refine ⟨fun state p hid => ?_, fun m hm state id hkept hid => ?_, ?_⟩
  · refine round_without_id hparams hid (Goes.bind (Goes.pause ?_ ?_ ?_))
    · exact fun turns _ => Goes.modifyGet ⟨rfl, rfl, rfl⟩
    · exact fun turns _ => rfl
    · exact fun change stays turns _ _ => Goes.modifyGet ⟨rfl, rfl, rfl⟩
  · obtain ⟨j, rfl⟩ := Nat.exists_eq_add_of_le hm
    have htrack := attempts_onTrack hparams hgauged hstart m fun i hi =>
      htimely i (Nat.le_trans hi (Nat.le_add_right m j))
    -- The plant is looked at anew from the attempt that left the id.
    rcases htrack.of_kept hkept hid with hcleared | ⟨k, rfl, hunderway⟩
    · rw [attempts_of_cleared hcleared]
      exact ⟨.refl _ _, .inl hcleared⟩
    · rcases attempts_ahead hparams hgauged (.inl hunderway) j htimely with
        ⟨state', cleanups, hid', hsite⟩ | hover
      · exact ⟨hsite.touches, .inr ⟨state', hsite.kept, hid'⟩⟩
      · exact ⟨hover.touches, .inl hover.isCleared⟩
  · exact (attempts_onTrack hparams hgauged hstart n htimely).once

end Errand

/-! ## A crash after the commit -/

namespace Counter

open Time (Duration Instant)

/-- A store that keeps the states themselves. -/
def states : LastingStore (String → Option Members) where
  store :=
    { load := fun key => do return .ok ((← get) key)
      save := fun key state => do
        modify fun s other => if other = key then some state else s other
        return .ok ()
      clear := fun key => do
        modify fun s other => if other = key then none else s other
        return .ok () }
  kept s key := s key
  load_kept _ _ := ⟨rfl, .inl rfl⟩
  save_kept _ _ _ := .inl (if_pos rfl)
  clear_kept _ _ := .inl (if_pos rfl)

/-- Counting once, under the key `load`. -/
def errand : Errand Counter (String → Option Members) where
  setup := setup (.ofSecs 86400)
  lasting := states
  key := "load"
  params := [(Defaults.statementKey, .str increment)]
  draws k := String.ofList (Decimal.ofNat k)

/-- The number is zero, or the text was run there once. -/
def gauge : Gauge Counter := errand.runs increment ⟨0⟩

/-- Somebody reads while the second attempt is to commit, and its rollback is refused. The third one
crashes after its commit, before it cleans up. The fourth one finds somebody in a transaction, who
is gone at the fifth. -/
def plant : Plant Counter (String → Option Members) where
  database :=
    { database fun n => .ofSeconds n with
      commits := [.refused .busy]
      rollbacks := [.refused (.failed "disk I/O error")] }
  store _ := none
  turns := List.replicate 24 .calm ++ [.crash, .calm, .others id true, .calm, .calm, .calm,
    .others id false]

theorem isGauged : errand.IsGauged gauge increment := Errand.runs_isGauged (spares _ _) _

theorem isFresh : errand.IsFresh gauge plant where
  kept := rfl
  isCleared := rfl
  ready _ hhas := by
    have habsent : plant.database.committed.catalog.has errand.setup.table.name = false := by
      decide +kernel
    rw [habsent] at hhas
    cases hhas
  before := rfl
  older := nofun
  polite change stays hmem := by
    have hcases : change = id ∧ stays = true ∨ change = id ∧ stays = false := by
      simpa [plant, List.mem_replicate] using hmem
    obtain rfl : change = id := hcases.elim And.left And.left
    exact ⟨fun _ h => h, fun _ h => h, fun _ h => h, fun _ rows hholds =>
      ⟨rows, hholds, fun _ _ hrow _ => hrow⟩⟩

theorem isTimely (i : Nat) (hi : i ≤ 5) : errand.IsTimely (errand.attempts plant i).cleanups := by
  have hearly : ∀ i < 5, (errand.attempts plant i).cleanups.isEmpty = true := by decide +kernel
  have hlast : (errand.attempts plant 5).cleanups.map (fun cleanup =>
      (cleanup.1, cleanup.2.map (·.created))) =
        [(.ofSeconds (-86394), [(Instant.ofSeconds 0).micros])] := by decide +kernel
  intro cleanup hmem k row hrow
  rcases Nat.lt_or_eq_of_le hi with hi | rfl
  · rw [List.isEmpty_iff.mp (hearly i hi)] at hmem
    cases hmem
  · have hcleanup := List.mem_map_of_mem (f := fun cleanup : Instant × List StatusRow =>
      (cleanup.1, cleanup.2.map (·.created))) hmem
    rw [hlast] at hcleanup
    obtain ⟨hcutoff, hrows⟩ := Prod.mk.inj (List.mem_singleton.mp hcleanup)
    have hcreated := List.mem_map_of_mem (f := (·.created)) (List.mem_of_find?_eq_some hrow)
    rw [hrows] at hcreated
    have hyear : (Instant.ofSeconds 0).HasPlainYear := ⟨by decide +kernel, by decide +kernel⟩
    refine ⟨.ofSeconds 0, hyear, List.mem_singleton.mp hcreated, ?_⟩
    rw [hcutoff]
    decide

theorem applied_at_most_once_counter :
    (∀ (state : Members) (p : Plant Counter (String → Option Members)),
        state.get? Defaults.operationKey = none →
          GoesOn (fun p' => p'.touches = p.touches) (errand.round errand.params state) p
            fun answer p' => answer = (.suspend .zero
                (state.set Defaults.operationKey (.str (errand.draws p.drawn))), 0) ∧
              p'.drawn = p.drawn + 1 ∧ p'.touches = p.touches) ∧
      (∀ m ≤ 5, ∀ state id,
        errand.lasting.kept (errand.attempts plant m).store errand.key = some state →
        state.get? Defaults.operationKey = some (.str id) →
          Errand.OnlyNames id (errand.attempts plant m).touches (errand.attempts plant 5).touches ∧
          ((errand.attempts plant 5).isCleared = true ∨ ∃ state',
            errand.lasting.kept (errand.attempts plant 5).store errand.key = some state' ∧
            state'.get? Defaults.operationKey = some (.str id))) ∧
      gauge.AtMostOnce (errand.attempts plant 5).database.committed.data :=
  Errand.applied_at_most_once rfl isGauged isFresh 5 isTimely

/-- The third attempt counts, and no later one counts again. -/
example : (List.range 6).map (fun n => (errand.attempts plant n).database.committed.data.value) =
    [0, 0, 0, 1, 1, 1] := by decide +kernel

end Counter

end RetrySafe
