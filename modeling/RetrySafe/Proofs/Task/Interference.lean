import RetrySafe.Proofs.Task.Attempt

/-!
# What crashes and interference leave

An attempt that uses an operation id leaves the database in one of two ways: the statement was not
applied yet, or it was applied and the row of the operation says so. Crashes and polite interference
keep both. The primitives of a connection are walked through one by one from here, outside of a
transaction and inside.

## Main definitions

* `Gauge` — what tells from the data how often a statement was applied.
* `Errand.IsPolite` — interference that leaves the gauge and the rows of the errand alone.
* `Errand.IsSafe` — the statement was not applied, or it was applied and recorded.
* `Errand.Site` — a plant while an operation id is in use.
* `Outside`, `Inside`, `IsLeft` — whether a connection is in a transaction, or still in one.

## Main results

* `touch_outside`, `touch_inside` — what may happen before a primitive.
-/

namespace RetrySafe

open Plant
open Time (Clock Duration Instant)

variable {δ σ α : Type}

/-! ## Turns -/

/-- A connection is not in a transaction. -/
structure Outside (c : ConnectionId) (p : Plant δ σ) : Prop where
  lt : c < p.database.nextConnection
  ne : ∀ w working, p.database.writer = some (w, working) → w ≠ c

/-- A connection is in a transaction with a working copy. -/
def Inside (c : ConnectionId) (working : Content δ) (p : Plant δ σ) : Prop :=
  p.database.writer = some (c, working)

/-- A connection was in a transaction, and something is left of it or not. -/
def IsLeft (c : ConnectionId) (left : Option (Content δ)) (p : Plant δ σ) : Prop :=
  left.elim (Outside c p) (Inside c · p)

namespace Database

variable {db : Database δ} {c : ConnectionId} {working : Content δ} {on : Option ConnectionId}
  {change : Content δ → Content δ} {stays : Bool}

/-- What the standing of a database says of it. -/
theorem of_standing {committed : Content δ} {writer : Option (ConnectionId × Content δ)}
    {clock : Clock} {next : ConnectionId} (h : db.standing = ⟨committed, writer, clock, next⟩) :
    db.committed = committed ∧ db.writer = writer ∧ db.nextConnection = next :=
  ⟨congrArg Standing.committed h, congrArg Standing.writer h, congrArg Standing.next h⟩

theorem dropped_cases (db : Database δ) (on : Option ConnectionId) :
    (db.dropped on).committed = db.committed ∧
      (db.dropped on).nextConnection = db.nextConnection ∧
      ((db.dropped on).writer = db.writer ∨ (db.dropped on).writer = none) := by
  cases on with
  | none => exact ⟨rfl, rfl, .inl rfl⟩
  | some c =>
    simp only [dropped, abandoned, forgotten]
    split
    · split <;> exact ⟨rfl, rfl, .inr rfl⟩
    · exact ⟨rfl, rfl, .inl rfl⟩

theorem interfered_inside (h : db.writer = some (c, working)) :
    db.interfered (some c) change stays = db := by
  simp [interfered, inTransaction, h]

/-- Interference does nothing, or somebody else with a new number has changed what is committed. -/
theorem interfered_cases (db : Database δ) (on : Option ConnectionId)
    (change : Content δ → Content δ) (stays : Bool) :
    db.interfered on change stays = db ∨
      (db.interfered on change stays).committed = change db.committed ∧
      (db.interfered on change stays).nextConnection = db.nextConnection + 1 ∧
      ∀ w working, (db.interfered on change stays).writer = some (w, working) →
        w = db.nextConnection := by
  unfold interfered
  split
  · exact .inl rfl
  · refine .inr ⟨rfl, rfl, ?_⟩
    cases stays with
    | true =>
      rintro w working ⟨⟩
      rfl
    | false => exact nofun

end Database

namespace Outside

variable {c : ConnectionId} {p : Plant δ σ}

/-- A connection outside of a transaction finds nobody in one, or somebody else. -/
theorem standing (hout : Outside c p) :
    p.database.writer = none ∧ p.database.standing =
        ⟨p.database.committed, none, p.database.clock, p.database.nextConnection⟩ ∨
      ∃ w working, w ≠ c ∧ p.database.writer = some (w, working) ∧ p.database.standing =
        ⟨p.database.committed, some (w, working), p.database.clock,
          p.database.nextConnection⟩ := by
  cases hwriter : p.database.writer with
  | none => exact .inl ⟨rfl, by rw [Database.standing, hwriter]⟩
  | some writer =>
    obtain ⟨w, working⟩ := writer
    have hne := hout.ne w working hwriter
    exact .inr ⟨w, working, hne, rfl, by rw [Database.standing, hwriter]⟩

theorem inTransaction (hout : Outside c p) : p.database.inTransaction c = false := by
  rcases hout.standing with ⟨hwriter, -⟩ | ⟨w, working, hne, hwriter, -⟩
  · simp [Database.inTransaction, hwriter]
  · simp [Database.inTransaction, hwriter, hne]

theorem interfered (hout : Outside c p) (on : Option ConnectionId)
    (change : Content δ → Content δ) (stays : Bool) (turns : List (Turn δ)) :
    Outside c { p with turns, database := p.database.interfered on change stays } := by
  rcases p.database.interfered_cases on change stays with hsame | ⟨-, hnext, hwriter⟩
  · rw [hsame]
    exact ⟨hout.lt, hout.ne⟩
  -- Whoever interferes has a new number.
  · refine ⟨?_, fun w working hw => ?_⟩
    · rw [hnext]
      exact Nat.lt_succ_of_lt hout.lt
    · rw [hwriter w working hw]
      exact Nat.ne_of_gt hout.lt

end Outside

theorem Inside.standing {c : ConnectionId} {working : Content δ} {p : Plant δ σ}
    (hin : Inside c working p) : p.database.standing =
    ⟨p.database.committed, some (c, working), p.database.clock, p.database.nextConnection⟩ := by
  rw [Database.standing, hin]

/-- The next turn is none, or a calm one, a crash or interference. -/
theorem Goes.pause {p : Plant δ σ} {crash : Plant δ σ → Prop} {on : Option ConnectionId}
    {post : Unit → Plant δ σ → Prop}
    (hcalm : ∀ turns, turns <:+ p.turns → post () { p with turns })
    (hcrash : ∀ turns, turns <:+ p.turns →
      crash { p with turns, database := p.database.dropped on })
    (hothers : ∀ change stays turns, .others change stays ∈ p.turns → turns <:+ p.turns →
      post () { p with turns, database := p.database.interfered on change stays }) :
    Goes crash (pause on) p post := by
  have hrun : ((Plant.pause on : AttemptM δ σ Unit).run.run p).run = p.turned on := rfl
  unfold Goes
  rw [hrun]
  unfold turned
  cases hturns : p.turns with
  | nil =>
    have hsame := hcalm [] List.nil_suffix
    rwa [← hturns] at hsame
  | cons turn turns =>
    have hsuffix : turns <:+ p.turns := hturns ▸ List.suffix_cons turn turns
    cases turn with
    | calm => exact hcalm turns hsuffix
    | crash => exact hcrash turns hsuffix
    | others change stays =>
      exact hothers change stays turns (hturns ▸ List.mem_cons_self) hsuffix

/-! ## Errands -/

variable [HasTables δ]

/-- What tells from the data how often a statement was applied: what holds before it was, and what
holds after it was once. -/
structure Gauge (δ : Type) where
  before : δ → Prop
  after : δ → Prop

/-- The statement was applied at most once. -/
def Gauge.AtMostOnce (gauge : Gauge δ) (d : δ) : Prop := gauge.before d ∨ gauge.after d

namespace Errand

/-- The table of the name, if there is one, is a status table, unless the database keeps that name
for itself. -/
def IsReady (errand : Errand δ σ) (content : Content δ) : Prop :=
  Catalog.isReserved errand.setup.table.name = false →
    content.catalog.has errand.setup.table.name = true →
      ∃ rows, content.Holds errand.setup.table rows

/-- A change by somebody else that leaves alone what the gauge reads, and the rows of the errand's
operations once they are completed. -/
structure IsPolite (errand : Errand δ σ) (gauge : Gauge δ) (change : Content δ → Content δ) :
    Prop where
  before : ∀ content, gauge.before content.data → gauge.before (change content).data
  after : ∀ content, gauge.after content.data → gauge.after (change content).data
  ready : ∀ content, errand.IsReady content → errand.IsReady (change content)
  rows : ∀ content rows, content.Holds errand.setup.table rows →
    ∃ rows', (change content).Holds errand.setup.table rows' ∧ ∀ k row,
      rowOf (errand.draws k) rows = some row → row.completed ≠ none →
        rowOf (errand.draws k) rows' = some row

/-- A statement that leaves the status table alone, and the gauge tells that it was run. -/
structure IsGauged (errand : Errand δ σ) (gauge : Gauge δ) (text : String) : Prop where
  spares : errand.setup.Spares text
  applies : ∀ statement, .ok statement ∈ errand.setup.language text →
    ∀ content content' changed, gauge.before content.data →
      statement.run content = .done content' changed → gauge.after content'.data

/-- Cleanups that come within the retention after the registration of every row of the errand: the
cutoff, which is the retention before the cleanup, is not later than the time that the row holds,
which is in a year of four digits, as times are compared by their texts. -/
def IsTimely (errand : Errand δ σ) (cleanups : List (Instant × List StatusRow)) : Prop :=
  ∀ cleanup ∈ cleanups, ∀ k row, rowOf (errand.draws k) cleanup.2 = some row →
    ∃ t : Instant, t.HasPlainYear ∧ row.created = t.micros ∧ cleanup.1 ≤ t

section Safe

variable (errand : Errand δ σ) (gauge : Gauge δ) (k : Nat)

/-- The statement was not applied. -/
structure IsUndone (content : Content δ) : Prop where
  ready : errand.IsReady content
  before : gauge.before content.data

/-- The statement was applied at most once, and the row of its operation says that it was. -/
def IsDone (content : Content δ) : Prop :=
  gauge.AtMostOnce content.data ∧ ∃ rows row, content.Holds errand.setup.table rows ∧
    rowOf (errand.draws k) rows = some row ∧ row.completed ≠ none

/-- The statement was not applied, or it was and is on record. -/
def IsSafe (content : Content δ) : Prop :=
  errand.IsUndone gauge content ∨ errand.IsDone gauge k content

/-- The same where the status table has been created. -/
structure IsPrepared (content : Content δ) : Prop where
  safe : errand.IsSafe gauge k content
  holds : ∃ rows, content.Holds errand.setup.table rows

end Safe

section Polite

variable {errand : Errand δ σ} {gauge : Gauge δ} {k : Nat} {content : Content δ}
  {change : Content δ → Content δ}

theorem IsPolite.undone (h : errand.IsPolite gauge change)
    (hcontent : errand.IsUndone gauge content) :
    errand.IsUndone gauge (change content) :=
  ⟨h.ready content hcontent.ready, h.before content hcontent.before⟩

theorem IsPolite.safe (h : errand.IsPolite gauge change)
    (hcontent : errand.IsSafe gauge k content) :
    errand.IsSafe gauge k (change content) := by
  refine hcontent.imp h.undone ?_
  rintro ⟨honce, rows, row, hholds, hrow, hcompleted⟩
  obtain ⟨rows', hholds', hkept⟩ := h.rows content rows hholds
  exact ⟨honce.imp (h.before content) (h.after content), rows', row, hholds',
    hkept k row hrow hcompleted, hcompleted⟩

theorem IsPolite.prepared (h : errand.IsPolite gauge change)
    (hcontent : errand.IsPrepared gauge k content) :
    errand.IsPrepared gauge k (change content) := by
  obtain ⟨rows, hholds⟩ := hcontent.holds
  obtain ⟨rows', hholds', -⟩ := h.rows content rows hholds
  exact ⟨h.safe hcontent.safe, rows', hholds'⟩

end Polite

/-- Of the calls since some others, each that names an operation names this one. -/
def OnlyNames (id : String) (base touches : List (Option String)) : Prop :=
  ∃ new, touches = base ++ new ∧ ∀ operation, some operation ∈ new → operation = id

/-- A plant while an operation id is in use, or before one is: the state that is kept, what has been
touched since, the cleanups so far, and something that holds of what is committed. -/
structure Site (errand : Errand δ σ) (gauge : Gauge δ) (kept : Option Members) (id : String)
    (base : List (Option String)) (cleanups : List (Instant × List StatusRow))
    (good : Content δ → Prop) (p : Plant δ σ) : Prop where
  kept : errand.lasting.kept p.store errand.key = kept
  isCleared : p.isCleared = false
  touches : OnlyNames id base p.touches
  cleanups : p.cleanups = cleanups
  good : good p.database.committed
  older : ∀ w working, p.database.writer = some (w, working) → w < p.database.nextConnection
  polite : ∀ change stays, .others change stays ∈ p.turns → errand.IsPolite gauge change

theorem OnlyNames.refl (id : String) (touches : List (Option String)) :
    OnlyNames id touches touches :=
  ⟨[], (List.append_nil _).symm, nofun⟩

theorem OnlyNames.append {id : String} {base touches : List (Option String)}
    {operation : Option String} (h : OnlyNames id base touches)
    (hnamed : operation = none ∨ operation = some id) :
    OnlyNames id base (touches ++ [operation]) := by
  obtain ⟨new, rfl, hnames⟩ := h
  refine ⟨new ++ [operation], List.append_assoc _ _ _, fun other hother => ?_⟩
  rcases List.mem_append.mp hother with hother | hother
  · exact hnames other hother
  · rw [← List.mem_singleton.mp hother] at hnamed
    rcases hnamed with hnamed | hnamed
    · cases hnamed
    · exact Option.some.inj hnamed

namespace Site

variable {errand : Errand δ σ} {gauge : Gauge δ} {kept : Option Members} {id : String}
  {base : List (Option String)} {cleanups : List (Instant × List StatusRow)}
  {good good' : Content δ → Prop} {p : Plant δ σ} {crash : Plant δ σ → Prop} {c : ConnectionId}
  {on : Option ConnectionId} {operation : Option String} {working : Content δ}

theorem database (h : errand.Site gauge kept id base cleanups good p) {db : Database δ}
    (hgood : good' db.committed)
    (holder : ∀ w working, db.writer = some (w, working) → w < db.nextConnection) :
    errand.Site gauge kept id base cleanups good' { p with database := db } :=
  ⟨h.kept, h.isCleared, h.touches, h.cleanups, hgood, holder, h.polite⟩

theorem mono (h : errand.Site gauge kept id base cleanups good p)
    (hgood : ∀ content, good content → good' content) :
    errand.Site gauge kept id base cleanups good' p :=
  h.database (hgood _ h.good) h.older

theorem turns (h : errand.Site gauge kept id base cleanups good p) {turns : List (Turn δ)}
    (hturns : turns <:+ p.turns) :
    errand.Site gauge kept id base cleanups good { p with turns } :=
  ⟨h.kept, h.isCleared, h.touches, h.cleanups, h.good, h.older,
    fun change stays hmem => h.polite change stays (hturns.subset hmem)⟩

theorem journal (h : errand.Site gauge kept id base cleanups good p) (journal : Journal) :
    errand.Site gauge kept id base cleanups good { p with journal } :=
  ⟨h.kept, h.isCleared, h.touches, h.cleanups, h.good, h.older, h.polite⟩

/-- One more call, which names the operation if it names one. -/
theorem touched (h : errand.Site gauge kept id base cleanups good p)
    (hnamed : operation = none ∨ operation = some id) :
    errand.Site gauge kept id base cleanups good
      { p with touches := p.touches ++ [operation] } :=
  ⟨h.kept, h.isCleared, h.touches.append hnamed, h.cleanups, h.good, h.older, h.polite⟩

/-- The attempt crashes. -/
theorem dropped (h : errand.Site gauge kept id base cleanups good p) {turns : List (Turn δ)}
    (hturns : turns <:+ p.turns) (on : Option ConnectionId) :
    errand.Site gauge kept id base cleanups good
      { p with turns, database := p.database.dropped on } := by
  obtain ⟨hcommitted, hnext, hwriter⟩ := p.database.dropped_cases on
  refine (h.turns hturns).database (hcommitted ▸ h.good) ?_
  rw [hnext]
  rcases hwriter with hwriter | hwriter
  · rw [hwriter]
    exact h.older
  · rw [hwriter]
    exact nofun

/-- Somebody else may change the database. -/
theorem interfered (h : errand.Site gauge kept id base cleanups good p)
    (hstable : ∀ change, errand.IsPolite gauge change → ∀ content, good content →
      good (change content))
    {change : Content δ → Content δ} {stays : Bool} {turns : List (Turn δ)}
    (hmem : .others change stays ∈ p.turns) (hturns : turns <:+ p.turns) :
    errand.Site gauge kept id base cleanups good
      { p with turns, database := p.database.interfered on change stays } := by
  rcases p.database.interfered_cases on change stays with hsame | ⟨hcommitted, hnext, hwriter⟩
  · rw [hsame]
    exact h.turns hturns
  · refine (h.turns hturns).database ?_ fun w working hw => ?_
    · rw [hcommitted]
      exact hstable change (h.polite change stays hmem) _ h.good
    · rw [hwriter w working hw, hnext]
      exact Nat.lt_succ_self _

/-- What a turn does before a primitive. -/
theorem pause (h : errand.Site gauge kept id base cleanups good p)
    (hstable : ∀ change, errand.IsPolite gauge change → ∀ content, good content →
      good (change content))
    (hcrash : ∀ p', errand.Site gauge kept id base cleanups good p' → crash p') :
    Goes crash (Plant.pause on) p fun _ p' =>
      errand.Site gauge kept id base cleanups good p' ∧ ∀ c, Outside c p → Outside c p' :=
  Goes.pause
    (fun _ hturns => ⟨h.turns hturns, fun _ hout => ⟨hout.lt, hout.ne⟩⟩)
    (fun _ hturns => hcrash _ (h.dropped hturns on))
    (fun change stays turns hmem hturns =>
      ⟨h.interfered hstable hmem hturns, fun _ hout => hout.interfered on change stays turns⟩)

theorem touch (h : errand.Site gauge kept id base cleanups good p)
    (hstable : ∀ change, errand.IsPolite gauge change → ∀ content, good content →
      good (change content))
    (hcrash : ∀ p', errand.Site gauge kept id base cleanups good p' → crash p')
    (hnamed : operation = none ∨ operation = some id) :
    Goes crash (Plant.touch on operation) p fun _ p' =>
      errand.Site gauge kept id base cleanups good p' ∧ ∀ c, Outside c p → Outside c p' := by
  refine Goes.bind (Goes.modify (((h.touched hnamed).pause hstable hcrash).mono ?_))
  rintro _ p' ⟨h', hout⟩
  exact ⟨h', fun c hc => hout c ⟨hc.lt, hc.ne⟩⟩

theorem touch_outside (h : errand.Site gauge kept id base cleanups good p)
    (hstable : ∀ change, errand.IsPolite gauge change → ∀ content, good content →
      good (change content))
    (hcrash : ∀ p', errand.Site gauge kept id base cleanups good p' → crash p')
    (hout : Outside c p) (hnamed : operation = none ∨ operation = some id) :
    Goes crash (Plant.touch (some c) operation) p fun _ p' =>
      errand.Site gauge kept id base cleanups good p' ∧ Outside c p' :=
  (h.touch hstable hcrash hnamed).mono fun _ _ hp' => ⟨hp'.1, hp'.2 c hout⟩

/-- While the attempt is in a transaction, a turn is calm or a crash. -/
theorem touch_inside (h : errand.Site gauge kept id base cleanups good p)
    (hcrash : ∀ p', errand.Site gauge kept id base cleanups good p' → crash p')
    (hin : Inside c working p) (hnamed : operation = none ∨ operation = some id) :
    Goes crash (Plant.touch (some c) operation) p fun _ p' =>
      errand.Site gauge kept id base cleanups good p' ∧ Inside c working p' := by
  have htouched := h.touched hnamed
  refine Goes.bind (Goes.modify (Goes.pause (fun turns hturns => ⟨htouched.turns hturns, hin⟩)
    (fun turns hturns => hcrash _ (htouched.dropped hturns _)) ?_))
  intro change stays turns _ hturns
  dsimp only
  -- Others wait until the transaction is over.
  rw [Database.interfered_inside hin]
  exact ⟨htouched.turns hturns, hin⟩

end Site

end Errand

end RetrySafe
