import RetrySafe.Proofs.Task.Interference

/-!
# A guarded statement under crashes

The primitives of a guarded statement are taken one by one, each after its turn. Outside of a
transaction what is committed stays safe. Inside one, the working copy is safe until the statement
has run and again from the moment that its completion is recorded, and only then it is committed. If
the commit fails, or the statement takes the transaction along, what is committed stays as it was.

## Main definitions

* `Errand.Rest` — a plant that an attempt may leave behind.

## Main results

* `commit_goes`, `conclude_goes` — a transaction that is to be committed, and what comes of it.
* `executeStrict_goes` — a guarded call leaves what is committed safe, wherever it crashes.
* `execute_goes` — so does a guarded statement with its cleanup.
-/

namespace RetrySafe

open Plant
open Time (Clock Duration Instant)

variable {δ σ α : Type} [HasTables δ]

namespace Errand

/-- A plant that an attempt may leave behind: what is committed is safe, if cleanups were timely. -/
def Rest (errand : Errand δ σ) (gauge : Gauge δ) (k : Nat) (kept : Option Members)
    (base : List (Option String)) (p : Plant δ σ) : Prop :=
  ∃ cleanups, errand.Site gauge kept (errand.draws k) base cleanups
    (fun content => errand.IsTimely cleanups → errand.IsSafe gauge k content) p

variable {errand : Errand δ σ} {gauge : Gauge δ} {k : Nat} {kept : Option Members}
  {base : List (Option String)} {cleanups : List (Instant × List StatusRow)}
  {p : Plant δ σ} {c : ConnectionId} {content working : Content δ} {rows rows' : List StatusRow}
  {good good' : Content δ → Prop} {id : String}

/-! ## What is prepared -/

/-- Rows may change as long as the row of the operation stays once it is completed. -/
theorem IsPrepared.withRows (h : errand.IsPrepared gauge k content)
    (hholds : content.Holds errand.setup.table rows)
    (hrows : ∀ row, rowOf (errand.draws k) rows = some row → row.completed ≠ none →
      rowOf (errand.draws k) rows' = some row) :
    errand.IsPrepared gauge k (content.withRows errand.setup.table.name rows') := by
  refine ⟨h.safe.imp (fun hundone => ?_) ?_, _, hholds.withRows rows'⟩
  -- As long as the statement was not applied, any rows will do.
  · exact ⟨fun _ _ => ⟨_, hholds.withRows rows'⟩, hundone.before⟩
  · rintro ⟨honce, old, row, hold, hrow, hcompleted⟩
    rw [hold.unique hholds] at hrow
    exact ⟨honce, rows', row, hholds.withRows rows', hrows row hrow hcompleted, hcompleted⟩

/-- A new status table, or the one that is there. -/
theorem IsSafe.withTable (h : errand.IsSafe gauge k content)
    (hname : Catalog.isReserved errand.setup.table.name = false) :
    errand.IsPrepared gauge k
      (if content.catalog.has errand.setup.table.name then content
        else content.withTable errand.setup.table.name) := by
  split
  · rename_i hhas
    refine ⟨h, ?_⟩
    rcases h with hundone | ⟨-, rows, -, hholds, -⟩
    · exact hundone.ready hname hhas
    · exact ⟨rows, hholds⟩
  -- Without a table no row can say that the statement was applied.
  · rename_i hhas
    have hholds := Content.holds_withTable (Bool.eq_false_iff.mpr hhas)
    refine ⟨?_, [], hholds⟩
    rcases h with hundone | ⟨-, rows, -, hthere, -⟩
    · exact .inl ⟨fun _ _ => ⟨[], hholds⟩, hundone.before⟩
    · exact absurd hthere.has hhas

/-! ## Outside of a transaction -/

/-- A primitive outside of a transaction leaves who is in one as it was. -/
theorem Site.outside_after (h : errand.Site gauge kept id base cleanups good p)
    (hout : Outside c p) {db : Database δ} {committed : Content δ} {clock : Clock}
    (hdb : db.standing = ⟨committed, p.database.writer, clock, p.database.nextConnection⟩)
    (hgood : good' committed) :
    errand.Site gauge kept id base cleanups good' { p with database := db } ∧
      Outside c { p with database := db } := by
  obtain ⟨hcommitted, hwriter, hnext⟩ := Database.of_standing hdb
  refine ⟨h.database (hcommitted ▸ hgood) ?_, ?_, ?_⟩
  · rw [hwriter, hnext]
    exact h.older
  · rw [hnext]
    exact hout.lt
  · rw [hwriter]
    exact hout.ne

theorem Site.rest_of_safe
    (h : errand.Site gauge kept (errand.draws k) base cleanups (errand.IsSafe gauge k) p) :
    errand.Rest gauge k kept base p :=
  ⟨cleanups, h.mono fun _ hsafe _ => hsafe⟩

theorem Site.rest_of_prepared
    (h : errand.Site gauge kept (errand.draws k) base cleanups (errand.IsPrepared gauge k) p) :
    errand.Rest gauge k kept base p :=
  ⟨cleanups, h.mono fun _ hprepared _ => hprepared.safe⟩

/-- A call outside of a transaction, after its turn. -/
theorem Site.call_outside {action : DatabaseM δ α} {post : α → Plant δ σ → Prop}
    {operation : Option String}
    (h : errand.Site gauge kept (errand.draws k) base [] (errand.IsPrepared gauge k) p)
    (hout : Outside c p) (hnamed : operation = none ∨ operation = some (errand.draws k))
    (hcall : ∀ p', errand.Site gauge kept (errand.draws k) base [] (errand.IsPrepared gauge k) p' →
      Outside c p' → Ends Database.standing action p'.database fun a standing =>
        ∀ db : Database δ, db.standing = standing → post a { p' with database := db }) :
    Goes (errand.Rest gauge k kept base)
      (Plant.touch (some c) operation >>= fun _ => Database.perform action) p post := by
  refine Goes.bind ((h.touch_outside (fun _ hpolite _ => hpolite.prepared)
    (fun _ => Site.rest_of_prepared) hout hnamed).mono ?_)
  rintro _ p' ⟨h', hout'⟩
  exact Goes.perform (hcall p' h' hout')

theorem createTable_goes
    (h : errand.Site gauge kept (errand.draws k) base [] (errand.IsSafe gauge k) p)
    (hout : Outside c p) :
    Goes (errand.Rest gauge k kept base)
      ((errand.target c).createTable errand.setup.table) p fun answer p' =>
        (answer = .ok () →
          errand.Site gauge kept (errand.draws k) base [] (errand.IsPrepared gauge k) p') ∧
        errand.Site gauge kept (errand.draws k) base [] (errand.IsSafe gauge k) p' ∧
        Outside c p' := by
  refine Goes.bind ((h.touch_outside (fun _ hpolite _ => hpolite.safe) (fun _ => Site.rest_of_safe)
    hout (.inl rfl)).mono fun _ p' hp' => ?_)
  obtain ⟨h', hout'⟩ := hp'
  refine Goes.perform ?_
  cases hname : Catalog.isReserved errand.setup.table.name with
  | true =>
    refine (Database.createTable_reserved hname p'.database c).ends fun db hdb => ⟨nofun, ?_⟩
    exact h'.outside_after hout' hdb h'.good
  | false =>
    have hprepared := IsSafe.withTable h'.good hname
    rcases hout'.standing with ⟨hwriter, hstanding⟩ | ⟨w, working, hne, hwriter, hstanding⟩
    · refine (Database.createTable_free hstanding c hname).ends fun db hdb => ?_
      rw [← hwriter] at hdb
      have hafter := h'.outside_after hout' hdb hprepared
      exact ⟨fun _ => hafter.1, hafter.1.mono fun _ => IsPrepared.safe, hafter.2⟩
    -- Somebody else is in a transaction: the table is there, or the answer is an error.
    · obtain ⟨answer, hhas, hleads⟩ := Database.createTable_locked hstanding hne hname
      refine hleads.ends fun db hdb => ?_
      rw [← hwriter] at hdb
      refine ⟨fun hok => ?_, h'.outside_after hout' hdb h'.good⟩
      rw [if_pos (hhas hok)] at hprepared
      exact (h'.outside_after hout' hdb hprepared).1

theorem register_goes
    (h : errand.Site gauge kept (errand.draws k) base [] (errand.IsPrepared gauge k) p)
    (hout : Outside c p) :
    Goes (errand.Rest gauge k kept base)
      ((errand.target c).register errand.setup.table (errand.draws k)) p fun _ p' =>
        errand.Site gauge kept (errand.draws k) base [] (errand.IsPrepared gauge k) p' ∧
        Outside c p' := by
  refine h.call_outside hout (.inr rfl) fun p' h' hout' => ?_
  obtain ⟨rows, hholds⟩ := h'.good.holds
  rcases hout'.standing with ⟨hwriter, hstanding⟩ | ⟨w, working, hne, hwriter, hstanding⟩
  · refine (Database.register_free hstanding hholds c _).ends fun db hdb => ?_
    rw [← hwriter] at hdb
    refine h'.outside_after hout' hdb (h'.good.withRows hholds fun row hrow _ => ?_)
    -- A row that is there already stays as it is.
    rw [Database.registered_of_row hrow, hrow]
  · refine (Database.register_locked hstanding hne hholds _).ends fun db hdb => ?_
    rw [← hwriter] at hdb
    exact h'.outside_after hout' hdb h'.good

/-- Where a transaction begins, its working copy is what is committed. -/
theorem start_goes
    (h : errand.Site gauge kept (errand.draws k) base [] (errand.IsPrepared gauge k) p)
    (hout : Outside c p) :
    Goes (errand.Rest gauge k kept base) (errand.target c).start p fun answer p' =>
      errand.Site gauge kept (errand.draws k) base [] (errand.IsPrepared gauge k) p' ∧
      (answer = .ok () ∧ (∃ working, Inside c working p' ∧
          errand.IsPrepared gauge k working) ∨
        (∃ error, answer = .error error) ∧ Outside c p') := by
  refine h.call_outside hout (.inl rfl) fun p' h' hout' => ?_
  rcases hout'.standing with ⟨hwriter, hstanding⟩ | ⟨w, working, hne, hwriter, hstanding⟩
  · refine (Database.start_free hstanding c).ends fun db hdb => ?_
    obtain ⟨hcommitted, hin, hnext⟩ := Database.of_standing hdb
    refine ⟨h'.database (hcommitted ▸ h'.good) ?_, .inl ⟨rfl, _, hin, h'.good⟩⟩
    rw [hin, hnext]
    rintro w working ⟨⟩
    exact hout'.lt
  · refine (Database.start_locked hstanding hne).ends fun db hdb => ?_
    rw [← hwriter] at hdb
    have hafter := h'.outside_after hout' hdb h'.good
    exact ⟨hafter.1, .inr ⟨⟨_, rfl⟩, hafter.2⟩⟩

/-! ## Inside a transaction -/

/-- The statement has not been applied to a working copy that is to be committed. -/
theorem IsPrepared.of_open (h : errand.IsPrepared gauge k working)
    (hholds : working.Holds errand.setup.table rows)
    (hopen : Database.completion (errand.draws k) rows = .ok none) :
    gauge.before working.data := by
  rcases h.safe with hundone | ⟨-, old, row, hold, hrow, hcompleted⟩
  · exact hundone.before
  · rw [hold.unique hholds] at hrow
    rcases Database.completion_of_completed hrow hcompleted with ⟨t, ht⟩ | ⟨error, herror⟩
    · rw [ht] at hopen
      cases hopen
    · rw [herror] at hopen
      cases hopen

/-- A primitive inside a transaction leaves what is committed as it was. -/
theorem Site.inside_after (h : errand.Site gauge kept id base cleanups good p)
    (hin : Inside c working p) {db : Database δ} {working' : Content δ} {clock : Clock}
    (hdb : db.standing = ⟨p.database.committed, some (c, working'), clock,
      p.database.nextConnection⟩) :
    errand.Site gauge kept id base cleanups good { p with database := db } ∧
      Inside c working' { p with database := db } := by
  obtain ⟨hcommitted, hwriter, hnext⟩ := Database.of_standing hdb
  refine ⟨h.database (hcommitted ▸ h.good) ?_, hwriter⟩
  rw [hwriter, hnext]
  rintro w _ ⟨⟩
  exact h.older c working hin

/-- A primitive that ends the transaction. -/
theorem Site.ended_after (h : errand.Site gauge kept id base cleanups good p)
    (hin : Inside c working p) {db : Database δ} {committed : Content δ} {clock : Clock}
    (hdb : db.standing = ⟨committed, none, clock, p.database.nextConnection⟩)
    (hgood : good' committed) :
    errand.Site gauge kept id base cleanups good' { p with database := db } ∧
      Outside c { p with database := db } := by
  obtain ⟨hcommitted, hwriter, hnext⟩ := Database.of_standing hdb
  refine ⟨h.database (hcommitted ▸ hgood) ?_, ?_, ?_⟩
  · rw [hwriter]
    exact nofun
  · rw [hnext]
    exact h.older c working hin
  · rw [hwriter]
    exact nofun

/-- A primitive that may end the transaction without a commit. -/
theorem Site.left_after (h : errand.Site gauge kept id base cleanups good p)
    (hin : Inside c working p) {db : Database δ} {left : Option (Content δ)} {clock : Clock}
    (hdb : db.standing = ⟨p.database.committed, left.map (c, ·), clock,
      p.database.nextConnection⟩) :
    errand.Site gauge kept id base cleanups good { p with database := db } ∧
      IsLeft c left { p with database := db } := by
  cases left with
  | some working' => exact h.inside_after hin hdb
  | none => exact h.ended_after hin hdb h.good

/-- A call inside a transaction, after its turn. -/
theorem Site.call_inside {action : DatabaseM δ α} {post : α → Plant δ σ → Prop}
    {operation : Option String}
    (h : errand.Site gauge kept (errand.draws k) base [] (errand.IsPrepared gauge k) p)
    (hin : Inside c working p) (hnamed : operation = none ∨ operation = some (errand.draws k))
    (hcall : ∀ p', errand.Site gauge kept (errand.draws k) base [] (errand.IsPrepared gauge k) p' →
      Inside c working p' → Ends Database.standing action p'.database fun a standing =>
        ∀ db : Database δ, db.standing = standing → post a { p' with database := db }) :
    Goes (errand.Rest gauge k kept base)
      (Plant.touch (some c) operation >>= fun _ => Database.perform action) p post := by
  refine Goes.bind ((h.touch_inside (fun _ => Site.rest_of_prepared) hin hnamed).mono ?_)
  rintro _ p' ⟨h', hin'⟩
  exact Goes.perform (hcall p' h' hin')

theorem lock_goes
    (h : errand.Site gauge kept (errand.draws k) base [] (errand.IsPrepared gauge k) p)
    (hin : Inside c working p) (hholds : working.Holds errand.setup.table rows) :
    Goes (errand.Rest gauge k kept base)
      ((errand.target c).lock errand.setup.table (errand.draws k)) p fun answer p' =>
        answer = Database.completion (errand.draws k) rows ∧
        errand.Site gauge kept (errand.draws k) base [] (errand.IsPrepared gauge k) p' ∧
        Inside c working p' := by
  refine h.call_inside hin (.inr rfl) fun p' h' hin' => ?_
  refine (Database.lookAt_inside hin'.standing hholds _).ends fun db hdb => ⟨rfl, ?_⟩
  exact h'.inside_after hin' hdb

/-- A statement that succeeds has been run once in the working copy. -/
theorem execute_statement_goes {text : String} (hgauged : errand.IsGauged gauge text)
    (h : errand.Site gauge kept (errand.draws k) base [] (errand.IsPrepared gauge k) p)
    (hin : Inside c working p) (hholds : working.Holds errand.setup.table rows)
    (hbefore : gauge.before working.data) :
    Goes (errand.Rest gauge k kept base) ((errand.target c).execute text) p fun answer p' =>
      errand.Site gauge kept (errand.draws k) base [] (errand.IsPrepared gauge k) p' ∧
      ∃ left, IsLeft c left p' ∧ ∀ count, answer = .ok count → ∃ working', left = some working' ∧
        working'.Holds errand.setup.table rows ∧ gauge.AtMostOnce working'.data := by
  refine h.call_inside hin (.inl rfl) fun p' h' hin' => ?_
  refine (Database.execute_inside hin'.standing _).mono ?_
  rintro answer _ ⟨left, hran, rfl⟩ db hdb
  obtain ⟨hsite, hleft⟩ := h'.left_after hin' hdb
  refine ⟨hsite, left, hleft, fun count hok => ?_⟩
  -- Whatever the statement did is in the working copy only.
  cases hran with
  | kept => exact ⟨working, rfl, hholds, .inl hbefore⟩
  | @left statement working' hmem hcontent =>
    refine ⟨working', rfl, hgauged.spares statement hmem _ _ _ hholds hcontent, .inr ?_⟩
    cases hrun : statement.run working with
    | done content changed =>
      rw [hrun] at hcontent
      obtain rfl := Option.some.inj hcontent
      exact hgauged.applies statement hmem working _ changed hbefore hrun
    | abort message => simp [hrun, Statement.Outcome.report] at hok
    | fail message content => simp [hrun, Statement.Outcome.report] at hok
    | rollback message => simp [hrun, Statement.Outcome.report] at hok
  | taken => cases hok

/-- Once its completion is recorded, the working copy may be committed. -/
theorem mark_goes {row : StatusRow}
    (h : errand.Site gauge kept (errand.draws k) base [] (errand.IsPrepared gauge k) p)
    (hin : Inside c working p) (hholds : working.Holds errand.setup.table rows)
    (honce : gauge.AtMostOnce working.data) (hrow : rowOf (errand.draws k) rows = some row) :
    Goes (errand.Rest gauge k kept base)
      ((errand.target c).mark errand.setup.table (errand.draws k)) p fun answer p' =>
        answer = .ok () ∧
        errand.Site gauge kept (errand.draws k) base [] (errand.IsPrepared gauge k) p' ∧
        ∃ working', Inside c working' p' ∧ errand.IsPrepared gauge k working' := by
  refine h.call_inside hin (.inr rfl) fun p' h' hin' => ?_
  refine (Database.mark_inside hin'.standing hholds _).ends fun db hdb => ⟨rfl, ?_⟩
  obtain ⟨hsite, hin''⟩ := h'.inside_after hin' hdb
  have hmarked := hholds.withRows
    (Database.marked (errand.draws k) p'.database.clock.now.micros rows)
  have hcompleted : rowOf (errand.draws k)
      (Database.marked (errand.draws k) p'.database.clock.now.micros rows) =
        some { row with completed := some p'.database.clock.now.micros } := by
    rw [Database.rowOf_marked_self, hrow, Option.map_some]
  exact ⟨hsite, _, hin'', .inr ⟨honce, _, _, hmarked, hcompleted, nofun⟩, _, hmarked⟩

/-- A commit puts the working copy in place, or what is committed stays as it was. -/
theorem commit_goes
    (h : errand.Site gauge kept (errand.draws k) base [] (errand.IsPrepared gauge k) p)
    (hin : Inside c working p) (hworking : errand.IsPrepared gauge k working) :
    Goes (errand.Rest gauge k kept base) (errand.target c).commit p fun answer p' =>
      errand.Site gauge kept (errand.draws k) base [] (errand.IsPrepared gauge k) p' ∧
      (answer = .ok () ∧ Outside c p' ∨
        (∃ error, answer = .error error) ∧ ∃ left, IsLeft c left p') := by
  refine h.call_inside hin (.inl rfl) fun p' h' hin' => ?_
  refine (Database.commit_inside hin'.standing).mono ?_
  rintro answer _ (⟨rfl, rfl⟩ | ⟨herror, left, rfl⟩) db hdb
  · obtain ⟨hsite, hout⟩ := h'.ended_after hin' hdb hworking
    exact ⟨hsite, .inl ⟨rfl, hout⟩⟩
  · obtain ⟨hsite, hleft⟩ := h'.left_after hin' hdb
    exact ⟨hsite, .inr ⟨herror, left, hleft⟩⟩

/-- A rollback leaves what is committed as it was, whatever is left of the transaction. -/
theorem rollback_goes {left : Option (Content δ)}
    (h : errand.Site gauge kept (errand.draws k) base [] (errand.IsPrepared gauge k) p)
    (hleft : IsLeft c left p) :
    Goes (errand.Rest gauge k kept base) (errand.target c).rollback p fun _ p' =>
      errand.Site gauge kept (errand.draws k) base [] (errand.IsPrepared gauge k) p' := by
  cases left with
  | some working =>
    refine h.call_inside hleft (.inl rfl) fun p' h' hin' => ?_
    refine (Database.rollback_inside hin'.standing).mono ?_
    rintro answer _ ⟨left', rfl⟩ db hdb
    exact (h'.left_after hin' hdb).1
  | none =>
    refine h.call_outside hleft (.inl rfl) fun p' h' hout' => ?_
    rw [Ends, Database.rollback_outside hout'.inTransaction]
    exact fun db hdb => (h'.outside_after hout' hdb h'.good).1

/-! ## A guarded call -/

/-- The statement as the action of a guarded call. -/
def action (errand : Errand δ σ) (c : ConnectionId) (text : String) :
    AttemptM δ σ (Except GuardError Unit) := do
  return (← (errand.target c).execute text).map fun _ => ()

/-- Inside the transaction: what ends well may be committed. -/
theorem runLocked_goes {text : String} (hgauged : errand.IsGauged gauge text)
    (h : errand.Site gauge kept (errand.draws k) base [] (errand.IsPrepared gauge k) p)
    (hin : Inside c working p) (hworking : errand.IsPrepared gauge k working) :
    Goes (errand.Rest gauge k kept base)
      (Guard.runLocked (errand.target c) errand.setup.table (errand.draws k)
        (errand.action c text)) p fun result p' =>
        errand.Site gauge kept (errand.draws k) base [] (errand.IsPrepared gauge k) p' ∧
        ∃ left, IsLeft c left p' ∧ ∀ execution, result = .ok execution →
          ∃ working', left = some working' ∧ errand.IsPrepared gauge k working' := by
  obtain ⟨rows, hholds⟩ := hworking.holds
  refine Goes.bind ((lock_goes h hin hholds).mono ?_)
  rintro _ p₁ ⟨rfl, h₁, hin₁⟩
  cases hcompletion : Database.completion (errand.draws k) rows with
  | error error => exact Goes.pure ⟨h₁, some working, hin₁, nofun⟩
  | ok time =>
    cases time with
    | some t => exact Goes.pure ⟨h₁, some working, hin₁, fun _ _ => ⟨working, rfl, hworking⟩⟩
    | none =>
      -- The row is open, so the working copy has not seen the statement yet.
      have hbefore := hworking.of_open hholds hcompletion
      obtain ⟨row, hrow⟩ := Database.row_of_completion hcompletion
      refine Goes.bind (Goes.bind ((execute_statement_goes hgauged h₁ hin₁ hholds hbefore).mono ?_))
      rintro changed p₂ ⟨h₂, left, hleft, happlied⟩
      cases changed with
      | error error => exact Goes.pure (Goes.pure ⟨h₂, left, hleft, nofun⟩)
      | ok changed =>
        obtain ⟨working₂, rfl, hholds₂, honce₂⟩ := happlied changed rfl
        refine Goes.pure (Goes.bind ((mark_goes h₂ hleft hholds₂ honce₂ hrow).mono ?_))
        rintro _ p₃ ⟨rfl, h₃, working₃, hin₃, hworking₃⟩
        exact Goes.pure ⟨h₃, some working₃, hin₃, fun _ _ => ⟨working₃, rfl, hworking₃⟩⟩

/-- What was done in the transaction is taken back, so it need not be safe. -/
theorem takeBack_goes {left : Option (Content δ)}
    (h : errand.Site gauge kept (errand.draws k) base [] (errand.IsPrepared gauge k) p)
    (hleft : IsLeft c left p) (occasion : String) :
    Goes (errand.Rest gauge k kept base) (Guard.takeBack (errand.target c) occasion) p fun _ p' =>
      errand.Site gauge kept (errand.draws k) base [] (errand.IsPrepared gauge k) p' := by
  refine Goes.bind ((rollback_goes h hleft).mono ?_)
  intro answer p' h'
  cases answer with
  | ok => exact Goes.pure h'
  | error error => exact Goes.warn fun journal => h'.journal journal

/-- A call that ends well has ended its transaction. -/
theorem conclude_goes
    (h : errand.Site gauge kept (errand.draws k) base [] (errand.IsPrepared gauge k) p)
    (hin : Inside c working p) (hworking : errand.IsPrepared gauge k working)
    (execution : Execution) :
    Goes (errand.Rest gauge k kept base)
      (Guard.conclude (errand.target c) (errand.draws k) execution) p fun result p' =>
        errand.Site gauge kept (errand.draws k) base [] (errand.IsPrepared gauge k) p' ∧
        ((∃ execution, result = .ok execution) → Outside c p') := by
  refine Goes.bind ((commit_goes h hin hworking).mono ?_)
  rintro _ p₁ ⟨h₁, ⟨rfl, hout⟩ | ⟨⟨error, rfl⟩, left, hleft⟩⟩
  · exact Goes.pure ⟨h₁, fun _ => hout⟩
  · refine Goes.bind ((takeBack_goes h₁ hleft "commit").mono ?_)
    intro _ p₂ h₂
    -- The call may warn that its action was not recorded.
    split
    · refine Goes.bind (Goes.bind (Goes.warn fun journal => Goes.pure (Goes.pure ?_)))
      exact ⟨h₂.journal journal, by simp⟩
    · exact Goes.pure ⟨h₂, by simp⟩

/-- A guarded call leaves what is committed safe, wherever it crashes. -/
theorem executeStrict_goes {text : String} (hgauged : errand.IsGauged gauge text)
    (h : errand.Site gauge kept (errand.draws k) base [] (errand.IsPrepared gauge k) p)
    (hout : Outside c p) :
    Goes (errand.Rest gauge k kept base)
      (Guard.executeStrict (errand.target c) errand.setup.table (errand.draws k)
        (errand.action c text)) p fun result p' =>
        errand.Site gauge kept (errand.draws k) base [] (errand.IsPrepared gauge k) p' ∧
        ((∃ execution, result = .ok execution) → Outside c p') := by
  refine Goes.bind ((register_goes h hout).mono ?_)
  rintro registered p₁ ⟨h₁, hout₁⟩
  cases registered with
  | error error => exact Goes.pure ⟨h₁, by simp⟩
  | ok =>
    refine Goes.bind ((start_goes h₁ hout₁).mono ?_)
    rintro started p₂ ⟨h₂, ⟨rfl, working, hin, hworking⟩ | ⟨⟨error, rfl⟩, -⟩⟩
    · refine Goes.bind ((runLocked_goes hgauged h₂ hin hworking).mono ?_)
      rintro result p₃ ⟨h₃, left, hleft, hprepared⟩
      cases result with
      | ok execution =>
        obtain ⟨working₃, rfl, hworking₃⟩ := hprepared execution rfl
        exact conclude_goes h₃ hleft hworking₃ execution
      | error error =>
        refine Goes.bind ((takeBack_goes h₃ hleft "guarded action").mono ?_)
        intro _ p₄ h₄
        exact Goes.pure ⟨h₄, by simp⟩
    · exact Goes.pure ⟨h₂, by simp⟩

/-- The status table is created first. -/
theorem executeGuarded_goes {text : String} (hgauged : errand.IsGauged gauge text)
    (h : errand.Site gauge kept (errand.draws k) base [] (errand.IsSafe gauge k) p)
    (hout : Outside c p) :
    Goes (errand.Rest gauge k kept base)
      (errand.task.executeGuarded (errand.target c) text (errand.draws k)) p fun result p' =>
        ((∃ execution, result = .ok execution) →
          errand.Site gauge kept (errand.draws k) base [] (errand.IsPrepared gauge k) p' ∧
          Outside c p') ∧
        errand.Site gauge kept (errand.draws k) base [] (errand.IsSafe gauge k) p' := by
  refine Goes.bind ((createTable_goes h hout).mono ?_)
  rintro created p₁ ⟨hprepared, h₁, hout₁⟩
  cases created with
  | error error => exact Goes.pure ⟨by simp, h₁⟩
  | ok =>
    refine (executeStrict_goes hgauged (hprepared rfl) hout₁).mono ?_
    rintro result p₂ ⟨h₂, hout₂⟩
    exact ⟨fun hok => ⟨h₂, hout₂ hok⟩, h₂.mono fun _ => IsPrepared.safe⟩

/-! ## Cleaning up -/

/-- Something that holds once cleanups were timely is as stable as what is safe. -/
theorem stable_if_timely {change : Content δ → Content δ} (hpolite : errand.IsPolite gauge change)
    (content : Content δ)
    (h : errand.IsTimely cleanups → errand.IsSafe gauge k content) :
    errand.IsTimely cleanups → errand.IsSafe gauge k (change content) :=
  fun htimely => hpolite.safe (h htimely)

/-- A timely cleanup leaves the row of the operation. -/
theorem IsPrepared.purged (h : errand.IsPrepared gauge k content)
    (hholds : content.Holds errand.setup.table rows) {cutoff : Instant}
    (htimely : errand.IsTimely [(cutoff, rows)]) :
    errand.IsPrepared gauge k (content.withRows errand.setup.table.name
      (rows.filter fun row => !Database.isStale cutoff.micros row)) := by
  refine h.withRows hholds fun row hrow _ => Database.rowOf_filter hrow ?_
  -- A row that was registered no earlier than the cutoff is not stale.
  obtain ⟨t, hyear, hcreated, hle⟩ := htimely _ (List.mem_singleton_self _) k row hrow
  have hfresh := Instant.not_micros_lt_micros hle hyear
  simpa [Database.isStale, hcreated] using hfresh

theorem purge_goes
    (h : errand.Site gauge kept (errand.draws k) base [] (errand.IsPrepared gauge k) p)
    (hout : Outside c p) (cutoff : Instant) :
    Goes (errand.Rest gauge k kept base)
      ((errand.target c).purge errand.setup.table cutoff) p fun _ p' =>
        errand.Rest gauge k kept base p' := by
  refine Goes.bind ((h.touch_outside (fun _ hpolite _ => hpolite.prepared)
    (fun _ => Site.rest_of_prepared) hout (.inl rfl)).mono fun _ p' hp' => ?_)
  obtain ⟨h', hout'⟩ := hp'
  obtain ⟨rows, hholds⟩ := h'.good.holds
  refine Goes.bind (Goes.modify ?_)
  rw [hholds.getD, h'.cleanups, List.nil_append]
  -- From here on the plant is safe only if this cleanup was timely.
  have hnoted : errand.Site gauge kept (errand.draws k) base [(cutoff, rows)]
      (errand.IsPrepared gauge k) { p' with cleanups := [(cutoff, rows)] } :=
    ⟨h'.kept, h'.isCleared, h'.touches, rfl, h'.good, h'.older, h'.polite⟩
  have hout'' : Outside c { p' with cleanups := [(cutoff, rows)] } := ⟨hout'.lt, hout'.ne⟩
  refine Goes.perform ?_
  rcases hout''.standing with ⟨hwriter, hstanding⟩ | ⟨w, working, hne, hwriter, hstanding⟩
  · refine (Database.purge_free hstanding hholds c cutoff).ends fun db hdb => ?_
    rw [← hwriter] at hdb
    refine ⟨_, (hnoted.outside_after hout'' hdb fun htimely => ?_).1⟩
    exact (h'.good.purged hholds htimely).safe
  · refine (Database.purge_locked hstanding hne hholds cutoff).ends fun db hdb => ?_
    rw [← hwriter] at hdb
    exact ⟨_, (hnoted.outside_after hout'' hdb fun _ => h'.good.safe).1⟩

theorem now_goes
    (h : errand.Site gauge kept (errand.draws k) base [] (errand.IsPrepared gauge k) p)
    (hout : Outside c p) :
    Goes (errand.Rest gauge k kept base) (errand.target c).now p fun _ p' =>
      errand.Site gauge kept (errand.draws k) base [] (errand.IsPrepared gauge k) p' ∧
      Outside c p' := by
  refine h.call_outside hout (.inl rfl) fun p' h' hout' => ?_
  refine (Database.now_leads rfl).ends fun db hdb => ?_
  exact h'.outside_after hout' hdb h'.good

theorem cleanup_goes
    (h : errand.Site gauge kept (errand.draws k) base [] (errand.IsPrepared gauge k) p)
    (hout : Outside c p) :
    GoesOn (errand.Rest gauge k kept base) (errand.setup.guard.cleanup (errand.target c)) p
      fun _ p' => errand.Rest gauge k kept base p' := by
  unfold Guard.cleanup Setup.guard
  dsimp only
  split
  · exact GoesOn.pure h.rest_of_prepared
  · refine GoesOn.bind ((GoesOn.lift (now_goes h hout)).mono ?_)
    rintro now p₁ ⟨h₁, hout₁⟩
    cases now.minus? errand.setup.retention.nanos with
    | none => exact h₁.rest_of_prepared
    | some cutoff => exact GoesOn.lift (purge_goes h₁ hout₁ cutoff)

theorem cleanupBestEffort_goes
    (h : errand.Site gauge kept (errand.draws k) base [] (errand.IsPrepared gauge k) p)
    (hout : Outside c p) :
    GoesOn (errand.Rest gauge k kept base)
      (errand.setup.guard.cleanupBestEffort (errand.target c)) p fun _ p' =>
        errand.Rest gauge k kept base p' := by
  refine GoesOn.bind ((cleanup_goes h hout).mono ?_)
  intro cleaned p₁ h₁
  cases cleaned with
  | ok deleted => exact GoesOn.pure h₁
  | error error =>
    obtain ⟨cleanups, hsite⟩ := h₁
    exact GoesOn.lift (Goes.warn fun journal => ⟨cleanups, hsite.journal journal⟩)

/-! ## A guarded statement -/

theorem close_goes (h : errand.Rest gauge k kept base p) :
    Goes (errand.Rest gauge k kept base)
      (do touch (some c) none; Database.perform (Database.close (δ := δ) c) :
        AttemptM δ σ Unit) p fun _ p' => errand.Rest gauge k kept base p' := by
  obtain ⟨cleanups, hsite⟩ := h
  refine Goes.bind ((hsite.touch (fun _ => stable_if_timely) (fun p' hp' => ⟨cleanups, hp'⟩)
    (.inl rfl)).mono ?_)
  rintro _ p' ⟨h', -⟩
  have hclosed := h'.dropped (List.suffix_refl p'.turns) (some c)
  exact ⟨cleanups, hclosed⟩

/-- On a connection of the attempt. -/
theorem executeOn_goes {text : String} (hgauged : errand.IsGauged gauge text)
    (h : errand.Site gauge kept (errand.draws k) base [] (errand.IsSafe gauge k) p)
    (hout : Outside c p) :
    GoesOn (errand.Rest gauge k kept base)
      (errand.task.executeOn (errand.target c) text (errand.draws k)) p fun _ p' =>
        errand.Rest gauge k kept base p' := by
  refine GoesOn.bind ((GoesOn.lift (executeGuarded_goes hgauged h hout)).mono ?_)
  rintro result p₁ ⟨hprepared, h₁⟩
  cases result with
  | error error => exact GoesOn.pure h₁.rest_of_safe
  | ok execution =>
    obtain ⟨h₂, hout₂⟩ := hprepared ⟨execution, rfl⟩
    refine GoesOn.bind ((cleanupBestEffort_goes h₂ hout₂).mono ?_)
    intro _ p₂ h₂
    exact GoesOn.pure h₂

/-- A new connection is outside of a transaction. -/
theorem newConnection_goes {crash : Plant δ σ → Prop}
    (h : errand.Site gauge kept id base cleanups good p) :
    Goes crash (Database.perform (Database.newConnection (δ := δ)) : AttemptM δ σ ConnectionId) p
      fun c p' => errand.Site gauge kept id base cleanups good p' ∧ Outside c p' := by
  refine Goes.perform fun db hdb => ?_
  obtain ⟨hcommitted, hwriter, hnext⟩ := Database.of_standing hdb
  refine ⟨h.database (hcommitted ▸ h.good) fun w working hw => ?_, ?_, fun w working hw => ?_⟩
  · rw [hwriter] at hw
    rw [hnext]
    exact Nat.lt_succ_of_lt (h.older w working hw)
  · rw [hnext]
    exact Nat.lt_succ_self _
  · rw [hwriter] at hw
    exact Nat.ne_of_lt (h.older w working hw)

/-- A guarded statement with its cleanup leaves what is committed safe, wherever it crashes. -/
theorem execute_goes {text : String} (hgauged : errand.IsGauged gauge text)
    (h : errand.Site gauge kept (errand.draws k) base [] (errand.IsSafe gauge k) p) :
    GoesOn (errand.Rest gauge k kept base)
      (errand.task.execute text (errand.draws k)) p fun _ p' =>
        errand.Rest gauge k kept base p' := by
  refine Goes.bind (Goes.bind ((h.touch (fun _ hpolite _ => hpolite.safe)
    (fun _ => Site.rest_of_safe) (.inl rfl)).mono ?_))
  rintro _ p₁ ⟨h₁, -⟩
  refine Goes.bind ((newConnection_goes h₁).mono ?_)
  rintro c p₂ ⟨h₂, hout⟩
  refine Goes.pure (Goes.bind (Goes.mono (executeOn_goes hgauged h₂ hout) ?_))
  intro result p₃ hresult
  -- The connection is closed whether or not the cleanup left the calendar.
  have h₃ : errand.Rest gauge k kept base p₃ := by
    cases result <;> exact hresult
  refine Goes.bind ((close_goes h₃).mono ?_)
  intro _ p₄ h₄
  cases result <;> exact Goes.pure h₄

end Errand

end RetrySafe
