import RetrySafe.Proofs.Session.Duplicate
import RetrySafe.Proofs.Session.Insertion

/-!
# Rows stay

No row of the store is ever removed, and no column changes but those that record what happens to it:
a project may be deleted once, an attempt finished once, and a session gets later attempts. New rows
come after those that are there, with ids above theirs, and new attempts are of live projects.

## Main definitions

* `Continues` — the rows of a table later on.
* `ProjectRow.Becomes`, `SessionRow.Becomes`, `AttemptRow.Becomes` — how a row may change.
* `Tables.Grows` — the tables later on.

## Main results

* `Tables.Grows.trans` — growth goes on.
* `history_grows` — tables grow along every history.
-/

namespace RetrySafe.Session

open Time (Instant)

/-! ## Rows of one table -/

/-- The rows of a table later on: every row is still in its place, changed in a permitted way, and
new ones come after them. -/
def Continues {Row : Type} (Becomes : Row → Row → Prop) (IsNew : Row → Prop) (rows rows' : List Row) :
    Prop :=
  ∃ kept new, rows' = kept ++ new ∧ List.Forall₂ Becomes rows kept ∧ ∀ row ∈ new, IsNew row

theorem forall₂_trans {α : Type} {R : α → α → Prop} (htrans : ∀ a b c, R a b → R b c → R a c)
    {l l' l'' : List α} (h : List.Forall₂ R l l') (h' : List.Forall₂ R l' l'') :
    List.Forall₂ R l l'' := by
  induction h generalizing l'' with
  | nil => exact h'
  | cons hab _ ih =>
    cases h' with
    | cons hbc hrest => exact .cons (htrans _ _ _ hab hbc) (ih hrest)

namespace Continues

variable {Row : Type} {Becomes : Row → Row → Prop} {IsNew IsNew' : Row → Prop}
  {rows rows' rows'' : List Row}

theorem refl (h : ∀ row, Becomes row row) : Continues Becomes IsNew rows rows :=
  ⟨rows, [], (List.append_nil _).symm, List.forall₂_same.mpr fun row _ => h row, nofun⟩

/-- Changes of single rows. -/
theorem map {f : Row → Row} (h : ∀ row ∈ rows, Becomes row (f row)) :
    Continues Becomes IsNew rows (rows.map f) := by
  refine ⟨rows.map f, [], (List.append_nil _).symm, ?_, nofun⟩
  rw [List.forall₂_map_right_iff, List.forall₂_same]
  exact h

/-- One more row. -/
theorem concat (h : ∀ row, Becomes row row) {row : Row} (hrow : IsNew row) :
    Continues Becomes IsNew rows (rows ++ [row]) :=
  ⟨rows, [row], rfl, List.forall₂_same.mpr fun row _ => h row,
    fun _ hmem => List.mem_singleton.mp hmem ▸ hrow⟩

theorem trans (htrans : ∀ a b c, Becomes a b → Becomes b c → Becomes a c)
    (hkeep : ∀ a b, IsNew a → Becomes a b → IsNew b) (hnew : ∀ row, IsNew' row → IsNew row)
    (h : Continues Becomes IsNew rows rows') (h' : Continues Becomes IsNew' rows' rows'') :
    Continues Becomes IsNew rows rows'' := by
  obtain ⟨kept, new, rfl, hkept, hisnew⟩ := h
  obtain ⟨kept', new', rfl, hkept', hisnew'⟩ := h'
  -- What was kept the second time is what was kept the first time, then what was new then.
  have hold := List.forall₂_take kept.length hkept'
  have hadded := List.forall₂_drop kept.length hkept'
  rw [List.take_left] at hold
  rw [List.drop_left] at hadded
  refine ⟨kept'.take kept.length, kept'.drop kept.length ++ new', ?_, ?_, ?_⟩
  · rw [← List.append_assoc, List.take_append_drop]
  · exact forall₂_trans htrans hkept hold
  · intro row hrow
    rcases List.mem_append.mp hrow with hrow | hrow
    · obtain ⟨row', hrow', hbecomes⟩ := Association.exists_of_mem hadded.flip hrow
      exact hkeep _ _ (hisnew row' hrow') hbecomes
    · exact hnew _ (hisnew' row hrow)

/-- A row is still there. -/
theorem exists_becomes (h : Continues Becomes IsNew rows rows') {row : Row} (hrow : row ∈ rows) :
    ∃ row' ∈ rows', Becomes row row' := by
  obtain ⟨kept, new, rfl, hkept, -⟩ := h
  obtain ⟨row', hrow', hbecomes⟩ := Association.exists_of_mem hkept hrow
  exact ⟨row', List.mem_append_left _ hrow', hbecomes⟩

end Continues

/-! ## How rows change -/

/-- A project may be deleted, once. -/
def ProjectRow.Becomes (p p' : ProjectRow) : Prop :=
  p' = { p with deleted := p'.deleted } ∧ (p.deleted ≠ none → p'.deleted = p.deleted)

/-- A session gets later attempts. -/
def SessionRow.Becomes (s s' : SessionRow) : Prop :=
  s' = { s with lastAttempt := s'.lastAttempt } ∧
    ∀ n, s.lastAttempt = some (.whole n) → ∃ n', s'.lastAttempt = some (.whole n') ∧ n ≤ n'

/-- An attempt may be finished, once. -/
def AttemptRow.Becomes (a a' : AttemptRow) : Prop :=
  a' = { a with finished := a'.finished, success := a'.success } ∧ (a.finished ≠ none → a' = a)

namespace ProjectRow.Becomes

variable {p p' p'' : ProjectRow}

theorem refl (p : ProjectRow) : p.Becomes p := ⟨rfl, fun _ => rfl⟩

theorem id (h : p.Becomes p') : p'.id = p.id := by rw [h.1]

theorem trans (h : p.Becomes p') (h' : p'.Becomes p'') : p.Becomes p'' := by
  obtain ⟨hsame, hdeleted⟩ := h
  obtain ⟨hsame', hdeleted'⟩ := h'
  refine ⟨by rw [hsame', hsame], fun hp => ?_⟩
  rw [← hdeleted hp]
  exact hdeleted' (hdeleted hp ▸ hp)

end ProjectRow.Becomes

namespace SessionRow.Becomes

variable {s s' s'' : SessionRow}

theorem refl (s : SessionRow) : s.Becomes s := ⟨rfl, fun n hn => ⟨n, hn, Int.le_refl n⟩⟩

theorem id (h : s.Becomes s') : s'.id = s.id := by rw [h.1]

theorem isOf (h : s.Becomes s') (key : Key) : s'.isOf key = s.isOf key := by
  rw [h.1]
  rfl

theorem trans (h : s.Becomes s') (h' : s'.Becomes s'') : s.Becomes s'' := by
  obtain ⟨hsame, hlast⟩ := h
  obtain ⟨hsame', hlast'⟩ := h'
  refine ⟨by rw [hsame', hsame], fun n hn => ?_⟩
  obtain ⟨n', hn', hle⟩ := hlast n hn
  obtain ⟨n'', hn'', hle'⟩ := hlast' n' hn'
  exact ⟨n'', hn'', Int.le_trans hle hle'⟩

end SessionRow.Becomes

namespace AttemptRow.Becomes

variable {a a' a'' : AttemptRow}

theorem refl (a : AttemptRow) : a.Becomes a := ⟨rfl, fun _ => rfl⟩

theorem id (h : a.Becomes a') : a'.id = a.id := by rw [h.1]

theorem project (h : a.Becomes a') : a'.project = a.project := by rw [h.1]

theorem trans (h : a.Becomes a') (h' : a'.Becomes a'') : a.Becomes a'' := by
  obtain ⟨hsame, hfinished⟩ := h
  obtain ⟨hsame', hfinished'⟩ := h'
  refine ⟨by rw [hsame', hsame], fun ha => ?_⟩
  obtain rfl := hfinished ha
  exact hfinished' ha

end AttemptRow.Becomes

/-! ## Growing tables -/

/-- A project that is new to some tables. -/
def Tables.IsNewProject (tables : Tables) (row : ProjectRow) : Prop :=
  ∀ p ∈ tables.projects, p.id < row.id

/-- A session that is new to some tables. -/
def Tables.IsNewSession (tables : Tables) (row : SessionRow) : Prop :=
  ∀ s ∈ tables.sessions, s.id < row.id

/-- An attempt that is new to some tables, and of no project that is deleted there. -/
def Tables.IsNewAttempt (tables : Tables) (row : AttemptRow) : Prop :=
  (∀ a ∈ tables.attempts, a.id < row.id) ∧
    ∀ p ∈ tables.projects, p.id = row.project → p.deleted = none

/-- The tables later on. -/
structure Tables.Grows (tables tables' : Tables) : Prop where
  projects : Continues ProjectRow.Becomes tables.IsNewProject tables.projects tables'.projects
  sessions : Continues SessionRow.Becomes tables.IsNewSession tables.sessions tables'.sessions
  attempts : Continues AttemptRow.Becomes tables.IsNewAttempt tables.attempts tables'.attempts

namespace Tables.Grows

variable {tables tables' tables'' : Tables}

theorem refl (tables : Tables) : tables.Grows tables where
  projects := .refl ProjectRow.Becomes.refl
  sessions := .refl SessionRow.Becomes.refl
  attempts := .refl AttemptRow.Becomes.refl

theorem trans (h : tables.Grows tables') (h' : tables'.Grows tables'') : tables.Grows tables'' where
  projects := by
    refine h.projects.trans (fun _ _ _ => ProjectRow.Becomes.trans) ?_ ?_ h'.projects
    · intro p p' hp hbecomes q hq
      rw [hbecomes.id]
      exact hp q hq
    · intro p hp q hq
      obtain ⟨q', hq', hbecomes⟩ := h.projects.exists_becomes hq
      rw [← hbecomes.id]
      exact hp q' hq'
  sessions := by
    refine h.sessions.trans (fun _ _ _ => SessionRow.Becomes.trans) ?_ ?_ h'.sessions
    · intro s s' hs hbecomes q hq
      rw [hbecomes.id]
      exact hs q hq
    · intro s hs q hq
      obtain ⟨q', hq', hbecomes⟩ := h.sessions.exists_becomes hq
      rw [← hbecomes.id]
      exact hs q' hq'
  attempts := by
    refine h.attempts.trans (fun _ _ _ => AttemptRow.Becomes.trans) ?_ ?_ h'.attempts
    · intro a a' ha hbecomes
      rw [Tables.IsNewAttempt, hbecomes.id, hbecomes.project]
      exact ha
    -- What is live later on was live before.
    · intro a ha
      refine ⟨fun q hq => ?_, fun p hp hid => ?_⟩
      · obtain ⟨q', hq', hbecomes⟩ := h.attempts.exists_becomes hq
        rw [← hbecomes.id]
        exact ha.1 q' hq'
      · obtain ⟨p', hp', hbecomes⟩ := h.projects.exists_becomes hp
        have hlive := ha.2 p' hp' (hbecomes.id.trans hid)
        by_contra hdeleted
        rw [hbecomes.2 hdeleted] at hlive
        exact hdeleted hlive

/-- An attempt that a session knows as its last one has an id below that of a new one. -/
theorem last_le (h : tables.IsConsistent) {row : AttemptRow}
    (hnew : ∀ a ∈ tables.attempts, a.id < row.id) {s : SessionRow} (hs : s ∈ tables.sessions) {n : Int}
    (hlast : s.lastAttempt = some (.whole n)) : n ≤ row.id := by
  rw [h.last s hs] at hlast
  obtain ⟨a, ha, hid⟩ := Option.map_eq_some_iff.mp hlast
  have hmem := (List.mem_filter.mp (List.mem_of_getLast? ha)).1
  rw [← Cell.whole.inj hid]
  exact Int.le_of_lt (hnew a hmem)

/-- An insertion. -/
theorem insert (h : tables.IsConsistent) {site : Int} {request : Request} {dependent : Option Int}
    {created : AttemptWithSession} {row : AttemptRow}
    (hinserts : Inserts tables site request dependent created row tables') :
    tables.Grows tables' where
  projects := by
    rw [hinserts.projects]
    exact .refl ProjectRow.Becomes.refl
  sessions := by
    have hreceives := hinserts.sessions
    have hlast (s : SessionRow) (hs : s ∈ tables.sessions) :
        s.Becomes { s with lastAttempt := some (.whole row.id) } :=
      ⟨rfl, fun n hn => ⟨row.id, rfl, last_le h hinserts.newest hs hn⟩⟩
    unfold IsNewSession
    generalize tables.sessions = l, tables'.sessions = l' at hreceives hlast ⊢
    cases hreceives with
    | found hkey hid =>
      rename_i before after s
      refine ⟨_, [], (List.append_nil _).symm, ?_, nofun⟩
      refine List.rel_append (List.forall₂_same.mpr fun s _ => .refl s) ?_
      exact .cons (hlast s (List.mem_append_right _ List.mem_cons_self))
        (List.forall₂_same.mpr fun s _ => .refl s)
    | added hnone hnew hkey hid hlast => exact .concat SessionRow.Becomes.refl hnew
  attempts := by
    rw [hinserts.attempts]
    refine .concat AttemptRow.Becomes.refl ⟨hinserts.newest, fun p hp hid => ?_⟩
    obtain ⟨project, hproject, hpid, -, hlive⟩ := hinserts.live
    have hof : row.project = request.project := by
      rw [hinserts.written]
      exact hinserts.ofProject
    rw [List.inj_on_of_nodup_map h.sound.projects hp hproject (hid.trans (hof.trans hpid.symm)), hlive]

/-- A session keeps its id and its key. -/
theorem exists_isOf_iff (h : tables.Grows tables') (hkeyed : tables.IsKeyed)
    (hkeyed' : tables'.IsKeyed) {id : Int} (hid : ∃ s ∈ tables.sessions, s.id = id) (key : Key) :
    (∃ s ∈ tables'.sessions, s.id = id ∧ s.isOf key = true) ↔
      ∃ s ∈ tables.sessions, s.id = id ∧ s.isOf key = true := by
  obtain ⟨s, hs, rfl⟩ := hid
  obtain ⟨s', hs', hbecomes⟩ := h.sessions.exists_becomes hs
  constructor
  · rintro ⟨s'', hs'', hid, hkey⟩
    rw [List.inj_on_of_nodup_map hkeyed' hs'' hs' (hid.trans hbecomes.id.symm), hbecomes.isOf] at hkey
    exact ⟨s, hs, rfl, hkey⟩
  · rintro ⟨s'', hs'', hid, hkey⟩
    rw [List.inj_on_of_nodup_map hkeyed hs'' hs hid, ← hbecomes.isOf] at hkey
    exact ⟨s', hs', hbecomes.id, hkey⟩

/-- Every operation. -/
theorem step (h : tables.IsConsistent) {reads : Instant → Prop} {event : Event}
    (hstep : Step reads tables event tables') : tables.Grows tables' := by
  cases hstep with
  | unchanged hnone hfinish => exact refl tables
  | created hnow hid =>
    exact ⟨.concat ProjectRow.Becomes.refl fun p hp => lt_of_nextId hid p.id (List.mem_map_of_mem hp),
      .refl SessionRow.Becomes.refl, .refl AttemptRow.Becomes.refl⟩
  | deleted hnow =>
    refine ⟨.map fun p _ => ?_, .refl SessionRow.Becomes.refl, .refl AttemptRow.Becomes.refl⟩
    split
    · rename_i hlive
      rw [Store.isLive, Bool.and_eq_true, Option.isNone_iff_eq_none] at hlive
      exact ⟨rfl, fun hdeleted => absurd hlive.2 hdeleted⟩
    · exact .refl p
  | submitted hfirst hsecond hvalid hinserted =>
    obtain ⟨-, row, hrow⟩ := inserts_of_inserted h.sound.sessions hinserted
    exact insert h hrow
  | finished hnow hopen =>
    refine ⟨.refl ProjectRow.Becomes.refl, .refl SessionRow.Becomes.refl, .map fun a _ => ?_⟩
    split
    · rename_i hopen
      rw [Store.isOpen, Bool.and_eq_true, Option.isNone_iff_eq_none] at hopen
      exact ⟨rfl, fun hfinished => absurd hopen.2 hfinished⟩
    · exact .refl a
  | closed hclosed hthere => exact refl tables

end Tables.Grows

/-- Tables grow along every history. -/
theorem history_grows {operations : List Operation} {store store' : Store} {events : List Event}
    (h : store.tables.IsConsistent)
    (hrun : ((history operations).run store).run = (events, store')) :
    store.tables.Grows store'.tables :=
  (history_invariant (fun tables _ => tables.IsConsistent ∧ store.tables.Grows tables)
    (fun _ _ _ _ _ htables hstep =>
      ⟨htables.1.step hstep, htables.2.trans (Tables.Grows.step htables.1 hstep)⟩)
    ⟨h, .refl _⟩ hrun).2

end RetrySafe.Session
