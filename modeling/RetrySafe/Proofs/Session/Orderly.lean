import RetrySafe.Proofs.Session.Atomicity
import RetrySafe.Proofs.Session.Growth

/-!
# Orderly rows

Whatever is done to a store, its rows stay in order: one session for each key, one attempt for each
name of a session, the last attempt of a session being the one with the largest id, and an attempt
finished with its flag or not at all. The flag is that of the first call that was to finish it.

## Main definitions

* `finishes` — the calls that were to finish an attempt.
* `AttemptRow.IsAnswered` — the first of them finished it, and no later one did.
* `Tables.IsOrderly` — rows in order.

## Main results

* `IsKept.step` — every operation keeps rows in order.
* `history_orderly` — the rows of a store, and what later becomes of them.
-/

namespace RetrySafe.Session

open Time (Clock Instant)

/-- The calls that were to finish an attempt, the first one first: the flag that they gave, and
whether they finished it. -/
def finishes (events : List Event) (id : Int) : List (Bool × Bool) :=
  events.filterMap (Event.finish? id)

/-- The first of some calls finished an attempt, with its flag, and no later one did. Without calls
it has not finished. -/
inductive AttemptRow.IsAnswered (row : AttemptRow) : List (Bool × Bool) → Prop
  | running (hfinished : row.finished = none) (hsuccess : row.success = none) : row.IsAnswered []
  | finished {time : String} {success : Bool} {rest : List (Bool × Bool)}
      (hfinished : row.finished = some time) (hsuccess : row.success = some (flagCell success))
      (hrest : ∀ answer ∈ rest, answer.2 = false) : row.IsAnswered ((success, true) :: rest)

/-- Rows in order. -/
structure Tables.IsOrderly (tables : Tables) : Prop where
  /-- One session for each project, workflow and time. -/
  keys : (tables.sessions.map fun s => (s.project, s.workflow, s.time)).Nodup
  /-- One attempt for each session and name; having no name is like a name of its own. -/
  names : (tables.attempts.map fun a => (a.session, a.retryName)).Nodup
  /-- A session has attempts, and knows the largest of their ids. -/
  last : ∀ s ∈ tables.sessions, ∃ a ∈ tables.attempts, a.session = s.id ∧
    s.lastAttempt = some (.whole a.id) ∧ ∀ b ∈ tables.attempts, b.session = s.id → b.id ≤ a.id
  /-- An attempt is of the project of its session, and of the site of that project. -/
  place : ∀ a ∈ tables.attempts,
    (∃ s ∈ tables.sessions, s.id = a.session ∧ s.project = a.project) ∧
      ∃ p ∈ tables.projects, p.id = a.project ∧ p.site = a.site
  /-- An attempt has finished when it has a flag. -/
  finished : ∀ a ∈ tables.attempts, a.finished.isSome = a.success.isSome

/-- Rows in order, as far as operations need it to keep them so. -/
structure IsKept (tables : Tables) (events : List Event) : Prop where
  consistent : tables.IsConsistent
  ascending : tables.attempts.Pairwise (·.id < ·.id)
  attempted : ∀ s ∈ tables.sessions, ∃ a ∈ tables.attempts, a.session = s.id
  answered : ∀ a ∈ tables.attempts, a.IsAnswered (finishes events a.id)
  there : ∀ id, finishes events id ≠ [] → ∃ a ∈ tables.attempts, a.id = id

variable {tables tables' : Tables} {events : List Event} {reads : Instant → Prop} {event : Event}

/-! ## What an operation does -/

theorem finishes_concat (events : List Event) (event : Event) (id : Int) :
    finishes (events ++ [event]) id = finishes events id ++ (event.finish? id).toList := by
  cases h : event.finish? id <;> simp [finishes, h]

/-- A call for another attempt. -/
theorem finishes_other {id id' : Int} {success : Bool} {reply : Reply} (h : id ≠ id') :
    finishes (events ++ [⟨.finish id success, reply⟩]) id' = finishes events id' := by
  have hnone : Event.finish? id' ⟨.finish id success, reply⟩ = none := by
    unfold Event.finish?
    split
    · rename_i heq
      cases heq
      exact if_neg h
    · rfl
  rw [finishes_concat, hnone, Option.toList_none, List.append_nil]

/-- A call for this attempt. -/
theorem finishes_same (id : Int) (success done : Bool) :
    finishes (events ++ [⟨.finish id success, .finished (.ok done)⟩]) id =
      finishes events id ++ [(success, done)] := by
  rw [finishes_concat]
  simp [Event.finish?]

namespace AttemptRow.IsAnswered

variable {row : AttemptRow} {answers : List (Bool × Bool)}

theorem finished_iff (h : row.IsAnswered answers) : row.finished.isSome = row.success.isSome := by
  cases h with
  | running hfinished hsuccess => rw [hfinished, hsuccess]; rfl
  | finished hfinished hsuccess hrest => rw [hfinished, hsuccess]; rfl

/-- The flag is that of the first call. -/
theorem success_eq (h : row.IsAnswered answers) :
    row.success = (answers.head?.map Prod.fst).map flagCell := by
  cases h with
  | running hfinished hsuccess => exact hsuccess
  | finished hfinished hsuccess hrest => exact hsuccess

/-- An attempt that has not finished was not called for. -/
theorem eq_nil (h : row.IsAnswered answers) (hopen : row.finished = none) : answers = [] := by
  cases h with
  | running hfinished hsuccess => rfl
  | finished hfinished hsuccess hrest =>
    rw [hopen] at hfinished
    cases hfinished

/-- One more call that came too late. -/
theorem late (h : row.IsAnswered answers) (hclosed : row.finished ≠ none) (success : Bool) :
    row.IsAnswered (answers ++ [(success, false)]) := by
  cases h with
  | running hfinished hsuccess => exact absurd hfinished hclosed
  | finished hfinished hsuccess hrest =>
    refine .finished hfinished hsuccess fun answer hanswer => ?_
    rcases List.mem_append.mp hanswer with hanswer | hanswer
    · exact hrest answer hanswer
    · rw [List.mem_singleton.mp hanswer]

end AttemptRow.IsAnswered

namespace IsKept

theorem ids (h : IsKept tables events) {a b : AttemptRow} (ha : a ∈ tables.attempts)
    (hb : b ∈ tables.attempts) (hid : a.id = b.id) : a = b :=
  List.inj_on_of_nodup_map h.consistent.sound.attempts ha hb hid

/-- Sessions keep having attempts. -/
theorem attempted_step (h : IsKept tables events) (hstep : Step reads tables event tables') :
    ∀ s ∈ tables'.sessions, ∃ a ∈ tables'.attempts, a.session = s.id := by
  cases hstep with
  | unchanged hnone hfinish => exact h.attempted
  | created hnow hid => exact h.attempted
  | deleted hnow => exact h.attempted
  | submitted hfirst hsecond hvalid hinserted =>
    obtain ⟨-, row, hrow⟩ := inserts_of_inserted h.consistent.sound.sessions hinserted
    have hkept {id : Int} (hid : ∃ a ∈ tables.attempts, a.session = id) :
        ∃ a ∈ tables'.attempts, a.session = id := by
      obtain ⟨a, ha, hsession⟩ := hid
      exact ⟨a, hrow.attempts ▸ List.mem_append_left _ ha, hsession⟩
    have hnew : row ∈ tables'.attempts :=
      hrow.attempts ▸ List.mem_append_right _ (List.mem_singleton_self row)
    intro s hs
    rcases hrow.sessions.mem hs with hs | ⟨-, hid⟩
    · exact hkept (h.attempted s hs)
    · exact ⟨row, hnew, hid.symm⟩
  | @finished id success now hnow hopen =>
    intro s hs
    obtain ⟨a, ha, hsession⟩ := h.attempted s hs
    refine ⟨_, List.mem_map_of_mem ha, ?_⟩
    split <;> exact hsession
  | closed hclosed hthere => exact h.attempted

/-- Attempts stay in the order of their ids. -/
theorem ascending_step (h : IsKept tables events) (hstep : Step reads tables event tables') :
    tables'.attempts.Pairwise (·.id < ·.id) := by
  cases hstep with
  | unchanged hnone hfinish => exact h.ascending
  | created hnow hid => exact h.ascending
  | deleted hnow => exact h.ascending
  | submitted hfirst hsecond hvalid hinserted =>
    obtain ⟨-, row, hrow⟩ := inserts_of_inserted h.consistent.sound.sessions hinserted
    rw [hrow.attempts, List.pairwise_append]
    refine ⟨h.ascending, List.pairwise_singleton _ _, fun a ha b hb => ?_⟩
    rw [List.mem_singleton.mp hb]
    exact hrow.newest a ha
  | finished hnow hopen =>
    refine List.Pairwise.map _ (fun a b hlt => ?_) h.ascending
    split <;> split <;> exact hlt
  | closed hclosed hthere => exact h.ascending

/-- Calls keep being answered in turn. -/
theorem answered_step (h : IsKept tables events) (hstep : Step reads tables event tables') :
    ∀ a ∈ tables'.attempts, a.IsAnswered (finishes (events ++ [event]) a.id) := by
  -- Where no attempt was to be finished, the calls are those of before.
  have hsame {id : Int} (hnone : event.finish? id = none) :
      finishes (events ++ [event]) id = finishes events id := by
    rw [finishes_concat, hnone, Option.toList_none, List.append_nil]
  cases hstep with
  | unchanged hnone hfinish =>
    intro a ha
    rw [hsame (hfinish a.id)]
    exact h.answered a ha
  | created hnow hid =>
    intro a ha
    rw [hsame rfl]
    exact h.answered a ha
  | deleted hnow =>
    intro a ha
    rw [hsame rfl]
    exact h.answered a ha
  | submitted hfirst hsecond hvalid hinserted =>
    obtain ⟨-, row, hrow⟩ := inserts_of_inserted h.consistent.sound.sessions hinserted
    intro a ha
    rw [hsame rfl]
    rw [hrow.attempts] at ha
    rcases List.mem_append.mp ha with ha | ha
    · exact h.answered a ha
    -- No call can have been for the new attempt, because its id is new.
    · rw [List.mem_singleton.mp ha]
      have hnew : finishes events row.id = [] := by
        by_contra hcalled
        obtain ⟨b, hb, hid⟩ := h.there row.id hcalled
        exact absurd hid (Int.ne_of_lt (hrow.newest b hb))
      rw [hnew]
      refine .running ?_ ?_ <;>
      · rw [hrow.written]
        rfl
  | @finished id success now hnow hopen =>
    obtain ⟨b, hb, hbopen⟩ := List.any_eq_true.mp hopen
    rw [Store.isOpen, Bool.and_eq_true, decide_eq_true_eq, Option.isNone_iff_eq_none] at hbopen
    obtain ⟨hbid, hbfinished⟩ := hbopen
    intro a' ha'
    obtain ⟨a, ha, rfl⟩ := List.mem_map.mp ha'
    by_cases hid : a.id = id
    · obtain rfl := h.ids ha hb (hid.trans hbid.symm)
      have hnil := (h.answered a ha).eq_nil hbfinished
      have hmine : Store.isOpen a id = true := by simp [Store.isOpen, hid, hbfinished]
      rw [if_pos hmine]
      dsimp only
      rw [hid, finishes_same, ← hid, hnil]
      exact .finished rfl rfl fun _ h => absurd h List.not_mem_nil
    · have hother : ¬Store.isOpen a id = true := by simp [Store.isOpen, hid]
      rw [if_neg hother, finishes_other (Ne.symm hid)]
      exact h.answered a ha
  | @closed id success hclosed hthere =>
    intro a ha
    by_cases hid : a.id = id
    · have hdone : a.finished ≠ none := by
        intro hrunning
        exact List.any_eq_false.mp hclosed a ha (by simp [Store.isOpen, hid, hrunning])
      rw [hid, finishes_same, ← hid]
      exact (h.answered a ha).late hdone success
    · rw [finishes_other (Ne.symm hid)]
      exact h.answered a ha

/-- Calls keep being for attempts that are there. -/
theorem there_step (h : IsKept tables events) (hstep : Step reads tables event tables') :
    ∀ id, finishes (events ++ [event]) id ≠ [] → ∃ a ∈ tables'.attempts, a.id = id := by
  have hgrows := (Tables.Grows.step h.consistent hstep).attempts
  have hkept {id : Int} (hid : ∃ a ∈ tables.attempts, a.id = id) :
      ∃ a ∈ tables'.attempts, a.id = id := by
    obtain ⟨a, ha, rfl⟩ := hid
    obtain ⟨a', ha', hbecomes⟩ := hgrows.exists_becomes ha
    exact ⟨a', ha', hbecomes.id⟩
  intro id hcalled
  by_cases hbefore : finishes events id = []
  · rw [finishes_concat, hbefore, List.nil_append] at hcalled
    cases hstep with
    | unchanged hnone hfinish => exact absurd (by rw [hfinish id]; rfl) hcalled
    | created hnow hid => exact absurd rfl hcalled
    | deleted hnow => exact absurd rfl hcalled
    | submitted hfirst hsecond hvalid hinserted => exact absurd rfl hcalled
    | @finished id' success now hnow hopen =>
      by_cases hid : id' = id
      · obtain ⟨b, hb, hbopen⟩ := List.any_eq_true.mp hopen
        rw [Store.isOpen, Bool.and_eq_true, decide_eq_true_eq] at hbopen
        exact hkept ⟨b, hb, hbopen.1.trans hid⟩
      · exact absurd (by simp [Event.finish?, hid]) hcalled
    | @closed id' success hclosed hthere =>
      by_cases hid : id' = id
      · obtain ⟨b, hb, hbid⟩ := List.any_eq_true.mp hthere
        exact ⟨b, hb, (of_decide_eq_true hbid).trans hid⟩
      · exact absurd (by simp [Event.finish?, hid]) hcalled
  · exact hkept (h.there id hbefore)

/-- Every operation. -/
theorem step (h : IsKept tables events) (hstep : Step reads tables event tables') :
    IsKept tables' (events ++ [event]) where
  consistent := h.consistent.step hstep
  ascending := h.ascending_step hstep
  attempted := h.attempted_step hstep
  answered := h.answered_step hstep
  there := h.there_step hstep

/-- A session knows its last attempt, and that is the one with the largest id. -/
theorem exists_last (h : IsKept tables events) {s : SessionRow} (hs : s ∈ tables.sessions) :
    ∃ a, (tables.attemptsOf s.id).getLast? = some a ∧ s.lastAttempt = some (.whole a.id) ∧
      ∀ b ∈ tables.attempts, b.session = s.id → b.id ≤ a.id := by
  obtain ⟨b, hb, hsession⟩ := h.attempted s hs
  have hmem : b ∈ tables.attemptsOf s.id := List.mem_filter.mpr ⟨hb, decide_eq_true hsession⟩
  obtain ⟨a, ha⟩ : ∃ a, (tables.attemptsOf s.id).getLast? = some a :=
    ⟨_, List.getLast?_eq_some_getLast (List.ne_nil_of_mem hmem)⟩
  have hlast := h.consistent.last s hs
  rw [ha] at hlast
  refine ⟨a, ha, hlast, fun c hc hcs => ?_⟩
  -- The others of the session come before the last one.
  have hascending : (tables.attemptsOf s.id).Pairwise (·.id < ·.id) := h.ascending.filter _
  have hcmem : c ∈ tables.attemptsOf s.id := List.mem_filter.mpr ⟨hc, decide_eq_true hcs⟩
  obtain ⟨before, hsplit⟩ := List.getLast?_eq_some_iff.mp ha
  rw [hsplit] at hascending hcmem
  rcases List.mem_append.mp hcmem with hcmem | hcmem
  · exact Int.le_of_lt ((List.pairwise_append.mp hascending).2.2 c hcmem a
      (List.mem_singleton_self a))
  · exact Int.le_of_eq (congrArg _ (List.mem_singleton.mp hcmem))

theorem isOrderly (h : IsKept tables events) : tables.IsOrderly where
  keys := h.consistent.sound.keys
  names := by
    -- Two attempts with the same name share the slot in which the database tells them apart.
    have hslots := h.consistent.sound.slots
    refine List.Nodup.of_map (fun slot : Int × Option String => (slot.1, slot.2.getD "")) ?_
    rw [List.map_map]
    exact hslots
  last := by
    intro s hs
    obtain ⟨a, ha, hlast, hgreatest⟩ := h.exists_last hs
    obtain ⟨hmem, hof⟩ := List.mem_filter.mp (List.mem_of_getLast? ha)
    exact ⟨a, hmem, of_decide_eq_true hof, hlast, hgreatest⟩
  place := by
    intro a ha
    obtain ⟨hsession, hproject⟩ := h.consistent.sound.ofSession a ha
    obtain ⟨s, hs, hsid⟩ := Tables.hasSession_iff.mp hsession
    obtain ⟨p, hp, hpid⟩ := Tables.hasProject_iff.mp hproject
    exact ⟨⟨s, hs, hsid, h.consistent.project a ha s hs hsid⟩,
      ⟨p, hp, hpid, h.consistent.site a ha p hp hpid⟩⟩
  finished := fun a ha => (h.answered a ha).finished_iff

end IsKept

/-- After any history from nothing. -/
theorem history_kept {operations : List Operation} {clock : Clock} {store : Store}
    {events : List Event}
    (hrun : ((history operations).run { clock := clock }).run = (events, store)) :
    IsKept store.tables events :=
  history_invariant IsKept (fun _ _ _ _ _ h hstep => h.step hstep)
    ⟨Tables.isConsistent_empty, .nil, fun _ h => absurd h List.not_mem_nil,
      fun _ h => absurd h List.not_mem_nil, fun _ h => absurd rfl h⟩ hrun

/-! ## Finishing an attempt that is there -/

/-- The call finishes the attempt with its flag, unless it has finished. -/
theorem finish_mem {store : Store} (h : IsKept store.tables events) {a : AttemptRow}
    (ha : a ∈ store.tables.attempts) (success : Bool) :
    ((Store.finish a.id success).run store).run.1 = .ok a.finished.isNone ∧
      ((Store.finish a.id success).run store).run.2.tables =
        if a.finished.isNone then
          { store.tables with
            attempts := store.tables.attempts.map fun b =>
              if b = a then
                { a with finished := some store.clock.now.micros, success := some (flagCell success) }
              else b }
        else store.tables := by
  have hrun := finish_run store a.id success
  have honly (b : AttemptRow) (hb : b ∈ store.tables.attempts) :
      Store.isOpen b a.id = true ↔ b = a ∧ a.finished.isNone = true := by
    rw [Store.isOpen, Bool.and_eq_true, decide_eq_true_eq]
    constructor
    · rintro ⟨hid, hopen⟩
      obtain rfl := h.ids hb ha hid
      exact ⟨rfl, hopen⟩
    · rintro ⟨rfl, hopen⟩
      exact ⟨rfl, hopen⟩
  have hthere : store.tables.attempts.any (·.id = a.id) = true :=
    List.any_eq_true.mpr ⟨a, ha, decide_eq_true rfl⟩
  cases hfinished : a.finished.isNone with
  | true =>
    have hopen : store.tables.attempts.any (Store.isOpen · a.id) = true :=
      List.any_eq_true.mpr ⟨a, ha, (honly a ha).mpr ⟨rfl, hfinished⟩⟩
    rw [if_pos hopen] at hrun
    rw [hrun, if_pos rfl]
    refine ⟨rfl, congrArg (fun rows => { store.tables with attempts := rows }) ?_⟩
    refine List.map_congr_left fun b hb => ?_
    by_cases hsame : b = a
    · rw [if_pos ((honly b hb).mpr ⟨hsame, hfinished⟩), if_pos hsame, hsame]
    · rw [if_neg fun hopen => hsame ((honly b hb).mp hopen).1, if_neg hsame]
  | false =>
    have hclosed : ¬store.tables.attempts.any (Store.isOpen · a.id) = true := by
      intro hopen
      obtain ⟨b, hb, hbopen⟩ := List.any_eq_true.mp hopen
      rw [((honly b hb).mp hbopen).2] at hfinished
      cases hfinished
    rw [if_neg hclosed, if_pos hthere] at hrun
    rw [hrun]
    exact ⟨rfl, rfl⟩

/-- **Order.** After any history from nothing the rows are in order. Every attempt was finished, with
its flag, by the first call for it, and by no other one; and so it will be with the next call. Later
on every row is still there, with nothing changed but a project that was deleted, the last attempt of
a session, and an attempt that was finished, each of the first and the last once at most; and of a
project that was deleted there are no new attempts. -/
theorem history_orderly {operations later : List Operation} {clock : Clock} {store store' : Store}
    {events events' : List Event}
    (hrun : ((history operations).run { clock := clock }).run = (events, store))
    (hlater : ((history later).run store).run = (events', store')) :
    store.tables.IsOrderly ∧
      (∀ a ∈ store.tables.attempts, a.IsAnswered (finishes events a.id) ∧
        ∀ success, ((Store.finish a.id success).run store).run.1 = .ok a.finished.isNone ∧
          ((Store.finish a.id success).run store).run.2.tables =
            if a.finished.isNone then
              { store.tables with
                attempts := store.tables.attempts.map fun b =>
                  if b = a then
                    { a with
                      finished := some store.clock.now.micros, success := some (flagCell success) }
                  else b }
            else store.tables) ∧
      store.tables.Grows store'.tables := by
  have hkept := history_kept hrun
  refine ⟨hkept.isOrderly, fun a ha => ⟨hkept.answered a ha, fun success => ?_⟩, ?_⟩
  · exact finish_mem hkept ha success
  · exact history_grows hkept.consistent hlater

namespace Daily

/-- Two attempts, the first of which was finished, and then was to be finished again. -/
theorem history_orderly_daily :
    (after (attempts [none, some "retry1"] ++ [.finish 1 true, .finish 1 false])).2.tables.IsOrderly ∧
      (∃ a ∈ (after (attempts [none, some "retry1"] ++
          [.finish 1 true, .finish 1 false])).2.tables.attempts,
        a.success = some (flagCell true) ∧ a.IsAnswered [(true, true), (false, false)]) ∧
      (after (attempts [none, some "retry1"] ++ [.finish 1 true, .finish 1 false])).2.tables.Grows
        ((history [.finish 2 true, .deleteProject 1]).run (after (attempts [none, some "retry1"] ++
          [.finish 1 true, .finish 1 false])).2).run.2.tables := by
  have h := history_orderly
    (run_history (attempts [none, some "retry1"] ++ [.finish 1 true, .finish 1 false]))
    (run_eq (history [.finish 2 true, .deleteProject 1]) _)
  have hfinished : ((after (attempts [none, some "retry1"] ++
      [.finish 1 true, .finish 1 false])).2.tables.attempts.any fun a =>
        decide (a.id = 1 ∧ a.success = some (flagCell true))) = true := by decide +kernel
  have hcalls : finishes (after (attempts [none, some "retry1"] ++
      [.finish 1 true, .finish 1 false])).1 1 = [(true, true), (false, false)] := by decide +kernel
  obtain ⟨a, ha, hrow⟩ := List.any_eq_true.mp hfinished
  obtain ⟨hid, hsuccess⟩ := of_decide_eq_true hrow
  have hanswered := (h.2.1 a ha).1
  rw [hid, hcalls] at hanswered
  exact ⟨h.1, ⟨a, ha, hsuccess, hanswered⟩, h.2.2⟩

end Daily

end RetrySafe.Session
