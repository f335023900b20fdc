import RetrySafe.Proofs.Session.Refinement

/-!
# Sites are isolated

Sessions do not say which site they are of, and ids are given out to all sites alike. What keeps sites
apart is that a session is of a project, that an attempt is of the site of its project, and that a
project is looked up together with its site. So an operation of another site does not change what a
site can see, and what a site can see decides the answers to it, apart from ids and times that are
given out anew.

## Main definitions

* `View`, `Tables.view` — what a site can see.
* `Operation.IsElsewhere` — an operation that concerns other sites only.
* `refusal` — why a submission is refused.
* `SameAnswer` — answers that differ in new ids and times at most.
* `foreignError` — the answer to a submission for a project that its site does not have.

## Main results

* `view_step`, `history_view` — operations of other sites keep what a site can see.
* `attemptIn_eq_of_view`, `submitted_same` — what a site can see decides the answers.
* `sites_isolated` — so operations of other sites do not change them.
-/

namespace RetrySafe.Session

open Time (Clock Instant)

/-! ## What a site can see -/

/-- What a site can see. -/
structure View where
  projects : List ProjectRow
  sessions : List SessionRow
  attempts : List AttemptRow
  deriving DecidableEq

namespace Tables

/-- Whether a site has a project of an id, deleted or not. -/
def isOfSite (tables : Tables) (site id : Int) : Bool :=
  tables.projects.any fun p => p.id = id && p.site = .whole site

/-- The projects of a site, the sessions of these, and the attempts of the site. -/
def view (tables : Tables) (site : Int) : View where
  projects := tables.projects.filter (·.site = .whole site)
  sessions := tables.sessions.filter fun s => tables.isOfSite site s.project
  attempts := tables.attempts.filter (·.site = .whole site)

theorem isOfSite_iff {tables : Tables} {site id : Int} :
    tables.isOfSite site id = true ↔ ∃ p ∈ tables.projects, p.id = id ∧ p.site = .whole site := by
  simp [isOfSite]

/-- An attempt is of a site if its project is. -/
theorem IsConsistent.site_iff {tables : Tables} (h : tables.IsConsistent) {site : Int}
    {a : AttemptRow} (ha : a ∈ tables.attempts) :
    a.site = .whole site ↔ tables.isOfSite site a.project = true := by
  obtain ⟨p, hp, hid⟩ := hasProject_iff.mp (h.sound.ofSession a ha).2
  rw [isOfSite_iff]
  constructor
  · intro hsite
    exact ⟨p, hp, hid, (h.site a ha p hp hid).trans hsite⟩
  · rintro ⟨q, hq, hqid, hsite⟩
    exact (h.site a ha q hq hqid).symm.trans hsite

end Tables

variable {tables tables' : Tables} {site : Int}

/-! ## Operations of other sites -/

/-- An operation concerns other sites only: it is for a project of another site, or for an attempt of
such a project. -/
def Operation.IsElsewhere (site : Int) (tables : Tables) : Operation → Prop
  | .createProject other _ => other ≠ site
  | .deleteProject id => tables.isOfSite site id = false
  | .submit limits _ _ => limits.site ≠ site
  | .finish id _ => ∀ a ∈ tables.attempts, a.id = id → tables.isOfSite site a.project = false
  | .find _ _ _ => True

instance (site : Int) (tables : Tables) :
    (operation : Operation) → Decidable (operation.IsElsewhere site tables)
  | .createProject other _ => inferInstanceAs (Decidable (other ≠ site))
  | .deleteProject id => inferInstanceAs (Decidable (tables.isOfSite site id = false))
  | .submit limits _ _ => inferInstanceAs (Decidable (limits.site ≠ site))
  | .finish id _ => inferInstanceAs (Decidable (∀ a ∈ tables.attempts, a.id = id →
      tables.isOfSite site a.project = false))
  | .find _ _ _ => inferInstanceAs (Decidable True)

/-- Each operation of a history concerns other sites only. -/
def AreElsewhere (site : Int) : List Operation → Store → Prop
  | [], _ => True
  | operation :: operations, store =>
    operation.IsElsewhere site store.tables ∧
      AreElsewhere site operations (operation.perform.run store).run.2

/-- Rows that are picked out stay the same if only others change, and none of these is picked out
then. -/
theorem filter_map_eq {α : Type} {p : α → Bool} {f : α → α} {l : List α}
    (hp : ∀ x ∈ l, p (f x) = p x) (hf : ∀ x ∈ l, p x = true → f x = x) :
    (l.map f).filter p = l.filter p := by
  have hpicked : l.filter (p ∘ f) = l.filter p := List.filter_congr hp
  rw [List.filter_map, hpicked]
  refine (List.map_congr_left fun x hx => ?_).trans (List.map_id _)
  obtain ⟨hmem, hpx⟩ := List.mem_filter.mp hx
  exact hf x hmem hpx

/-- The session of a new attempt is not one that another site can see. -/
theorem filter_sessions_of_receives {key : Key} {row : AttemptRow}
    {sessions sessions' : List SessionRow} {p : SessionRow → Bool}
    (h : Receives key row sessions sessions') (hp : ∀ s, s.isOf key = true → p s = false) :
    sessions'.filter p = sessions.filter p := by
  cases h with
  | @found before after s hkey hid =>
    have hkey' : { s with lastAttempt := some (.whole row.id) }.isOf key = true := hkey
    simp [hp s hkey, hp _ hkey']
  | added hnone hnew hkey hid hlast => simp [hp _ hkey]

/-- **Step.** An operation that concerns other sites only keeps what a site can see. -/
theorem view_step (h : tables.IsConsistent) {reads : Instant → Prop} {event : Event}
    (hstep : Step reads tables event tables')
    (helsewhere : event.operation.IsElsewhere site tables) :
    tables'.view site = tables.view site := by
  cases hstep with
  | unchanged hnone hfinish => rfl
  | @created other id name now reply hnow hid =>
    have hother : ¬(Cell.whole other = .whole site) := fun hsame => helsewhere (Cell.whole.inj hsame)
    simp [Tables.view, Tables.isOfSite, hother]
  | @deleted id now reply hnow =>
    have hkept (p : ProjectRow) : (if Store.isLive p id then
        { p with deleted := some now.micros } else p).id = p.id ∧ (if Store.isLive p id then
        { p with deleted := some now.micros } else p).site = p.site := by
      split <;> exact ⟨rfl, rfl⟩
    have hsite (other : Int) : Tables.isOfSite { tables with
        projects := tables.projects.map fun p => if Store.isLive p id then
          { p with deleted := some now.micros } else p } site other =
        tables.isOfSite site other := by
      simp [Tables.isOfSite, List.any_map, Function.comp_def, hkept]
    have hprojects : (tables.projects.map fun p => if Store.isLive p id then
        { p with deleted := some now.micros } else p).filter (·.site = .whole site) =
        tables.projects.filter (·.site = .whole site) := by
      refine filter_map_eq (fun p _ => by rw [(hkept p).2]) fun p hp hmine => if_neg fun hlive => ?_
      rw [Store.isLive, Bool.and_eq_true, decide_eq_true_eq] at hlive
      exact Bool.eq_false_iff.mp helsewhere
        (Tables.isOfSite_iff.mpr ⟨p, hp, hlive.1, of_decide_eq_true hmine⟩)
    simp only [Tables.view, hsite, hprojects]
  | @submitted limits request dependent first second created tables' hfirst hsecond hvalid hinserted =>
    obtain ⟨-, row, hrow⟩ := inserts_of_inserted h.sound.sessions hinserted
    have hsite (other : Int) : tables'.isOfSite site other = tables.isOfSite site other := by
      rw [Tables.isOfSite, hrow.projects, Tables.isOfSite]
    have hother : ¬(row.site = .whole site) := by
      rw [hrow.written]
      exact fun hsame => helsewhere (Cell.whole.inj hsame)
    -- The project is of the site of the submission, and there is no other one of its id.
    have hproject : tables.isOfSite site request.project = false := by
      refine Bool.eq_false_iff.mpr fun hmine => helsewhere ?_
      obtain ⟨q, hq, hqid, hqsite⟩ := Tables.isOfSite_iff.mp hmine
      obtain ⟨p, hp, hpid, hpsite, -⟩ := hrow.live
      obtain rfl := List.inj_on_of_nodup_map h.sound.projects hp hq (hpid.trans hqid.symm)
      exact Cell.whole.inj (hpsite.symm.trans hqsite)
    have hsessions := filter_sessions_of_receives hrow.sessions
      (p := fun s => tables.isOfSite site s.project) fun s hkey => by
        rw [(Tables.isOf_iff.mp hkey).1]
        exact hproject
    simp [Tables.view, hsite, hsessions, hrow.projects, hrow.attempts, hother]
  | @finished id success now hnow hopen =>
    have hattempts : (tables.attempts.map fun a => if Store.isOpen a id then
        { a with finished := some now.micros, success := some (flagCell success) } else a).filter
          (·.site = .whole site) = tables.attempts.filter (·.site = .whole site) := by
      refine filter_map_eq (fun a _ => by split <;> rfl) fun a ha hmine => if_neg fun hisOpen => ?_
      rw [Store.isOpen, Bool.and_eq_true, decide_eq_true_eq] at hisOpen
      exact Bool.eq_false_iff.mp (helsewhere a ha hisOpen.1)
        ((h.site_iff ha).mp (of_decide_eq_true hmine))
    simp only [Tables.view, hattempts]
    rfl
  | closed hclosed hthere => rfl

/-- A history of operations that concern other sites only keeps what a site can see. -/
theorem history_view {others : List Operation} {store store' : Store} {events : List Event}
    (h : store.tables.IsConsistent) (helsewhere : AreElsewhere site others store)
    (hrun : ((history others).run store).run = (events, store')) :
    store'.tables.view site = store.tables.view site := by
  induction others generalizing store events with
  | nil =>
    cases hrun
    rfl
  | cons operation others ih =>
    obtain ⟨rest, hrest, -⟩ := history_cons hrun
    have hstep := perform_step operation store
    exact (ih (h.step hstep) helsewhere.2 hrest).trans (view_step h hstep helsewhere.1)

/-! ## Lookups -/

section SameView

variable (hview : tables'.view site = tables.view site)

include hview

theorem mem_projects_iff {p : ProjectRow} (hsite : p.site = .whole site) :
    p ∈ tables'.projects ↔ p ∈ tables.projects := by
  simpa [Tables.view, hsite] using congrArg (p ∈ View.projects ·) hview

theorem isOfSite_eq (id : Int) : tables'.isOfSite site id = tables.isOfSite site id := by
  rw [Bool.eq_iff_iff, Tables.isOfSite_iff, Tables.isOfSite_iff]
  refine exists_congr fun p => ?_
  constructor
  · rintro ⟨hp, hid, hsite⟩
    exact ⟨(mem_projects_iff hview hsite).mp hp, hid, hsite⟩
  · rintro ⟨hp, hid, hsite⟩
    exact ⟨(mem_projects_iff hview hsite).mpr hp, hid, hsite⟩

theorem mem_sessions_iff {s : SessionRow} (hsite : tables.isOfSite site s.project = true) :
    s ∈ tables'.sessions ↔ s ∈ tables.sessions := by
  have hsite' := (isOfSite_eq hview s.project).trans hsite
  simpa [Tables.view, hsite, hsite'] using congrArg (s ∈ View.sessions ·) hview

theorem mem_attempts_iff {a : AttemptRow} (hsite : a.site = .whole site) :
    a ∈ tables'.attempts ↔ a ∈ tables.attempts := by
  simpa [Tables.view, hsite] using congrArg (a ∈ View.attempts ·) hview

theorem active_eq : tables'.board.active site = tables.board.active site := by
  have hcount (tables : Tables) : tables.board.active site =
      (tables.view site).attempts.countP (·.finished.isNone) := by
    simp [Tables.board, Store.activeIn, Tables.view, List.countP_filter, Bool.and_comm]
  rw [hcount, hcount, hview]

theorem live_eq (id : Int) : tables'.board.live site id = tables.board.live site id := by
  rw [Bool.eq_iff_iff, live_iff, live_iff]
  refine exists_congr fun p => ?_
  constructor
  · rintro ⟨hp, hid, hsite, hlive⟩
    exact ⟨(mem_projects_iff hview hsite).mp hp, hid, hsite, hlive⟩
  · rintro ⟨hp, hid, hsite, hlive⟩
    exact ⟨(mem_projects_iff hview hsite).mpr hp, hid, hsite, hlive⟩

end SameView

/-- The session of an attempt is of a project of its site. -/
theorem Tables.IsConsistent.isOfSite_session (h : tables.IsConsistent) {s : SessionRow}
    {a : AttemptRow} (hs : s ∈ tables.sessions) (ha : a ∈ tables.attempts) (hof : a.session = s.id) :
    tables.isOfSite site s.project = true ↔ a.site = .whole site := by
  rw [h.site_iff ha, h.project a ha s hs hof.symm]

/-- The rows that a lookup is for can be seen by its site. -/
theorem IsSought.of_view {key : Key} {retryName : Option String} {s : SessionRow} {a : AttemptRow}
    (h : IsSought tables site key retryName s a) (hconsistent : tables.IsConsistent)
    (hconsistent' : tables'.IsConsistent) (hview : tables'.view site = tables.view site) :
    IsSought tables' site key retryName s a := by
  have hsite := (hconsistent.isOfSite_session h.session h.attempt h.of).mpr h.site
  have hs := (mem_sessions_iff hview hsite).mpr h.session
  refine ⟨hs, h.isOf, (mem_attempts_iff hview h.site).mpr h.attempt, h.of, h.site, h.named, ?_⟩
  -- Every attempt of the session is of the site, so it can be seen as well.
  intro hnone b hb hof
  have hb' : b.site = .whole site := (hconsistent'.isOfSite_session hs hb hof).mp
    ((isOfSite_eq hview s.project).trans hsite)
  exact h.latest hnone b ((mem_attempts_iff hview hb').mp hb) hof

/-- What a site can see decides its lookups. -/
theorem attemptIn_eq_of_view {events events' : List Event} (hkept : IsKept tables events)
    (hkept' : IsKept tables' events') (hview : tables'.view site = tables.view site) (key : Key)
    (retryName : Option String) :
    Store.attemptIn tables' site key retryName = Store.attemptIn tables site key retryName := by
  have hrows : rowsIn tables' site key retryName = rowsIn tables site key retryName := by
    refine Option.ext fun ⟨s, a⟩ => ?_
    rw [rowsIn_eq_some_iff hkept', rowsIn_eq_some_iff hkept]
    exact ⟨fun h => h.of_view hkept'.consistent hkept.consistent hview.symm,
      fun h => h.of_view hkept.consistent hkept'.consistent hview⟩
  rw [attemptIn_eq_foundOr, attemptIn_eq_foundOr, hrows]

/-- What a site can see decides which slots of its projects are taken. -/
theorem held_of_view (h : tables.IsConsistent) (hview : tables'.view site = tables.view site)
    {request : Request} (hproject : tables.isOfSite site request.project = true)
    (htaken : tables.board.held request.slot ≠ none) : tables'.board.held request.slot ≠ none := by
  rw [held_request_iff] at htaken ⊢
  obtain ⟨s, hs, hkey, a, ha, hof, hname⟩ := htaken
  have hsite : tables.isOfSite site s.project = true := by
    rw [(Tables.isOf_iff.mp hkey).1]
    exact hproject
  exact ⟨s, (mem_sessions_iff hview hsite).mpr hs, hkey, a,
    (mem_attempts_iff hview ((h.isOfSite_session hs ha hof).mp hsite)).mpr ha, hof, hname⟩

/-! ## Submissions -/

/-- Why a submission is refused, unless it creates an attempt. -/
def refusal (tables : Tables) (limits : Limits) (request : Request) : Option AttemptError :=
  match request.validate limits.maxParamsBytes with
  | .error reason => some (.invalid reason)
  | .ok () =>
    if limits.maxActive < tables.board.active limits.site + 1 then
      some (.limitExceeded limits.maxActive (tables.board.active limits.site))
    else if tables.board.live limits.site request.project = false then
      some (.notFound (.project request.project))
    else if tables.board.held request.slot ≠ none then
      some (takenError (Store.attemptIn tables limits.site request.key request.retryName))
    else none

/-- The same attempt, apart from its id, its session and when it was created. -/
def Attempt.IsLike (attempt attempt' : Attempt) : Prop :=
  attempt' = { attempt with
    id := attempt'.id, session := attempt'.session, created := attempt'.created }

/-- Answers to one submission in two stores, which differ in ids and times that are given out anew at
most. -/
inductive SameAnswer (tables tables' : Tables) :
    Except AttemptError AttemptWithSession → Except AttemptError AttemptWithSession → Prop
  | refused (error : AttemptError) : SameAnswer tables tables' (.error error) (.error error)
  | joined {created created' : AttemptWithSession} (hsite : created'.site = created.site)
      (hlike : created.attempt.IsLike created'.attempt)
      (hnew : ∀ a ∈ tables.attempts, a.id < created.attempt.id)
      (hnew' : ∀ a ∈ tables'.attempts, a.id < created'.attempt.id)
      (hof : created.attempt.session = created.session.id)
      (hof' : created'.attempt.session = created.session.id)
      (hsession : created'.session =
        { created.session with lastAttempt := some created'.attempt.id }) :
      SameAnswer tables tables' (.ok created) (.ok created')
  | opened {created created' : AttemptWithSession} (hsite : created'.site = created.site)
      (hlike : created.attempt.IsLike created'.attempt)
      (hnew : ∀ a ∈ tables.attempts, a.id < created.attempt.id)
      (hnew' : ∀ a ∈ tables'.attempts, a.id < created'.attempt.id)
      (hof : created.attempt.session = created.session.id)
      (hof' : created'.attempt.session = created'.session.id)
      (hopened : ∀ s ∈ tables.sessions, s.id < created.session.id)
      (hopened' : ∀ s ∈ tables'.sessions, s.id < created'.session.id)
      (hkey : created'.session.key = created.session.key) :
      SameAnswer tables tables' (.ok created) (.ok created')

variable {events events' : List Event} {limits : Limits} {request : Request}
  {dependent : Option Int} {first second first' second' : Instant}
  {result result' : Except AttemptError AttemptWithSession} {after after' : Tables}

theorem IsAdmitted.refusal_eq (h : IsAdmitted tables limits request) :
    refusal tables limits request =
      if tables.board.held request.slot ≠ none then
        some (takenError (Store.attemptIn tables limits.site request.key request.retryName))
      else none := by
  unfold refusal
  rw [validate_eq_ok_iff.mpr h.valid]
  dsimp only
  rw [if_neg h.limit, h.live, if_neg (Bool.noConfusion : ¬true = false)]

/-- A submission is refused, fails because no id is left, or creates an attempt. -/
theorem Answers.refused_or_created
    (h : Answers tables limits request dependent first second result after)
    (hconsistent : tables.IsConsistent) :
    (∃ error, refusal tables limits request = some error ∧ result = .error error) ∨
      result = .error (.storage (.database .full)) ∧ IsAdmitted tables limits request ∨
      ∃ created, refusal tables limits request = none ∧ IsAdmitted tables limits request ∧
        result = .ok created ∧
        Store.inserted tables limits.site request dependent first second = .ok (created, after) := by
  cases h with
  | malformed hinvalid hreason =>
    refine .inl ⟨_, ?_, rfl⟩
    rw [refusal, hreason]
  | limited hvalid hlimit =>
    refine .inl ⟨_, ?_, rfl⟩
    rw [refusal, validate_eq_ok_iff.mpr hvalid]
    exact if_pos hlimit
  | missing hvalid hlimit hlive =>
    refine .inl ⟨_, ?_, rfl⟩
    rw [refusal, validate_eq_ok_iff.mpr hvalid]
    exact (if_neg hlimit).trans (if_pos hlive)
  | full hadmitted => exact .inr (.inl ⟨rfl, hadmitted⟩)
  | taken hadmitted htaken => exact .inl ⟨_, hadmitted.refusal_eq.trans (if_pos htaken), rfl⟩
  | created hadmitted hinserted =>
    have hfree := (board_of_inserted hconsistent hadmitted.valid.time hinserted).1
    exact .inr (.inr ⟨_, hadmitted.refusal_eq.trans (if_neg (not_not_intro hfree)), hadmitted, rfl,
      hinserted⟩)

/-- What a site can see decides which of its submissions are refused, and why. -/
theorem refusal_eq_of_view (hkept : IsKept tables events) (hkept' : IsKept tables' events')
    (hview : tables'.view limits.site = tables.view limits.site) (request : Request) :
    refusal tables' limits request = refusal tables limits request := by
  unfold refusal
  rw [active_eq hview, live_eq hview, attemptIn_eq_of_view hkept hkept' hview]
  by_cases hlive : tables.board.live limits.site request.project = true
  · obtain ⟨p, hp, hid, hsite, -⟩ := live_iff.mp hlive
    have hproject := Tables.isOfSite_iff.mpr ⟨p, hp, hid, hsite⟩
    have hheld : tables'.board.held request.slot ≠ none ↔ tables.board.held request.slot ≠ none :=
      ⟨held_of_view hkept'.consistent hview.symm ((isOfSite_eq hview _).trans hproject),
        held_of_view hkept.consistent hview hproject⟩
    simp only [hheld]
  · simp only [Bool.not_eq_true] at hlive
    simp only [hlive, if_true]

/-! ## Attempts that are created -/

namespace Receives

variable {key : Key} {row : AttemptRow} {sessions sessions' : List SessionRow} {s : SessionRow}

theorem mem_of_isOf (h : Receives key row sessions sessions')
    (hunique : ∀ s ∈ sessions, ∀ s' ∈ sessions, s.isOf key = true → s'.isOf key = true → s = s')
    (hs : s ∈ sessions) (hkey : s.isOf key = true) :
    { s with lastAttempt := some (.whole row.id) } ∈ sessions' := by
  cases h with
  | found hfound hid =>
    obtain rfl := hunique s hs _ (List.mem_append_right _ List.mem_cons_self) hkey hfound
    exact List.mem_append_right _ List.mem_cons_self
  | added hnone hnew hadded hid hlast => exact absurd hkey (Bool.eq_false_iff.mp (hnone s hs))

theorem lt_of_not_isOf (h : Receives key row sessions sessions')
    (hnone : ∀ s ∈ sessions, s.isOf key = false) (hs : s ∈ sessions) : s.id < row.session := by
  cases h with
  | found hfound hid =>
    have hmem := hnone _ (List.mem_append_right _ List.mem_cons_self)
    exact absurd hfound (Bool.eq_false_iff.mp hmem)
  | added hother hnew hadded hid hlast => exact hid ▸ hnew s hs

end Receives

/-- A session that was there knows another last attempt, and has not changed apart from that. -/
theorem Inserts.stored_of_isOf {created : AttemptWithSession} {row : AttemptRow}
    (h : Inserts tables site request dependent created row after) (hsound : tables.IsSound)
    (hsound' : after.IsSound) {s : SessionRow} (hs : s ∈ tables.sessions)
    (hkey : s.isOf request.key = true) :
    { s with lastAttempt := some (.whole row.id) }.stored = .ok created.session := by
  have hmem := h.sessions.mem_of_isOf (fun _ hs _ hs' => row_eq_of_isOf hsound hs hs') hs hkey
  obtain ⟨s', hs', hkey', hstored⟩ := h.stored
  rwa [row_eq_of_isOf hsound' hmem hs' hkey hkey']

/-- One request that gets its slot in either of two stores, which the site cannot tell apart. -/
theorem sameAnswer_of_inserted (h : tables.IsConsistent) (h' : tables'.IsConsistent)
    (hview : tables'.view site = tables.view site) (htime : request.time.IsWholeSecond)
    {created created' : AttemptWithSession}
    (hinserted : Store.inserted tables site request dependent first second = .ok (created, after))
    (hinserted' : Store.inserted tables' site request dependent first' second' =
      .ok (created', after')) :
    SameAnswer tables tables' (.ok created) (.ok created') := by
  obtain ⟨-, row, hrow⟩ := inserts_of_inserted h.sound.sessions hinserted
  obtain ⟨-, row', hrow'⟩ := inserts_of_inserted h'.sound.sessions hinserted'
  have hsite : created'.site = created.site :=
    (congrArg AttemptWithSession.site hrow'.answer).trans
      (congrArg AttemptWithSession.site hrow.answer).symm
  have hattempt := congrArg AttemptWithSession.attempt hrow.answer
  have hattempt' := congrArg AttemptWithSession.attempt hrow'.answer
  have hlike : created.attempt.IsLike created'.attempt := by
    rw [Attempt.IsLike, hattempt', hattempt]
  have hid : created.attempt.id = row.id := congrArg Attempt.id hattempt
  have hid' : created'.attempt.id = row'.id := congrArg Attempt.id hattempt'
  have hof : created.attempt.session = created.session.id := congrArg Attempt.session hattempt
  have hof' : created'.attempt.session = created'.session.id := congrArg Attempt.session hattempt'
  -- The session is of a project of the site, so the site can see whether it is there.
  have hseen {s : SessionRow} (hkey : s.isOf request.key = true) :
      s ∈ tables'.sessions ↔ s ∈ tables.sessions := by
    obtain ⟨p, hp, hpid, hpsite, -⟩ := hrow.live
    refine mem_sessions_iff hview (Tables.isOfSite_iff.mpr ⟨p, hp, hpid.trans ?_, hpsite⟩)
    exact (Tables.isOf_iff.mp hkey).1.symm
  by_cases hthere : ∃ s ∈ tables.sessions, s.isOf request.key = true
  · obtain ⟨s, hs, hkey⟩ := hthere
    have hstored := hrow.stored_of_isOf h.sound (h.submit hinserted).sound hs hkey
    have hstored' := hrow'.stored_of_isOf h'.sound (h'.submit hinserted').sound
      ((hseen hkey).mpr hs) hkey
    have hsession : created'.session =
        { created.session with lastAttempt := some created'.attempt.id } := by
      rw [hid']
      exact Except.ok.inj (hstored'.symm.trans (stored_withLast hstored row'.id))
    refine .joined hsite hlike (hid ▸ hrow.newest) (hid' ▸ hrow'.newest) hof ?_ hsession
    rw [hof', hsession]
  · have hnone : ∀ s ∈ tables.sessions, s.isOf request.key = false := fun s hs =>
      Bool.eq_false_iff.mpr fun hkey => hthere ⟨s, hs, hkey⟩
    have hnone' : ∀ s ∈ tables'.sessions, s.isOf request.key = false := fun s hs =>
      Bool.eq_false_iff.mpr fun hkey => hthere ⟨s, (hseen hkey).mp hs, hkey⟩
    have hsession : row.session = created.session.id := by
      rw [hrow.written]
      rfl
    have hsession' : row'.session = created'.session.id := by
      rw [hrow'.written]
      rfl
    refine .opened hsite hlike (hid ▸ hrow.newest) (hid' ▸ hrow'.newest) hof hof'
      (fun s hs => hsession ▸ hrow.sessions.lt_of_not_isOf hnone hs)
      (fun s hs => hsession' ▸ hrow'.sessions.lt_of_not_isOf hnone' hs) ?_
    exact (board_of_inserted h' htime hinserted').2.2.key.trans
      (board_of_inserted h htime hinserted).2.2.key.symm

/-- What a site can see decides the answers to its submissions, apart from ids and times that are
given out anew. -/
theorem submitted_same (hkept : IsKept tables events) (hkept' : IsKept tables' events')
    (hview : tables'.view limits.site = tables.view limits.site)
    (hanswers : Answers tables limits request dependent first second result after)
    (hanswers' : Answers tables' limits request dependent first' second' result' after')
    (hfault : result ≠ .error (.storage (.database .full)))
    (hfault' : result' ≠ .error (.storage (.database .full))) :
    SameAnswer tables tables' result result' := by
  have hsame := refusal_eq_of_view hkept hkept' hview request
  obtain ⟨error, hrefused, rfl⟩ | ⟨hfull, -⟩ | ⟨created, hfree, hadmitted, rfl, hinserted⟩ :=
    hanswers.refused_or_created hkept.consistent
  · obtain ⟨error', hrefused', rfl⟩ | ⟨hfull, -⟩ | ⟨created', hfree', -⟩ :=
      hanswers'.refused_or_created hkept'.consistent
    · rw [hsame, hrefused] at hrefused'
      cases hrefused'
      exact .refused error
    · exact absurd hfull hfault'
    · rw [hsame, hrefused] at hfree'
      cases hfree'
  · exact absurd hfull hfault
  · obtain ⟨error', hrefused', -⟩ | ⟨hfull, -⟩ | ⟨created', -, -, rfl, hinserted'⟩ :=
      hanswers'.refused_or_created hkept'.consistent
    · rw [hsame, hfree] at hrefused'
      cases hrefused'
    · exact absurd hfull hfault'
    · exact sameAnswer_of_inserted hkept.consistent hkept'.consistent hview hadmitted.valid.time
        hinserted hinserted'

/-! ## Projects of other sites -/

/-- The answer to a submission for a project that its site does not have. It does not say whether
another site has it. -/
def foreignError (active : Nat) (limits : Limits) (request : Request) : AttemptError :=
  match request.validate limits.maxParamsBytes with
  | .error reason => .invalid reason
  | .ok () =>
    if limits.maxActive < active + 1 then .limitExceeded limits.maxActive active
    else .notFound (.project request.project)

theorem not_live_of_foreign {id : Int} (hforeign : tables.isOfSite site id = false) :
    tables.board.live site id = false := by
  refine Bool.eq_false_iff.mpr fun hlive => Bool.eq_false_iff.mp hforeign ?_
  obtain ⟨p, hp, hid, hsite, -⟩ := live_iff.mp hlive
  exact Tables.isOfSite_iff.mpr ⟨p, hp, hid, hsite⟩

theorem submitted_foreign (hconsistent : tables.IsConsistent)
    (hforeign : tables.isOfSite limits.site request.project = false)
    (hanswers : Answers tables limits request dependent first second result after) :
    result = .error (foreignError (Store.activeIn tables limits.site) limits request) := by
  have hdead := not_live_of_foreign hforeign
  have hrefusal : refusal tables limits request =
      some (foreignError (Store.activeIn tables limits.site) limits request) := by
    unfold refusal foreignError
    cases request.validate limits.maxParamsBytes with
    | error reason => rfl
    | ok =>
      dsimp only
      rw [if_pos hdead]
      exact (apply_ite some _ _ _).symm
  obtain ⟨error, hrefused, rfl⟩ | ⟨-, hadmitted⟩ | ⟨created, -, hadmitted, -⟩ :=
    hanswers.refused_or_created hconsistent
  · rw [Option.some.inj (hrefused.symm.trans hrefusal)]
  · exact absurd hadmitted.live (Bool.eq_false_iff.mp hdead)
  · exact absurd hadmitted.live (Bool.eq_false_iff.mp hdead)

theorem attemptIn_foreign {key : Key} {retryName : Option String} (hkept : IsKept tables events)
    (hforeign : tables.isOfSite site key.project = false) :
    Store.attemptIn tables site key retryName =
      .error (.notFound (.attemptOf key.workflow key.time retryName)) := by
  refine attemptIn_missing hkept fun ⟨s, a, hsought⟩ => Bool.eq_false_iff.mp hforeign ?_
  rw [← (Tables.isOf_iff.mp hsought.isOf).1]
  exact (hkept.consistent.isOfSite_session hsought.session hsought.attempt hsought.of).mpr
    hsought.site

/-- **Isolation.** After any history let other sites do anything. Then each lookup of a site gets the
answer that it would have got before, and so does each submission, apart from ids and times that are
given out anew, as long as there are ids. A project of another site is answered like one that is not
there. -/
theorem sites_isolated {operations others : List Operation} {clock : Clock} {store store' : Store}
    {later : List Event} (hclock : ∀ n, (clock.reading n).HasPlainYear)
    (hproper : ∀ operation ∈ operations ++ others, operation.IsProper)
    (hrun : ((history operations).run { clock := clock }).run = (events, store))
    (helsewhere : AreElsewhere site others store)
    (hlater : ((history others).run store).run = (later, store')) :
    (∀ (limits : Limits) (key : Key) (retryName : Option String), limits.site = site →
        ((find limits key retryName).run store').run.1 =
          ((find limits key retryName).run store).run.1) ∧
      (∀ (limits : Limits) (request : Request) (dependent : Option Int), limits.site = site →
        (Operation.submit limits request dependent).IsProper →
        ((submit limits request dependent).run store).run.1 ≠ .error (.storage (.database .full)) →
        ((submit limits request dependent).run store').run.1 ≠ .error (.storage (.database .full)) →
        SameAnswer store.tables store'.tables
          ((submit limits request dependent).run store).run.1
          ((submit limits request dependent).run store').run.1) ∧
      (∀ (limits : Limits) (request : Request) (dependent : Option Int), limits.site = site →
        (Operation.submit limits request dependent).IsProper →
        store.tables.isOfSite site request.project = false →
        ((submit limits request dependent).run store).run.1 =
          .error (foreignError (Store.activeIn store.tables site) limits request)) ∧
      ∀ (limits : Limits) (key : Key) (retryName : Option String), limits.site = site →
        key.time.IsWholeSecond → store.tables.isOfSite site key.project = false →
        ((find limits key retryName).run store).run.1 =
          .error (.notFound (.attemptOf key.workflow key.time retryName)) := by
  -- The later store is that of a longer history.
  have hrun' := history_append hrun hlater
  have hkept := history_kept hrun
  have hkept' := history_kept hrun'
  have hview := history_view hkept.consistent helsewhere hlater
  have hlegible := history_legible hclock
    (fun operation h => hproper operation (List.mem_append_left _ h)) hrun
  have hnow {store : Store} {events : List Event} {operations : List Operation}
      (hrun : ((history operations).run { clock := clock }).run = (events, store)) :
      store.clock.now.HasPlainYear := by
    rw [Clock.now, ← (history_clock hrun).reading]
    exact hclock _
  have hanswers {limits : Limits} {request : Request} {dependent : Option Int}
      (hrequest : (Operation.submit limits request dependent).IsProper) :=
    submitted_answers (history_recorded hrun) hlegible hrequest.2.time (hnow hrun)
      (submitted_of_run (show ((submit limits request dependent).run store).run = (_, _) from rfl))
  refine ⟨?_, ?_, ?_, ?_⟩
  · rintro limits key retryName rfl
    by_cases hwhole : key.time.IsWholeSecond
    · rw [find_run hwhole, find_run hwhole, attemptIn_eq_of_view hkept hkept' hview]
    · rw [find_fractional hwhole, find_fractional hwhole]
  · rintro limits request dependent rfl hrequest hfault hfault'
    have hanswers' := submitted_answers (history_recorded hrun')
      (history_legible hclock hproper hrun') hrequest.2.time (hnow hrun')
      (submitted_of_run (show ((submit limits request dependent).run store').run = (_, _) from rfl))
    exact submitted_same hkept hkept' hview (hanswers hrequest) hanswers' hfault hfault'
  · rintro limits request dependent rfl hrequest hforeign
    exact submitted_foreign hkept.consistent hforeign (hanswers hrequest)
  · rintro limits key retryName rfl hwhole hforeign
    rw [find_run hwhole, attemptIn_foreign hkept hforeign]
    rfl

namespace Daily

/-- A request for the project of another site. -/
def nextDoor : Request := { requestFor none with project := 2 }

theorem nextDoor_isProper : nextDoor.IsProper :=
  ⟨(submit_isProper_empty none).2.time, (submit_isProper_empty none).2.params⟩

/-- What another site does: it gets a project, submits an attempt for it and finishes it. -/
def neighbours : List Operation :=
  [.createProject 1 "etl", .submit { site := 1 } nextDoor none, .finish 2 true]

theorem neighbours_isProper : ∀ operation ∈ neighbours, operation.IsProper := by
  simp only [neighbours, List.forall_mem_cons, Operation.IsProper, List.not_mem_nil, false_imp_iff,
    implies_true, and_true]
  exact ⟨by constructor <;> decide, by constructor <;> decide, nextDoor_isProper⟩

theorem neighbours_areElsewhere : AreElsewhere 0 neighbours (atOnce (attempts [none])).2 := by
  refine ⟨?_, ?_, ?_, trivial⟩ <;> decide +kernel

/-- The store after an attempt of the day, and after the neighbours did all that. -/
def busyStore : Store := ((history neighbours).run (atOnce (attempts [none])).2).run.2

/-- The neighbours take an id, so a retry gets another one. Apart from that it is answered like before,
and so is a lookup; and the project of the neighbours is answered like one that is not there. -/
theorem sites_isolated_daily :
    ((find {} (requestFor none).key none).run busyStore).run.1 =
        ((find {} (requestFor none).key none).run (atOnce (attempts [none])).2).run.1 ∧
      SameAnswer (atOnce (attempts [none])).2.tables busyStore.tables
        ((submit {} (requestFor (some "retry1")) none).run (atOnce (attempts [none])).2).run.1
        ((submit {} (requestFor (some "retry1")) none).run busyStore).run.1 ∧
      ((submit {} nextDoor none).run busyStore).run.1 =
        .error (.notFound (.project 2)) := by
  have hproper : ∀ operation ∈ attempts [none] ++ neighbours, operation.IsProper := by
    intro operation hoperation
    rcases List.mem_append.mp hoperation with hoperation | hoperation
    · exact attempts_isProper _ operation hoperation
    · exact neighbours_isProper operation hoperation
  have hretry : ((submit {} (requestFor (some "retry1")) none).run
      (atOnce (attempts [none])).2).run.1.toOption.map (·.attempt.id) = some 2 := by decide +kernel
  have hretry' : ((submit {} (requestFor (some "retry1")) none).run
      busyStore).run.1.toOption.map (·.attempt.id) = some 3 := by decide +kernel
  obtain ⟨created, hcreated, -⟩ := exists_of_created hretry
  obtain ⟨created', hcreated', -⟩ := exists_of_created hretry'
  have hlater : ((history neighbours).run (atOnce (attempts [none])).2).run = (_, busyStore) :=
    run_eq (history neighbours) _
  obtain ⟨hfind, hsubmit, -⟩ := sites_isolated hasPlainYear_atOnce hproper (run_atOnce _)
    neighbours_areElsewhere hlater
  have hrun := history_append (run_atOnce (attempts [none])) hlater
  obtain ⟨-, -, hforeign, -⟩ := sites_isolated hasPlainYear_atOnce
    ((List.append_nil (attempts [none] ++ neighbours)).symm ▸ hproper) hrun
    (show AreElsewhere 0 [] busyStore from trivial) (run_eq _ _)
  have hactive : Store.activeIn busyStore.tables 0 = 1 := by decide +kernel
  have hvalid : nextDoor.IsWellFormed ({} : Limits).maxParamsBytes := by decide +kernel
  refine ⟨hfind {} _ none rfl, ?_, ?_⟩
  · refine hsubmit {} _ none rfl (submit_isProper_empty _) ?_ ?_
    · rw [hcreated]
      exact fun h => nomatch h
    · rw [hcreated']
      exact fun h => nomatch h
  · rw [hforeign {} nextDoor none rfl ⟨by constructor <;> decide, nextDoor_isProper⟩
      (by decide +kernel), hactive, foreignError, validate_eq_ok_iff.mpr hvalid]
    rfl

end Daily

end RetrySafe.Session
