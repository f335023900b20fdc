import RetrySafe.Proofs.Session.Lookup

/-!
# What a lookup is for

A lookup is for the attempt of a session that has its name, or without a name for the one with the
largest id, as long as that is an attempt of its site. These rows are the ones that are found, so a
lookup fails in two ways only: there are no such rows, or the parameters of the attempt are nested too
deep to be read back.

## Main definitions

* `rowsIn` — the rows that a lookup finds.
* `IsSought` — the rows that a lookup is for.
* `Seeks` — the attempt that a lookup is for.

## Main results

* `rowsIn_eq_some_iff` — what is sought is found, and nothing else.
* `exists_isSought` — there is something to find.
* `attemptIn_missing`, `Seeks.shallow`, `Seeks.deep` — the answers of lookups.
* `attemptIn_cases` — there are no others.
-/

namespace RetrySafe.Session

/-- The rows that a lookup finds. -/
def rowsIn (tables : Tables) (site : Int) (key : Key) (retryName : Option String) :
    Option (SessionRow × AttemptRow) :=
  match retryName with
  | some name => Store.rowsByName tables site key name
  | none => Store.rowsOfLast tables site key

/-- The rows that a lookup is for. -/
structure IsSought (tables : Tables) (site : Int) (key : Key) (retryName : Option String)
    (s : SessionRow) (a : AttemptRow) : Prop where
  session : s ∈ tables.sessions
  isOf : s.isOf key = true
  attempt : a ∈ tables.attempts
  of : a.session = s.id
  site : a.site = .whole site
  named : ∀ name, retryName = some name → a.retryName = some name
  latest : retryName = none → ∀ b ∈ tables.attempts, b.session = s.id → b.id ≤ a.id

/-- The attempt that a lookup is for. -/
def Seeks (tables : Tables) (site : Int) (key : Key) (retryName : Option String)
    (attempt : Attempt) : Prop :=
  ∃ s a, IsSought tables site key retryName s a ∧ a.Holds attempt

variable {tables : Tables} {events : List Event} {site : Int} {key : Key}
  {retryName : Option String} {s : SessionRow} {a : AttemptRow}

/-! ## Rows -/

theorem attemptIn_eq_foundOr (tables : Tables) (site : Int) (key : Key) (retryName : Option String) :
    Store.attemptIn tables site key retryName =
      Store.foundOr site key retryName (rowsIn tables site key retryName) := by
  cases retryName <;> rfl

/-- What is found is what is sought. -/
theorem isSought_of_rowsIn (h : IsKept tables events)
    (hrows : rowsIn tables site key retryName = some (s, a)) :
    IsSought tables site key retryName s a := by
  cases retryName with
  | some name =>
    obtain ⟨hs, hkey, ha, hof, hsite, hname⟩ := of_rowsByName hrows
    exact ⟨hs, hkey, ha, hof, hsite, fun _ hsome => Option.some.inj hsome ▸ hname, nofun⟩
  | none =>
    obtain ⟨hs, hkey, hlast, hsite⟩ := of_rowsOfLast h.consistent hrows
    obtain ⟨ha, hof⟩ := List.mem_filter.mp (List.mem_of_getLast? hlast)
    -- The last attempt of the session is the one with the largest id.
    obtain ⟨b, hlast', -, hgreatest⟩ := h.exists_last hs
    obtain rfl := Option.some.inj (hlast'.symm.trans hlast)
    exact ⟨hs, hkey, ha, of_decide_eq_true hof, hsite, nofun, fun _ => hgreatest⟩

/-- What is sought is found, and nothing else. -/
theorem rowsIn_eq_some_iff (h : IsKept tables events) :
    rowsIn tables site key retryName = some (s, a) ↔ IsSought tables site key retryName s a := by
  refine ⟨isSought_of_rowsIn h, fun hsought => ?_⟩
  cases retryName with
  | some name =>
    exact rowsByName_eq h.consistent.sound hsought.session hsought.isOf hsought.attempt hsought.of
      hsought.site (hsought.named name rfl)
  | none =>
    -- The last attempt of the session is one with the largest id, and ids are different.
    obtain ⟨b, hlast, -, hgreatest⟩ := h.exists_last hsought.session
    obtain ⟨hb, hof⟩ := List.mem_filter.mp (List.mem_of_getLast? hlast)
    obtain rfl := h.ids hsought.attempt hb (Int.le_antisymm
      (hgreatest a hsought.attempt hsought.of) (hsought.latest rfl b hb (of_decide_eq_true hof)))
    exact rowsOfLast_eq h.consistent hsought.session hsought.isOf hlast hsought.site

/-- Where a live project of the site has an attempt of the name there is something to find. -/
theorem exists_isSought (h : IsKept tables events)
    (hlive : ∃ project, IsLiveProject tables site key.project project) (hs : s ∈ tables.sessions)
    (hkey : s.isOf key = true) (ha : a ∈ tables.attempts) (hof : a.session = s.id)
    (hname : a.retryName = retryName) :
    ∃ b, IsSought tables site key retryName s b := by
  obtain ⟨p, hp, hpid, hpsite, -⟩ := hlive
  have hsite {b : AttemptRow} (hb : b ∈ tables.attempts) (hof : b.session = s.id) :
      b.site = .whole site := by
    have hproject : p.id = b.project := by
      rw [hpid, ← h.consistent.project b hb s hs hof.symm]
      exact (Tables.isOf_iff.mp hkey).1.symm
    exact (h.consistent.site b hb p hp hproject).symm.trans hpsite
  cases retryName with
  | some name =>
    exact ⟨a, hs, hkey, ha, hof, hsite ha hof, fun _ hsome => hname.trans hsome, nofun⟩
  | none =>
    -- Without a name it is the last attempt, and there is one because there is this one.
    obtain ⟨b, hlast, -, hgreatest⟩ := h.exists_last hs
    obtain ⟨hb, hof⟩ := List.mem_filter.mp (List.mem_of_getLast? hlast)
    have hof' := of_decide_eq_true hof
    exact ⟨b, hs, hkey, hb, hof', hsite hb hof', nofun, fun _ => hgreatest⟩

/-! ## Answers -/

/-- There is nothing that the lookup is for. -/
theorem attemptIn_missing (h : IsKept tables events)
    (hnone : ¬∃ s a, IsSought tables site key retryName s a) :
    Store.attemptIn tables site key retryName =
      .error (.notFound (.attemptOf key.workflow key.time retryName)) := by
  rw [attemptIn_eq_foundOr]
  cases hrows : rowsIn tables site key retryName with
  | none => rfl
  | some rows => exact absurd ⟨rows.1, rows.2, (rowsIn_eq_some_iff h).mp hrows⟩ hnone

/-- Rows that are sought hold an attempt, with parameters that were asked for. -/
theorem IsSought.exists_seeks (h : IsSought tables site key retryName s a)
    (hlegible : IsLegible tables events) :
    ∃ attempt, Seeks tables site key retryName attempt ∧
      attempt.params ∈ acceptedParams events := by
  obtain ⟨attempt, hholds, hmem⟩ := hlegible.attempts a h.attempt
  exact ⟨attempt, ⟨s, a, h, hholds⟩, hmem⟩

namespace Seeks

variable {attempt : Attempt}

/-- An attempt whose parameters are not nested too deep is answered. -/
theorem shallow (h : Seeks tables site key retryName attempt) (hkept : IsKept tables events)
    (hlegible : IsLegible tables events)
    (hdepth : (Json.obj attempt.params).depth ≤ Json.depthLimit) :
    ∃ found, Store.attemptIn tables site key retryName = .ok found ∧
      found.attempt.id = attempt.id := by
  obtain ⟨s, a, hsought, hholds⟩ := h
  obtain ⟨session, hstored⟩ := hlegible.sessions s hsought.session
  obtain ⟨params, hread, -⟩ := hholds.shallow hdepth
  refine ⟨⟨site, session, { attempt with params }⟩, ?_, rfl⟩
  rw [attemptIn_eq_foundOr, (rowsIn_eq_some_iff hkept).mpr hsought, foundOr_eq hstored, hread]
  rfl

/-- An attempt whose parameters are nested too deep is not. -/
theorem deep (h : Seeks tables site key retryName attempt) (hkept : IsKept tables events)
    (hlegible : IsLegible tables events)
    (hdepth : Json.depthLimit < (Json.obj attempt.params).depth) :
    Store.attemptIn tables site key retryName =
      .error (.database (.conversion 10 Json.Fault.tooDeep.message)) := by
  obtain ⟨s, a, hsought, hholds⟩ := h
  obtain ⟨session, hstored⟩ := hlegible.sessions s hsought.session
  rw [attemptIn_eq_foundOr, (rowsIn_eq_some_iff hkept).mpr hsought, foundOr_eq hstored,
    hholds.deep hdepth]
  rfl

end Seeks

/-- What a lookup answers. -/
theorem attemptIn_cases (hkept : IsKept tables events) (hlegible : IsLegible tables events)
    (site : Int) (key : Key) (retryName : Option String) :
    ((¬∃ attempt, Seeks tables site key retryName attempt) ∧
        Store.attemptIn tables site key retryName =
          .error (.notFound (.attemptOf key.workflow key.time retryName))) ∨
      ∃ attempt, Seeks tables site key retryName attempt ∧
        ((Json.obj attempt.params).depth ≤ Json.depthLimit ∧
            (∃ found, Store.attemptIn tables site key retryName = .ok found) ∨
          Json.depthLimit < (Json.obj attempt.params).depth ∧
            Store.attemptIn tables site key retryName =
              .error (.database (.conversion 10 Json.Fault.tooDeep.message))) := by
  by_cases hsought : ∃ s a, IsSought tables site key retryName s a
  · obtain ⟨s, a, hsa⟩ := hsought
    obtain ⟨attempt, hseeks, -⟩ := hsa.exists_seeks hlegible
    refine .inr ⟨attempt, hseeks, ?_⟩
    rcases Nat.lt_or_ge Json.depthLimit (Json.obj attempt.params).depth with hdeep | hshallow
    · exact .inr ⟨hdeep, hseeks.deep hkept hlegible hdeep⟩
    · obtain ⟨found, hfound, -⟩ := hseeks.shallow hkept hlegible hshallow
      exact .inl ⟨hshallow, found, hfound⟩
  · refine .inl ⟨?_, attemptIn_missing hkept hsought⟩
    rintro ⟨attempt, s, a, hsa, -⟩
    exact hsought ⟨s, a, hsa⟩

end RetrySafe.Session
