import RetrySafe.Proofs.Session.Legible

/-!
# Looking attempts up

In consistent tables there is one row for each key of a session and one for each name of an attempt,
so a lookup finds the rows that are meant. What it answers then depends on whether they can be read.

## Main results

* `rowsByName_eq`, `rowsOfLast_eq` — the rows that are found.
* `attemptIn_some_eq`, `attemptIn_none_eq` — the answer for these rows.
* `find_run`, `find_fractional` — the answer to a lookup.
-/

namespace RetrySafe.Session

variable {tables : Tables} {site : Int} {key : Key} {s : SessionRow} {a : AttemptRow}

/-- What is found is what there is only one of. -/
theorem find?_eq_of_unique {α : Type} {p : α → Bool} {l : List α} {x : α} (hx : x ∈ l)
    (hp : p x = true) (hunique : ∀ y ∈ l, p y = true → y = x) : l.find? p = some x := by
  cases hfound : l.find? p with
  | none => exact absurd hp (List.find?_eq_none.mp hfound x hx)
  | some y => rw [hunique y (List.mem_of_find?_eq_some hfound) (List.find?_some hfound)]

/-- The session of a key. -/
theorem session?_eq (h : tables.IsSound) (hs : s ∈ tables.sessions) (hkey : s.isOf key = true) :
    tables.session? key = some s :=
  find?_eq_of_unique hs hkey fun _ hs' hkey' => row_eq_of_isOf h hs' hs hkey' hkey

/-- The rows of an attempt that has a name. -/
theorem rowsByName_eq (h : tables.IsSound) (hs : s ∈ tables.sessions) (hkey : s.isOf key = true)
    (ha : a ∈ tables.attempts) (hsession : a.session = s.id) (hsite : a.site = .whole site)
    {name : String} (hname : a.retryName = some name) :
    Store.rowsByName tables site key name = some (s, a) := by
  have hfind : tables.sessions.find? (fun s' => decide (s'.id = a.session) && s'.isOf key) = some s := by
    refine find?_eq_of_unique hs (by simp [hsession, hkey]) fun s' hs' hfound => ?_
    rw [Bool.and_eq_true] at hfound
    exact row_eq_of_isOf h hs' hs hfound.2 hkey
  cases hrows : Store.rowsByName tables site key name with
  | none =>
    -- The search cannot have passed this attempt.
    have hpassed := List.findSome?_eq_none_iff.mp hrows a ha
    rw [hsite, hname, hfind] at hpassed
    simp at hpassed
  | some rows =>
    obtain ⟨s', a'⟩ := rows
    obtain ⟨hs', hkey', ha', hof, -, hname'⟩ := of_rowsByName hrows
    have hsame := row_eq_of_isOf h hs' hs hkey' hkey
    have hslot : a' = a := by
      refine eq_of_slot h ha' ha ?_ ?_
      · rw [hsession, hof, hsame]
      · rw [hname', hname]
    rw [hsame, hslot]

/-- The rows of the last attempt of a session. -/
theorem rowsOfLast_eq (h : tables.IsConsistent) (hs : s ∈ tables.sessions) (hkey : s.isOf key = true)
    (hlast : (tables.attemptsOf s.id).getLast? = some a) (hsite : a.site = .whole site) :
    Store.rowsOfLast tables site key = some (s, a) := by
  have ha : a ∈ tables.attempts := (List.mem_filter.mp (List.mem_of_getLast? hlast)).1
  have hknown : s.lastAttempt = some (.whole a.id) := by
    rw [h.last s hs, hlast]
    rfl
  have hfind : tables.attempts.find?
      (fun b => decide (Cell.whole b.id = .whole a.id) && decide (b.site = .whole site)) = some a := by
    refine find?_eq_of_unique ha (by simp [hsite]) fun b hb hfound => ?_
    rw [Bool.and_eq_true, decide_eq_true_eq, Cell.whole.injEq] at hfound
    exact List.inj_on_of_nodup_map h.sound.attempts hb ha hfound.1
  rw [Store.rowsOfLast, session?_eq h.sound hs hkey]
  simp only [Option.bind_eq_bind, Option.bind_some, hknown, hfind]
  rfl

/-- The answer for rows whose session can be read. -/
theorem foundOr_eq {session : Stored} (hstored : s.stored = .ok session) (retryName : Option String) :
    Store.foundOr site key retryName (some (s, a)) =
      (Store.orDatabase a.attempt).map fun attempt => ⟨site, session, attempt⟩ := by
  unfold Store.foundOr Store.joined
  dsimp only
  rw [hstored]
  cases a.attempt <;> rfl

/-- A lookup by the name of an attempt answers it, if it can be read. -/
theorem attemptIn_some_eq (h : tables.IsSound) (hs : s ∈ tables.sessions) (hkey : s.isOf key = true)
    {session : Stored} (hstored : s.stored = .ok session) (ha : a ∈ tables.attempts)
    (hsession : a.session = s.id) (hsite : a.site = .whole site) {name : String}
    (hname : a.retryName = some name) :
    Store.attemptIn tables site key (some name) =
      (Store.orDatabase a.attempt).map fun attempt => ⟨site, session, attempt⟩ := by
  rw [Store.attemptIn, rowsByName_eq h hs hkey ha hsession hsite hname]
  exact foundOr_eq hstored _

/-- A lookup without a name answers the last attempt of the session, if it can be read. -/
theorem attemptIn_none_eq (h : tables.IsConsistent) (hs : s ∈ tables.sessions)
    (hkey : s.isOf key = true) {session : Stored} (hstored : s.stored = .ok session)
    (hlast : (tables.attemptsOf s.id).getLast? = some a) (hsite : a.site = .whole site) :
    Store.attemptIn tables site key none =
      (Store.orDatabase a.attempt).map fun attempt => ⟨site, session, attempt⟩ := by
  rw [Store.attemptIn, rowsOfLast_eq h hs hkey hlast hsite]
  exact foundOr_eq hstored _

/-- A lookup for a time without a fraction of a second. -/
theorem find_run (hwhole : key.time.IsWholeSecond) (store : Store) (limits : Limits)
    (retryName : Option String) :
    ((find limits key retryName).run store).run.1 =
      (Store.attemptIn store.tables limits.site key retryName).mapError .ofStore := by
  have hcheck : checkTime key.time = .ok () := if_pos (decide_eq_true hwhole)
  unfold find
  rw [hcheck]
  cases retryName <;> rfl

/-- A lookup for a time with a fraction of a second is refused. -/
theorem find_fractional (hfraction : ¬key.time.IsWholeSecond) (store : Store) (limits : Limits)
    (retryName : Option String) :
    ((find limits key retryName).run store).run.1 = .error (.invalid (.fractionalTime key.time)) := by
  have hcheck : checkTime key.time = .error (.fractionalTime key.time) :=
    if_neg (by simpa using hfraction)
  unfold find
  rw [hcheck]
  rfl

end RetrySafe.Session
