import Mathlib.Data.List.Forall2

/-!
# Tables as lists of pairs

Stores keep their values as lists of pairs, of which the first one of a key counts. Two tables with the
same keys are compared pair by pair.

## Main results

* `lookup_eq_of_perm` — where no key stands twice, the order of the pairs makes no difference.
* `lookup_of_forall₂` — tables with the same keys and related values give related values.
* `lookup_filter_ne`, `lookup_filter_self` — without the pairs of a key, every other key has its old
  value, and that one none.
-/

namespace RetrySafe.Association

variable {α β : Type}

theorem mem_of_lookup [BEq α] [LawfulBEq α] {key : α} {value : β} {pairs : List (α × β)}
    (h : pairs.lookup key = some value) : (key, value) ∈ pairs := by
  obtain ⟨before, after, rfl, -⟩ := List.lookup_eq_some_iff.mp h
  exact List.mem_append_right before List.mem_cons_self

theorem lookup_cons_ne [BEq α] [LawfulBEq α] {key other : α} (h : other ≠ key) (value : β)
    (pairs : List (α × β)) : ((key, value) :: pairs).lookup other = pairs.lookup other := by
  rw [List.lookup_cons, beq_false_of_ne h]

/-- Where no key stands twice, the order of the pairs makes no difference. -/
theorem lookup_eq_of_perm [BEq α] [LawfulBEq α] {pairs pairs' : List (α × β)}
    (hkeys : (pairs.map Prod.fst).Nodup) (hperm : pairs.Perm pairs') (key : α) :
    pairs.lookup key = pairs'.lookup key := by
  induction hperm with
  | nil => rfl
  | cons pair _ ih =>
    rw [List.lookup_cons, List.lookup_cons, ih (List.nodup_cons.mp hkeys).2]
  | swap second first pairs =>
    obtain ⟨k, v⟩ := first
    obtain ⟨k', v'⟩ := second
    have hne : k ≠ k' := fun h => (List.nodup_cons.mp hkeys).1 (h ▸ List.mem_cons_self)
    by_cases hfirst : key = k
    · subst hfirst
      rw [lookup_cons_ne hne, List.lookup_cons_self, List.lookup_cons_self]
    · rw [lookup_cons_ne hfirst, List.lookup_cons, List.lookup_cons, lookup_cons_ne hfirst]
  | trans hperm _ ih ih' =>
    exact (ih hkeys).trans (ih' ((hperm.map Prod.fst).nodup_iff.mp hkeys))

theorem exists_of_mem {R : α → β → Prop} {as : List α} {bs : List β} (h : List.Forall₂ R as bs)
    {a : α} (ha : a ∈ as) : ∃ b ∈ bs, R a b := by
  induction h with
  | nil => cases ha
  | @cons a' b as bs hab _ ih =>
    rcases List.mem_cons.mp ha with rfl | ha
    · exact ⟨b, List.mem_cons_self, hab⟩
    · obtain ⟨b', hb', hab'⟩ := ih ha
      exact ⟨b', List.mem_cons_of_mem _ hb', hab'⟩

section Related

variable {γ : Type} {R : β → γ → Prop} {pairs : List (α × β)} {pairs' : List (α × γ)}

/-- Tables with the same keys in the same order, and related values. -/
theorem forall₂_of_map_eq (hkeys : pairs.map Prod.fst = pairs'.map Prod.fst)
    (hvalues : List.Forall₂ R (pairs.map Prod.snd) (pairs'.map Prod.snd)) :
    List.Forall₂ (fun pair pair' => pair.1 = pair'.1 ∧ R pair.2 pair'.2) pairs pairs' := by
  induction pairs generalizing pairs' with
  | nil =>
    obtain rfl := List.map_eq_nil_iff.mp hkeys.symm
    exact .nil
  | cons pair pairs ih =>
    obtain ⟨pair', pairs', rfl, hkey, hrest⟩ := List.map_eq_cons_iff.mp hkeys.symm
    obtain ⟨hvalue, hvalues⟩ := List.forall₂_cons.mp hvalues
    exact .cons ⟨hkey.symm, hvalue⟩ (ih hrest.symm hvalues)

theorem lookup_of_forall₂ [BEq α] [LawfulBEq α]
    (h : List.Forall₂ (fun pair pair' => pair.1 = pair'.1 ∧ R pair.2 pair'.2) pairs pairs')
    (key : α) :
    pairs.lookup key = none ∧ pairs'.lookup key = none ∨
      ∃ value value', pairs.lookup key = some value ∧ pairs'.lookup key = some value' ∧
        R value value' := by
  induction h with
  | nil => exact .inl ⟨rfl, rfl⟩
  | @cons pair pair' _ _ hpair _ ih =>
    obtain ⟨first, value⟩ := pair
    obtain ⟨_, value'⟩ := pair'
    obtain ⟨rfl, hvalue⟩ := hpair
    by_cases hkey : key = first
    · subst hkey
      exact .inr ⟨value, value', List.lookup_cons_self, List.lookup_cons_self, hvalue⟩
    · rw [lookup_cons_ne hkey, lookup_cons_ne hkey]
      exact ih

end Related

variable [DecidableEq α]

/-- Without the pairs of a key, every other key has its old value. -/
theorem lookup_filter_ne {key other : α} (h : other ≠ key) (pairs : List (α × β)) :
    (pairs.filter (·.1 ≠ key)).lookup other = pairs.lookup other := by
  induction pairs with
  | nil => rfl
  | cons pair pairs ih =>
    obtain ⟨k, value⟩ := pair
    by_cases hkey : k = key
    · subst hkey
      rw [lookup_cons_ne h, List.filter_cons_of_neg (by simp), ih]
    · rw [List.filter_cons_of_pos (by simpa using hkey), List.lookup_cons, List.lookup_cons, ih]

/-- Without the pairs of a key it has no value. -/
theorem lookup_filter_self (key : α) (pairs : List (α × β)) :
    (pairs.filter (·.1 ≠ key)).lookup key = none := by
  refine List.lookup_eq_none_iff.mpr fun pair hpair => ?_
  have hkept : pair.1 ≠ key := of_decide_eq_true (List.mem_filter.mp hpair).2
  exact bne_iff_ne.mpr hkept.symm

theorem lookup_singleton_eq_some {key other : α} {value found : β} :
    [(key, value)].lookup other = some found ↔ other = key ∧ value = found := by
  by_cases h : other = key
  · simp [h]
  · simp [lookup_cons_ne h, h]

end RetrySafe.Association
