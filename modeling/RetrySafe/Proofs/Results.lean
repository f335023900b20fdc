import Mathlib.Data.List.Forall2

/-!
# Results that may be errors

A program that ends well has ended well in each of its parts, and one that fails has failed in the first
of its parts that does.

## Main definitions

* `failure` — why something has failed, if it has.

## Main results

* `bind_ok`, `map_ok` — the parts of what ended well.
* `map_eq_error_iff` — a map keeps what failed.
* `forall₂_of_mapM_eq_ok` — the parts of what ended well along a list.
* `failure_cons` — the first part that fails.
-/

namespace RetrySafe

variable {ε α β : Type}

theorem bind_ok {x : Except ε α} {f : α → Except ε β} {b : β} (h : (x >>= f) = .ok b) :
    ∃ a, x = .ok a ∧ f a = .ok b := by
  cases x with
  | error error => cases h
  | ok a => exact ⟨a, rfl, h⟩

theorem map_ok {x : Except ε α} {f : α → β} {b : β} (h : x.map f = .ok b) :
    ∃ a, x = .ok a ∧ b = f a := by
  cases x with
  | error error => cases h
  | ok a => exact ⟨a, rfl, (Except.ok.inj h).symm⟩

theorem map_eq_error_iff {x : Except ε α} {f : α → β} {error : ε} :
    x.map f = .error error ↔ x = .error error := by
  cases x with
  | error other =>
    constructor
    · rintro ⟨⟩
      rfl
    · rintro ⟨⟩
      rfl
  | ok a => exact ⟨nofun, nofun⟩

/-- Where a whole list is read, each place is read for itself. -/
theorem forall₂_of_mapM_eq_ok {read : α → Except ε β} {as : List α} {bs : List β}
    (h : as.mapM read = .ok bs) : List.Forall₂ (fun a b => read a = .ok b) as bs := by
  induction as generalizing bs with
  | nil =>
    cases h
    exact .nil
  | cons a as ih =>
    rw [List.mapM_cons] at h
    obtain ⟨b, hfirst, h⟩ := bind_ok h
    obtain ⟨rest, hrest, h⟩ := bind_ok h
    obtain rfl := Except.ok.inj h
    exact .cons hfirst (ih hrest)

/-- Why something has failed, if it has. -/
def failure : Except ε α → Option ε
  | .error error => some error
  | .ok _ => none

theorem failure_eq_none_iff {result : Except ε α} : failure result = none ↔ ∃ a, result = .ok a := by
  cases result <;> simp [failure]

theorem failure_eq_some_iff {result : Except ε α} {error : ε} :
    failure result = some error ↔ result = .error error := by
  cases result <;> simp [failure]

/-- A list whose parts are made one after the other fails where the first of them does. -/
theorem failure_cons (first : Except ε α) (rest : Except ε (List β)) (f : α → β) :
    failure (do return f (← first) :: (← rest)) = (failure first).or (failure rest) := by
  cases first <;> cases rest <;> rfl

end RetrySafe
