import RetrySafe.Proofs.Text.Trimming
import RetrySafe.Session.Validation

/-!
# Well-formed requests

A request passes validation if and only if it keeps all of the rules, which are given here as such and
not by a procedure that looks for the first one that is broken.

## Main definitions

* `IsRetryName`, `Request.IsWellFormed` — the rules.

## Main results

* `validate_eq_ok_iff` — validation accepts the well-formed requests.
-/

namespace RetrySafe

namespace Session

/-! ## Rules -/

/-- The rules for a retry name. -/
structure IsRetryName (name : String) : Prop where
  nonempty : name ≠ ""
  length : name.toList.length ≤ Defaults.maxNameLength
  trimmed : Text.IsTrimmed name.toList
  printable : ∀ c ∈ name.toList, Text.isControl c = false

/-- The rules for a request. -/
structure Request.IsWellFormed (request : Request) (maxParamsBytes : Nat) : Prop where
  workflow : request.workflow ≠ ""
  workflowLength : request.workflow.toList.length ≤ Defaults.maxNameLength
  time : request.time.IsWholeSecond
  retryName : ∀ name, request.retryName = some name → IsRetryName name
  timeZone : ∃ c ∈ request.timeZone.toList, Text.isBlank c = false
  params : (Json.obj request.params).byteSize ≤ maxParamsBytes

theorem insist_eq_ok_iff {condition : Bool} {reason : Invalid} :
    insist condition reason = .ok () ↔ condition = true := by
  cases condition <;> simp [insist]

theorem andThen_eq_ok_iff {check rest : Except Invalid Unit} :
    (check >>= fun _ => rest) = .ok () ↔ check = .ok () ∧ rest = .ok () := by
  cases check <;> simp [bind, Except.bind]

theorem checkRetryName_eq_ok_iff {name : String} :
    checkRetryName name = .ok () ↔ IsRetryName name := by
  simp only [checkRetryName, andThen_eq_ok_iff, insist_eq_ok_iff, decide_eq_true_eq,
    Text.trim_eq_self_iff, Bool.not_eq_true', List.any_eq_false, Bool.not_eq_true]
  constructor
  · rintro ⟨hnonempty, hlength, htrimmed, hprintable⟩
    exact ⟨hnonempty, hlength, htrimmed, hprintable⟩
  · rintro ⟨hnonempty, hlength, htrimmed, hprintable⟩
    exact ⟨hnonempty, hlength, htrimmed, hprintable⟩

/-- Validation accepts the well-formed requests. -/
theorem validate_eq_ok_iff {request : Request} {maxParamsBytes : Nat} :
    request.validate maxParamsBytes = .ok () ↔ request.IsWellFormed maxParamsBytes := by
  have hzone : (!(Text.trim request.timeZone.toList).isEmpty) = true ↔
      ∃ c ∈ request.timeZone.toList, Text.isBlank c = false := by
    rw [Bool.not_eq_true', Bool.eq_false_iff, ne_eq, List.isEmpty_iff, Text.trim_eq_nil_iff]
    simp
  have hrules : request.validate maxParamsBytes = .ok () ↔
      request.workflow ≠ "" ∧ request.workflow.toList.length ≤ Defaults.maxNameLength ∧
        request.time.IsWholeSecond ∧
        (∀ name, request.retryName = some name → IsRetryName name) ∧
        (∃ c ∈ request.timeZone.toList, Text.isBlank c = false) ∧
        (Json.obj request.params).byteSize ≤ maxParamsBytes := by
    rw [← hzone]
    unfold Request.validate checkTime
    cases request.retryName <;>
      simp only [andThen_eq_ok_iff, insist_eq_ok_iff, checkRetryName_eq_ok_iff, decide_eq_true_eq,
        Option.some.injEq, forall_eq', reduceCtorEq, false_implies, implies_true, true_and]
  rw [hrules]
  constructor
  · rintro ⟨hworkflow, hlength, htime, hname, hzone, hparams⟩
    exact ⟨hworkflow, hlength, htime, hname, hzone, hparams⟩
  · rintro ⟨hworkflow, hlength, htime, hname, hzone, hparams⟩
    exact ⟨hworkflow, hlength, htime, hname, hzone, hparams⟩

instance (request : Request) (maxParamsBytes : Nat) :
    Decidable (request.IsWellFormed maxParamsBytes) :=
  decidable_of_iff ((request.validate maxParamsBytes).toBool = true) <| by
    rw [← validate_eq_ok_iff]
    cases request.validate maxParamsBytes <;> simp [Except.toBool]

end Session

end RetrySafe
