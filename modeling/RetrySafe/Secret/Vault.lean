import RetrySafe.Secret.Resolver

/-!
# Secrets in memory

## Main definitions

* `Vault` — values by project, scope and key, and the number of lookups so far.
* `Vault.source` — the vault as a source; every lookup counts.
* `Source.failing` — a source some of whose lookups fail.
-/

namespace RetrySafe.Secret

/-- Where a value is kept. -/
structure Slot where
  project : Int
  scope : Scope
  key : String
  deriving DecidableEq

/-- Values by slot. -/
structure Vault where
  entries : List (Slot × String) := []
  lookups : Nat := 0

namespace Vault

/-- The value in a slot. -/
def get? (vault : Vault) (slot : Slot) : Option String := vault.entries.lookup slot

/-- Put a value into a slot. -/
def put (vault : Vault) (slot : Slot) (value : String) : Vault :=
  { vault with entries := (slot, value) :: vault.entries.filter (·.1 ≠ slot) }

/-- Empty a slot. -/
def delete (vault : Vault) (slot : Slot) : Vault :=
  { vault with entries := vault.entries.filter (·.1 ≠ slot) }

/-- The vault as a source. -/
def source : Source (StateM Vault) := fun project scope key => do
  modify fun vault => { vault with lookups := vault.lookups + 1 }
  return (← get).get? ⟨project, scope, key.text⟩

end Vault

/-- A lookup that fails, and the message it fails with. -/
structure Outage where
  scope : Scope
  key : String
  message : String

/-- The source whose lookups fail where there is an outage. -/
def Source.failing {m : Type → Type} [Monad m] (source : Source m) (outages : List Outage) :
    Source m := fun project scope key =>
  match outages.find? fun o => o.scope = scope ∧ o.key = key.text with
  | some outage => throw (.store outage.message)
  | none => source project scope key

end RetrySafe.Secret
