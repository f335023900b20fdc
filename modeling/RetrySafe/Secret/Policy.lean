import RetrySafe.Secret.Error
import RetrySafe.Defaults

/-!
# Access policies

A policy decides over the keys that pass the filter and have no grant.

## Main definitions

* `Context` — the task that asks.
* `Policy.denyAll`, `Policy.under` — nothing, and everything below some keys.
-/

namespace RetrySafe.Secret

/-- The task that asks for a secret. -/
structure Context where
  site : Int := Defaults.site
  project : Int
  revision : Option String := none
  workflow : String
  task : String
  operator : String := ""
  deriving DecidableEq

/-- Whether a task may read a key that no grant names. -/
abbrev Policy := Context → Key → Bool

namespace Policy

/-- Nothing may be read. -/
def denyAll : Policy := fun _ _ => false

/-- Every key that equals one of the bases or lies below it may be read. -/
def under (bases : List Key) : Policy := fun _ key => bases.any fun base => key.StartsWith base

end Policy

/-- Read the bases of a policy; the first that is no key is reported. -/
def Policy.bases (texts : List String) : Except Error (List Key) := texts.mapM Key.read

end RetrySafe.Secret
