/-!
# Warnings

What a run warns of is part of what it does, in the order in which it happens.

## Main definitions

* `MonadWarn` — effects that can warn.
* `Journal` — the warnings so far.
-/

namespace RetrySafe

/-- Effects that can warn. -/
class MonadWarn (m : Type → Type) where
  warn : String → m Unit

export MonadWarn (warn)

/-- The warnings so far, the last one first. -/
structure Journal where
  entries : List String := []

instance {m : Type → Type} [Monad m] : MonadWarn (StateT Journal m) where
  warn message := modify fun journal => ⟨message :: journal.entries⟩

instance {m n : Type → Type} [MonadLift m n] [MonadWarn m] : MonadWarn n where
  warn message := liftM (warn message : m Unit)

/-- The warnings in order. -/
def Journal.warnings (journal : Journal) : List String := journal.entries.reverse

end RetrySafe
