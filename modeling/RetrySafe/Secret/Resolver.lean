import RetrySafe.Secret.Grant
import RetrySafe.Secret.Policy
import RetrySafe.Secret.Selector

/-!
# Resolving secrets

A task asks for keys. A key outside the filter is refused; a grant hands the key out, or another key
in its place; then the policy decides. The value of a project comes before its default. Asking is an
effect of the store, so that lookups can be counted and can fail.

## Main definitions

* `Source` — where values are looked up.
* `Provider` — what a task asks.
* `Resolver.authorize` — the key that a task may read in place of the one it asks for.
* `Resolver.provider` — the resolver over a source.
* `Provider.below` — the view below a key.
-/

namespace RetrySafe.Secret

/-- Where a value was registered. -/
inductive Scope
  /-- By the owners of the project. -/
  | project
  /-- As a default of the project. -/
  | projectDefault
  deriving DecidableEq, Repr

namespace Scope

/-- The name of a scope. -/
def text : Scope → String
  | project => "project"
  | projectDefault => "project_default"

/-- The scope of a name. -/
def of? (name : String) : Option Scope :=
  if name = project.text then some project
  else if name = projectDefault.text then some projectDefault
  else none

end Scope

/-- Looks up the value of a key in a scope of a project. -/
abbrev Source (m : Type → Type) := Int → Scope → Key → ExceptT Error m (Option String)

/-- Answers with the value of a written key, or none where it may be read but has no value. -/
abbrev Provider (m : Type → Type) := String → ExceptT Error m (Option String)

/-- What decides over the keys of a task. -/
structure Resolver where
  context : Context
  policy : Policy
  grants : GrantTree
  filter : Filter

namespace Resolver

/-- The key that may be read in place of a requested one. -/
def authorize (resolver : Resolver) (key : Key) : Except Error Key :=
  if !resolver.filter.admits key then .error (.filtered key)
  else
    match resolver.grants.lookup key with
    | some target => .ok target
    | none =>
      if resolver.policy resolver.context key then .ok key else .error (.denied key)

variable {m : Type → Type} [Monad m]

/-- The value of a key: that of the project, or else its default. -/
def fetch (resolver : Resolver) (source : Source m) (key : Key) :
    ExceptT Error m (Option String) := do
  match ← source resolver.context.project .project key with
  | some value => return some value
  | none => source resolver.context.project .projectDefault key

/-- The answers of a resolver over a source. -/
def provider (resolver : Resolver) (source : Source m) : Provider m := fun text => do
  let key ← ExceptT.mk (pure (Key.read text))
  let target ← ExceptT.mk (pure (resolver.authorize key))
  resolver.fetch source target

end Resolver

namespace Provider

variable {m : Type → Type} [Monad m]

/-- The value of a key that has to have one. -/
def require (provider : Provider m) (text : String) : ExceptT Error m String := do
  match ← provider text with
  | some value => return value
  | none => throw (.notFound text)

/-- The view below a key: a written key is read first and then asked for below the base. -/
def below (provider : Provider m) (base : Key) : Provider m := fun text => do
  let relative ← ExceptT.mk (pure (Key.read text))
  provider (base.join relative).text

end Provider

/-- The base of the view below some written keys, each one below those before it. -/
def scopeBase (base : Option Key) : List String → Except Error (Option Key)
  | [] => .ok base
  | text :: texts => do
    let key ← Key.read text
    scopeBase (some (match base with | some base => base.join key | none => key)) texts

end RetrySafe.Secret
