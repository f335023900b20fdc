import RetrySafe.Config.Directory
import RetrySafe.Config.Layers
import RetrySafe.Guard.Statement
import RetrySafe.Secret.Resolver
import RetrySafe.Session.Manager
import RetrySafe.Session.Opening
import RetrySafe.Task.Runner

/-!
# The engine

An engine holds a valid configuration and makes from it what runs tasks: the limits of submissions,
the runner, the back-off, the policy of secrets and guarded statements.

## Main definitions

* `Engine`, `EngineError` — an engine, and why there is none.
* `Engine.open`, `Engine.load` — the engine of a configuration, and of the files of its layers.
* `Engine.runner`, `Engine.backoff`, `Engine.resolver`, `Engine.statement` — what it makes.
-/

namespace RetrySafe

/-- Why an engine cannot be made, or cannot make something. -/
inductive EngineError
  | config (cause : Config.Error)
  | store (cause : Session.StoreError)
  | guard (cause : GuardError)
  | secret (cause : Secret.Error)
  | io (cause : Files.Fault)

/-- The sentence for an error. -/
def EngineError.message : EngineError → String
  | config cause => "Configuration error: " ++ cause.message
  | store cause => "Session store error: " ++ cause.message
  | guard cause => "Guard error: " ++ cause.message
  | secret cause => "Secret error: " ++ cause.message
  | io cause => "IO error: " ++ cause.message

/-- A valid configuration, and the keys that every task may read. -/
structure Engine where
  config : Config
  access : List Secret.Key

namespace Engine

/-- Make the directories of a store and open it. -/
def openStore (tree : Files.Tree) (path : String) : Except EngineError Files.Tree := do
  let tree ← (tree.makeDirectories ((Files.Path.parent? path).getD "")).mapError EngineError.io
  (Session.openFile tree path).mapError .store

/-- The engine of a configuration, and the files after its store was opened. -/
def «open» (tree : Files.Tree) (config : Config) : Except EngineError (Engine × Files.Tree) := do
  if let .error flaw := config.validate then throw (.config (.invalid flaw))
  let tree ← match config.database.bind (·.path) with
    | none => pure tree
    | some path => openStore tree path
  match Secret.Policy.bases config.secretAccess.defaultAccess with
  | .ok access => return (⟨config, access⟩, tree)
  | .error cause => throw (.secret cause)

/-- The engine of the layers of a configuration, after all warnings about them. -/
def load {m : Type → Type} [Monad m] [MonadWarn m] (tree : Files.Tree)
    (environment : Config.Environment) (project : String) :
    m (Except EngineError (Engine × Files.Tree)) := do
  match Config.loadLayers tree environment.path? (Config.projectPath project) with
  | .error flaw => return .error (.config (.invalid flaw))
  | .ok loaded =>
    loaded.warnings.forM warn
    return «open» tree loaded.config

/-- A limit, of which 0 is none. -/
def limit? (n : Nat) : Option Nat := if n = 0 then none else some n

/-- What submissions have to keep to. -/
def limits (engine : Engine) : Session.Limits := engine.config.attemptLimits

/-- The runner over a store of states. -/
def runner {m : Type → Type} (engine : Engine) (store : Task.StateStore m) : Task.Runner m where
  store := store
  roundTimeout := (limit? engine.config.roundLimits.roundTimeoutSecs).map .ofSecs
  maxRounds := limit? engine.config.roundLimits.maxRounds

/-- The back-off with the bounds of the configuration. -/
def backoff (engine : Engine) : Task.Backoff :=
  let bounds := engine.config.backoffBounds
  .of Defaults.pollKey (.ofSecs bounds.initialSecs) (.ofSecs bounds.maxSecs)

/-- The policy of secrets: what every task may read. -/
def policy (engine : Engine) : Secret.Policy := .under engine.access

/-- The resolver of a task of the engine's site. -/
def resolver (engine : Engine) (context : Secret.Context) (grants : Secret.GrantTree)
    (filter : Secret.Filter) : Secret.Resolver :=
  ⟨{ context with site := engine.limits.site }, engine.policy, grants, filter⟩

/-- A guarded statement on a target. -/
def statement {m : Type → Type} [Monad m] [MonadWarn m] (engine : Engine)
    (connector : Connector m) : m (Except EngineError (GuardedStatement m)) := do
  match ← GuardedStatement.of connector engine.config.guardSettings engine.backoff with
  | .ok task => return .ok task
  | .error cause => return .error (.guard cause)

end Engine

end RetrySafe
