import RetrySafe.Config.Written

/-!
# Layers of configurations

Two files are read, the user's and the project's, and the project's overrides the user's section by
section. A file that is missing is passed over, and one that cannot be read is too, with a warning.
What the layers make together has to be valid.

## Main definitions

* `Config.Layer`, `Config.Reading` — a layer, and what was read of it.
* `Config.merge` — the configuration of some readings.
* `Config.Loaded`, `Config.loadLayers` — the result with its sources and warnings.
-/

namespace RetrySafe.Config

/-- Whose configuration it is. -/
inductive Layer
  | user
  | project
  deriving DecidableEq, Repr

/-- The name of a layer. -/
def Layer.name : Layer → String
  | user => "User"
  | project => "Project"

/-- What was read of a layer; nothing if its path leads to no file. -/
structure Reading where
  layer : Layer
  path : String
  outcome : Option (Except Error Config)

namespace Reading

/-- Read the file of a layer. -/
def of (tree : Files.Tree) (layer : Layer) (path : String) : Reading :=
  ⟨layer, path, if tree.isFile path then some (load tree path) else none⟩

/-- The configuration that was read. -/
def config? (reading : Reading) : Option Config :=
  match reading.outcome with
  | some (.ok config) => some config
  | _ => none

/-- The warning about a file that cannot be read. -/
def warning? (reading : Reading) : Option String :=
  match reading.outcome with
  | some (.error e) =>
    some ("Skipped " ++ reading.layer.name ++ " config " ++ reading.path ++ ": " ++ e.message)
  | _ => none

end Reading

/-- The configuration of some readings, each on top of those before. -/
def merge (readings : List Reading) : Config :=
  (readings.filterMap (·.config?)).foldl overriddenBy .empty

/-- The warning about what a configuration gives up. -/
def weakness? (config : Config) : Option String :=
  if config.guardSettings.strict then none
  else some ("[guard] strict = false: protected statements run on every retry and are not " ++
    "guarded against duplicate execution.")

/-- A configuration with the readings it comes from, the lowest layer first. -/
structure Loaded where
  config : Config
  sources : List Reading
  warnings : List String

/-- The paths that were read. -/
def Loaded.paths (loaded : Loaded) : List String :=
  (loaded.sources.filter (·.config?.isSome)).map (·.path)

/-- Read both layers. A user without a directory for configurations has no layer. -/
def loadLayers (tree : Files.Tree) (user? : Option String) (project : String) :
    Except Flaw Loaded := do
  let readings := (user?.map (Reading.of tree .user)).toList ++ [Reading.of tree .project project]
  let config := merge readings
  config.validate
  return { config, sources := readings
           warnings := readings.filterMap (·.warning?) ++ (weakness? config).toList }

end RetrySafe.Config
