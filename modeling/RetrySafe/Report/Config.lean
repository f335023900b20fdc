import RetrySafe.Config.Document
import RetrySafe.Config.Layers
import RetrySafe.Engine.Basic
import RetrySafe.Report.Error

/-!
# Configurations and engines as documents

## Main definitions

* `Report.config` — a configuration as it is and as it holds.
* `Report.configError`, `Report.engineError` — the documents of errors.
* `Report.loaded` — a configuration with its sources and warnings.
-/

namespace RetrySafe.Report

/-- A configuration as it is and as it holds. -/
def config (c : Config) : Members :=
  [("sections", c.sectionsJson), ("effective", c.effectiveJson)]

/-- An error of a configuration. What is wrong with a text is not told. -/
def configError (e : Config.Error) : Json :=
  match e with
  | .readFile .. => error "ReadFile" e.message
  | .writeFile .. => error "WriteFile" e.message
  | .parse _ => .obj [("error", .str "Parse")]
  | .serialize => .obj [("error", .str "Serialize")]
  | .invalid flaw => error "Invalid" e.message [("field", .str flaw.field)]

/-- An error of an engine, with the error behind it. One of files is told by its sentence. -/
def engineError (e : EngineError) : Json :=
  let (kind, cause) := match e with
    | .config cause => ("Config", configError cause)
    | .store cause => ("Store", storeError cause)
    | .guard cause => ("Guard", guardError cause)
    | .secret cause => ("Secret", secretError cause)
    | .io cause => ("Io", .str cause.message)
  error kind e.message [("cause", cause)]

/-- What was read of a layer. -/
def reading (r : Config.Reading) : Json :=
  .obj [("layer", .str r.layer.name), ("path", .str r.path),
    ("loaded", .bool r.config?.isSome)]

/-- A configuration with its sources and warnings. -/
def loaded (l : Config.Loaded) : Json :=
  .obj [("config", .obj (config l.config)), ("sources", .arr (l.sources.map reading)),
    ("loaded_from", .arr (l.paths.map .str)), ("warnings", .arr (l.warnings.map .str))]

end RetrySafe.Report
