import RetrySafe.Config.Validation
import RetrySafe.Files.Tree
import RetrySafe.Json.Typed

/-!
# Errors of configurations

## Main definitions

* `Config.Error` — why a configuration cannot be read, written or used.
-/

namespace RetrySafe.Config

/-- Why a text is no configuration. -/
inductive Illegible
  /-- The text is no TOML. -/
  | notToml
  /-- A value is not of the type of its field. -/
  | shape (mismatch : Json.Mismatch)

/-- The phrase for a text that is no configuration. -/
def Illegible.message : Illegible → String
  | notToml => "not a TOML document"
  | shape mismatch => mismatch.message

/-- Why a configuration cannot be read, written or used. -/
inductive Error
  | readFile (path : String) (cause : Files.Fault)
  | writeFile (path : String) (cause : Files.Fault)
  | parse (cause : Illegible)
  /-- An integer is too large to be written. -/
  | serialize
  | invalid (flaw : Flaw)

/-- The sentence for an error. -/
def Error.message : Error → String
  | readFile path cause => "cannot read config file '" ++ path ++ "': " ++ cause.message
  | writeFile path cause => "cannot write config file '" ++ path ++ "': " ++ cause.message
  | parse cause => "config is not valid TOML: " ++ cause.message
  | serialize => "config cannot be written as TOML: integer out of range"
  | invalid flaw => flaw.message

end RetrySafe.Config
