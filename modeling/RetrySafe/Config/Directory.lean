import RetrySafe.Files.Path

/-!
# Where configurations lie

The user's configuration lies in a directory that the environment names: one for this program alone,
or one below the directory for all configurations, which has a standard place in the home.

## Main definitions

* `Config.Environment` — the variables that are looked at.
* `Config.Environment.directory?`, `Config.Environment.path?` — the directory and the user's file.
* `Config.projectPath` — the file of a project.
-/

namespace RetrySafe.Config

/-- The variables that are looked at. -/
structure Environment where
  /-- The home that the system knows for the account, where no variable names one. -/
  account : Option String := none
  home : Option String := none
  configHome : Option String := none
  own : Option String := none

namespace Environment

/-- The directory for all configurations; a relative one does not count. -/
def platform? (env : Environment) : Option String :=
  match env.configHome.filter (·.startsWith "/") with
  | some path => some path
  | none => (env.home.filter (· ≠ "") <|> env.account).map (Files.Path.join · ".config")

/-- The directory of the user's configuration. -/
def directory? (env : Environment) : Option String :=
  match env.own.filter (· ≠ "") with
  | some path => some path
  | none => env.platform?.map (Files.Path.join · "drover")

/-- The file of the user's configuration in a directory. -/
def userPath (directory : String) : String := Files.Path.join directory "config.toml"

/-- The file of the user's configuration. -/
def path? (env : Environment) : Option String := env.directory?.map userPath

end Environment

/-- The file of a project's configuration. -/
def projectPath (directory : String) : String := Files.Path.join directory "drover.toml"

end RetrySafe.Config
