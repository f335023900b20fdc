import RetrySafe.Config.Document
import RetrySafe.Config.Error
import RetrySafe.Toml.Document
import RetrySafe.Toml.Writer

/-!
# Configurations as text

A configuration is written as TOML, each section that is present as a table. In a text that is read
an array may stand for a section: its items are the fields in order, and items beyond the last field
do not count.

## Main definitions

* `Config.ofToml`, `Config.toml?` — reading and writing.
* `Config.load`, `Config.save` — the same with files.
-/

namespace RetrySafe.Config

/-- How many fields a section has. -/
def fieldCount (name : String) : Option Nat :=
  match name with
  | "database" | "secrets" => some 1
  | "backoff" | "task" | "logging" => some 2
  | "attempts" | "guard" => some 3
  | _ => none

/-- A section without items that stand for no field. -/
def trimmed (member : String × Json) : String × Json :=
  match fieldCount member.1, member.2 with
  | some count, .arr items => (member.1, .arr (items.take count))
  | _, _ => member

/-- Read a configuration. -/
def ofToml (text : String) : Except Error Config :=
  match Toml.read text with
  | none => .error (.parse .notToml)
  | some members =>
    match ofJson (.obj (members.map trimmed)) with
    | .ok config => .ok config
    | .error mismatch => .error (.parse (.shape mismatch))

/-- The sections that are present, by name. -/
def tables (c : Config) : List (String × Members) :=
  [("database", c.database.map (·.members)), ("attempts", c.attempts.map (·.members)),
    ("guard", c.guard.map (·.members)), ("backoff", c.backoff.map (·.members)),
    ("secrets", c.secrets.map (·.members)), ("task", c.task.map (·.members)),
    ("logging", c.logging.map (·.members))].filterMap
      fun (name, members?) => members?.map (name, ·)

/-- Write a configuration, unless an integer is too large. -/
def toml? (c : Config) : Except Error String :=
  match Toml.document? c.tables with
  | some text => .ok text
  | none => .error .serialize

/-- Read a file. -/
def load (tree : Files.Tree) (path : String) : Except Error Config :=
  match tree.read path with
  | .ok text => ofToml text
  | .error cause => .error (.readFile path cause)

/-- Make the directories above a path. -/
def makeParent (tree : Files.Tree) (path : String) : Except Error Files.Tree :=
  match Files.Path.parent? path with
  | none => .ok tree
  | some parent =>
    match tree.makeDirectories parent with
    | .ok tree => .ok tree
    | .error cause => .error (.writeFile parent cause)

/-- Write a file and the directories above it. -/
def save (c : Config) (tree : Files.Tree) (path : String) : Except Error Files.Tree := do
  let text ← c.toml?
  let tree ← makeParent tree path
  match tree.write path text with
  | .ok tree => .ok tree
  | .error cause => .error (.writeFile path cause)

end RetrySafe.Config
