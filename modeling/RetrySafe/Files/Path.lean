import RetrySafe.Text.Separated

/-!
# Paths

A path is a text whose parts stand between slashes. One that starts with a slash starts at the
root, and any other where the process is. Empty parts and single dots lead nowhere, and two dots
lead back.

## Main definitions

* `Path.isAbsolute`, `Path.parts` — where a path starts, and its parts that are not empty.
* `Path.join` — a path below another.
* `Path.parent?` — the path without its last part.
-/

namespace RetrySafe.Files.Path

/-- Whether a path starts at the root. -/
def isAbsolute (path : String) : Bool := path.toList.head? = some '/'

/-- The parts of a path that are not empty. -/
def parts (path : String) : List String :=
  ((Text.split '/' path.toList).filter (· ≠ [])).map String.ofList

/-- A path below another, a slash between them unless the upper one ends in one. A path that starts
at the root stays as it is. -/
def join (path name : String) : String :=
  if isAbsolute name then name
  else if path = "" ∨ path.endsWith "/" then path ++ name
  else path ++ "/" ++ name

/-- A part that leads nowhere. -/
def isVoid (part : List Char) : Bool := part = [] || part = ['.']

/-- The slash or the single dot that a path starts with, and what follows it. -/
def head (cs : List Char) : List Char × List Char :=
  match cs with
  | '/' :: rest => (['/'], rest)
  | ['.'] => (['.'], [])
  | '.' :: '/' :: rest => (['.'], '/' :: rest)
  | cs => ([], cs)

/-- The path without its last part and without the parts before it that lead nowhere. The root has
none, and neither has the empty path. -/
def parent? (path : String) : Option String :=
  let (start, rest) := head path.toList
  match (Text.split '/' rest).reverse.dropWhile isVoid with
  | [] => if start = ['.'] then some "" else none
  | _ :: above =>
    some (String.ofList (start ++ Text.join '/' (above.dropWhile isVoid).reverse))

end RetrySafe.Files.Path
