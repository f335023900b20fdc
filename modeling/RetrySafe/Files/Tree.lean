import RetrySafe.Files.Path

/-!
# Files

A tree of files and directories, as far as configurations and stores look at it. A file holds bytes;
a directory is there if it was made or if something lies below it. A path is followed part by part,
so that every part but the last has to lead to a directory, two dots too.

## Main definitions

* `Fault` — why an operation on files failed.
* `Tree` — what there is, by the names from the root.
* `Tree.locate`, `Tree.find` — the place a path leads to, and what is there.
* `Tree.read`, `Tree.write`, `Tree.makeDirectories` — the operations.
-/

namespace RetrySafe.Files

/-- Why an operation on files failed. -/
inductive Fault
  | notFound
  | occupied
  | notDirectory
  | isDirectory
  | nameTooLong
  | notText
  | holdsNul
  | forbidden
  deriving DecidableEq, Repr

/-- The sentence for a fault. -/
def Fault.message : Fault → String
  | notFound => "No such file or directory (os error 2)"
  | occupied => "File exists (os error 17)"
  | notDirectory => "Not a directory (os error 20)"
  | isDirectory => "Is a directory (os error 21)"
  | nameTooLong => "File name too long (os error 36)"
  | notText => "stream did not contain valid UTF-8"
  | holdsNul => "file name contained an unexpected NUL byte"
  | forbidden => "Permission denied (os error 13)"

/-- What a path leads to. -/
inductive Entry
  /-- A file and its bytes. -/
  | file (content : List UInt8)
  /-- A file that may not be opened. -/
  | sealedFile
  | directory
  deriving DecidableEq

/-- What there is by its names from the root, the newest first, and where the process is. -/
structure Tree where
  entries : List (List String × Entry) := []
  home : List String := []

/-- A place in a tree: a directory, or a name in a directory, with or without a slash behind it. -/
inductive Place
  | directory (names : List String)
  | name (above : List String) (name : String) (slash : Bool)
  deriving DecidableEq

/-- The largest number of bytes of a name. -/
def maxName : Nat := 255

/-- The smallest number of bytes that a path may not have. -/
def maxPath : Nat := 4096

namespace Tree

/-- What names from the root lead to. The root is a directory, and so is whatever something lies
below. -/
def at? (tree : Tree) (names : List String) : Option Entry :=
  match tree.entries.lookup names with
  | some entry => some entry
  | none =>
    if names = [] ∨ names = tree.home ∨ tree.entries.any fun entry => names.isPrefixOf entry.1 then
      some .directory
    else none

/-- Let names from the root lead to an entry. -/
def put (tree : Tree) (names : List String) (entry : Entry) : Tree :=
  { tree with entries := (names, entry) :: tree.entries }

/-- What there is under a name in a directory. -/
def entry? (tree : Tree) (above : List String) (name : String) : Except Fault (Option Entry) :=
  if maxName < name.utf8ByteSize then .error .nameTooLong else .ok (tree.at? (above ++ [name]))

/-- Go on from a directory by one part. -/
def enter (tree : Tree) (names : List String) (part : String) : Except Fault (List String) :=
  if part = "." then .ok names
  else if part = ".." then .ok names.dropLast
  else do
    match ← tree.entry? names part with
    | none => throw .notFound
    | some (.file _) | some .sealedFile => throw .notDirectory
    | some .directory => return names ++ [part]

/-- The place that a path leads to. Its parts but the last have to be there. -/
def locate (tree : Tree) (path : String) : Except Fault Place :=
  if path.toList.contains '\x00' then .error .holdsNul
  else if path = "" then .error .notFound
  else if maxPath ≤ path.utf8ByteSize then .error .nameTooLong
  else
    let start := if Path.isAbsolute path then [] else tree.home
    match (Path.parts path).reverse with
    | [] => .ok (.directory [])
    | last :: above => do
      let names ← above.reverse.foldlM tree.enter start
      if last = "." then return .directory names
      else if last = ".." then return .directory names.dropLast
      else return .name names last (path.endsWith "/")

/-- What a path leads to. A slash at its end asks for a directory. -/
def find (tree : Tree) (path : String) : Except Fault Entry := do
  match ← tree.locate path with
  | .directory _ => return .directory
  | .name above name slash =>
    match ← tree.entry? above name with
    | none => throw .notFound
    | some .directory => return .directory
    | some entry => if slash then throw .notDirectory else return entry

/-- Whether a path leads to a file. -/
def isFile (tree : Tree) (path : String) : Bool :=
  match tree.find path with
  | .ok (.file _) | .ok .sealedFile => true
  | _ => false

/-- Whether a path leads to a directory. -/
def isDirectory (tree : Tree) (path : String) : Bool :=
  match tree.find path with
  | .ok .directory => true
  | _ => false

/-- The text of a file. -/
def read (tree : Tree) (path : String) : Except Fault String := do
  match ← tree.find path with
  | .directory => throw .isDirectory
  | .sealedFile => throw .forbidden
  | .file content =>
    match String.fromUTF8? ⟨content.toArray⟩ with
    | some text => return text
    | none => throw .notText

/-- Let a file hold a text. A file that is not there is made, unless a slash asks for a
directory. -/
def write (tree : Tree) (path text : String) : Except Fault Tree := do
  match ← tree.locate path with
  | .directory _ | .name _ _ true => throw .isDirectory
  | .name above name false =>
    match ← tree.entry? above name with
    | some .directory => throw .isDirectory
    | some .sealedFile => throw .forbidden
    | _ => return tree.put (above ++ [name]) (.file text.toUTF8.toList)

/-- Make a directory that is not there yet. -/
def makeDirectory (tree : Tree) (path : String) : Except Fault Tree := do
  match ← tree.locate path with
  | .directory _ => throw .occupied
  | .name above name _ =>
    if (← tree.entry? above name).isSome then throw .occupied
    else return tree.put (above ++ [name]) .directory

/-- Make a directory and those above it, unless they are there; at most so many. -/
def makeAll : Nat → Tree → String → Except Fault Tree
  | 0, tree, _ => .ok tree
  | fuel + 1, tree, path =>
    if path = "" then .ok tree
    else
      match tree.makeDirectory path with
      | .ok tree => .ok tree
      | .error .notFound => do
        let tree ← makeAll fuel tree ((Path.parent? path).getD "")
        match tree.makeDirectory path with
        | .ok tree => return tree
        | .error fault => if tree.isDirectory path then return tree else throw fault
      | .error fault => if tree.isDirectory path then .ok tree else .error fault

/-- Make a directory and those above it, unless they are there. -/
def makeDirectories (tree : Tree) (path : String) : Except Fault Tree :=
  makeAll (path.length + 1) tree path

/-- The names that lead to files, each once. -/
def files (tree : Tree) : List (List String) :=
  (tree.entries.map Prod.fst).eraseDups.filter fun names =>
    match tree.at? names with
    | some (.file _) | some .sealedFile => true
    | _ => false

end Tree

end RetrySafe.Files
