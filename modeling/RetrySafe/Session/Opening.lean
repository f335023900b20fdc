import RetrySafe.Files.Tree
import RetrySafe.Session.Header
import RetrySafe.Session.Location

/-!
# Opening a session store

A store lies in a file, in memory or in a file without a name. An empty file becomes a new store,
and so does a path that leads nowhere; a file that holds something else is left alone. Dots in the
path are resolved by the names alone, but what each name leads to is looked at first.

## Main definitions

* `Session.follow` — the names from the root that a path stands for.
* `Session.openFile` — the files after a store was opened.
-/

namespace RetrySafe.Session

open RetrySafe.Files (Tree)

/-- Go on from some names by one part. It may lead nowhere, but not through a file. -/
def followPart (tree : Tree) (names : List String) (part : String) : Except Unit (List String) :=
  if part = "." then .ok names
  else if part = ".." then .ok names.dropLast
  else
    match tree.entry? names part, tree.at? names with
    | .error _, _ => .error ()
    | _, some (.file _) | _, some .sealedFile => .error ()
    | _, _ => .ok (names ++ [part])

/-- The names from the root that a path stands for. -/
def follow (tree : Tree) (path : String) : Except Unit (List String) :=
  (Files.Path.parts path).foldlM (followPart tree)
    (if Files.Path.isAbsolute path then [] else tree.home)

/-- The number of bytes of the path of some names. -/
def pathSize (names : List String) : Nat :=
  names.foldl (fun size name => size + name.utf8ByteSize + 1) 0

/-- The largest number of bytes of the path of a store. -/
def maxStorePath : Nat := 504

/-- The largest number of bytes of the name of a store: beside its file lies a journal, whose name
is longer by eight bytes. -/
def maxStoreName : Nat := Files.maxName - 8

/-- Open the file at some names from the root. -/
def openAt (tree : Tree) (location : Location) (text : String) (names : List String) :
    Except StoreError Tree := do
  let content ← match tree.at? names with
    | some .directory =>
      throw (.opening (if location.access = .readOnly then .diskError else .cannotOpen text))
    | some .sealedFile => throw (.opening (.cannotOpen text))
    | some (.file content) => pure content
    | none =>
      if tree.at? names.dropLast = some .directory ∧ location.access = .create then pure []
      else throw (.opening (.cannotOpen text))
  (Header.check content).mapError .opening
  if location.isFixed then throw (.migration .readOnly)
  if location.access = .readOnly then throw (.opening .readOnly)
  if maxStoreName < (names.getLastD "").utf8ByteSize then throw (.opening .cannotOpenJournal)
  if !Header.isUsable content then throw (.migration .malformed)
  return tree.put names (.file [])

/-- Open the store that a text names. -/
def openFile (tree : Tree) (text : String) : Except StoreError Tree := do
  if let some place := text.toUTF8.toList.idxOf? 0 then throw (.opening (.holdsNul place))
  let location ← (Location.read text).mapError .opening
  if location.inMemory then return tree
  if location.path = "" then
    if location.access = .readOnly then throw (.migration .readOnly) else return tree
  match follow tree location.path with
  | .error () => throw (.opening (.cannotOpen text))
  | .ok names =>
    if names = [] ∨ maxStorePath < pathSize names then throw (.opening (.cannotOpen text))
    openAt tree location text names

end RetrySafe.Session
