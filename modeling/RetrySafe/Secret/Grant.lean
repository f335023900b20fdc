import RetrySafe.Json.Basic
import RetrySafe.Secret.Error

/-!
# Grants

A grant document is an object whose member names are segments. Along the segments of a key it leads
to a grant: `true` hands the key out under its own name, a text replaces the part of the key walked
so far, and `false`, a missing member or an object at the end grant nothing.

## Main definitions

* `Grant`, `GrantTree` — a grant, and the grants by segment.
* `GrantTree.ofJson` — the grants of a document; of several flaws the first in document order.
* `GrantTree.lookup` — the key to read for a requested one.
-/

namespace RetrySafe.Secret

/-- What a document says about the keys below a path. -/
inductive Grant
  /-- Every key is granted under its own name. -/
  | allow
  /-- No grant. -/
  | deny
  /-- The path is replaced by a key. -/
  | remount (base : Key)
  /-- The next segment decides. -/
  | node (children : List (Segment × Grant))

/-- The grants of a document by first segment. -/
structure GrantTree where
  root : List (Segment × Grant)

namespace GrantTree

/-- No grants. -/
def empty : GrantTree := ⟨[]⟩

/-- Whether there are no grants. -/
def isEmpty (tree : GrantTree) : Bool := tree.root.isEmpty

mutual

/-- The grant that a member's value stands for, found at a path. -/
def grantAt (path : List String) : Json → Except Error Grant
  | .bool true => .ok .allow
  | .bool false => .ok .deny
  | .str base =>
    match Key.parse base with
    | .ok key => .ok (.remount key)
    | .error flaw => .error (.invalidGrant path (.target base flaw))
  | .obj members => do return .node (← grantsAt path members)
  | .null => .error (.invalidGrant path (.valueKind Json.null.kind))
  | .number n => .error (.invalidGrant path (.valueKind (Json.number n).kind))
  | .arr items => .error (.invalidGrant path (.valueKind (Json.arr items).kind))

/-- The grants of the members of an object found at a path. The name of a member is looked at before
its value. -/
def grantsAt (path : List String) : List (String × Json) → Except Error (List (Segment × Grant))
  | [] => .ok []
  | (name, value) :: members =>
    match Segment.of? name.toList with
    | none => .error (.invalidGrant (path ++ [name]) .name)
    | some segment => do
      let grant ← grantAt (path ++ [name]) value
      return (segment, grant) :: (← grantsAt path members)

end

/-- The grants of a document. -/
def ofJson : Json → Except Error GrantTree
  | .obj members => do return ⟨← grantsAt [] members⟩
  | .null => .ok empty
  | other => .error (.invalidGrant [] (.rootKind other.kind))

/-- The key granted for `requested` when `segments` of it are still to be walked. -/
def walk (requested : Key) : List (Segment × Grant) → List Segment → Option Key
  | _, [] => none
  | scope, segment :: segments =>
    match scope.lookup segment with
    | some .allow => some requested
    | some (.remount base) => some (base.extend segments)
    | some (.node children) => walk requested children segments
    | some .deny | none => none

/-- The key to read for a requested one, if a grant applies. -/
def lookup (tree : GrantTree) (key : Key) : Option Key := walk key tree.root key.segments

end GrantTree

end RetrySafe.Secret
