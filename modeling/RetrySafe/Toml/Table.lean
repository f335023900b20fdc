import RetrySafe.Json.Basic
import RetrySafe.Toml.Text

/-!
# TOML tables

A table is defined once: by a header of its own, by dotted keys, or on the way to the table of
another header, which a header of its own may still follow. An array of tables grows with each of
its headers, and a path through it leads to its last table. A value that is written out cannot be
added to.

## Main definitions

* `Node` — a value, a table or an array of tables.
* `change` — the table that a path leads to, changed.
* `assign`, `openTable`, `openItem` — what a line does to the table it stands in.
* `Node.toJson` — the value that a node stands for.
-/

namespace RetrySafe.Toml

/-- How a table came to be. -/
inductive Origin
  /-- By a header of its own. -/
  | header
  /-- On the way to the table of another header. -/
  | implied
  /-- By a dotted key. -/
  | dotted
  deriving DecidableEq, Repr

/-- What a key stands for. -/
inductive Node
  | value (v : Json)
  | table (origin : Origin) (entries : List (String × Node))
  | tables (items : List (List (String × Node)))

/-- The keys of a table with what they stand for. -/
abbrev Entries := List (String × Node)

mutual

/-- The value that a node stands for. -/
def Node.toJson : Node → Json
  | .value v => v
  | .table _ entries => .obj (membersOf entries)
  | .tables items => .arr (itemsOf items)

/-- The members that some entries stand for. -/
def membersOf : List (String × Node) → Members
  | [] => []
  | (key, node) :: entries => (key, node.toJson) :: membersOf entries

/-- The objects that some tables stand for. -/
def itemsOf : List (List (String × Node)) → List Json
  | [] => []
  | entries :: items => .obj (membersOf entries) :: itemsOf items

end

/-- Give a key another node. -/
def Entries.put (entries : Entries) (key : String) (node : Node) : Entries :=
  entries.map fun entry => if entry.1 = key then (key, node) else entry

/-- Change the table that a path leads to. Tables that are missing come to be on the way. A dotted
key leads through no table with a header of its own. -/
def change (dotted : Bool) (last : Origin → Entries → Option (Origin × Entries)) :
    List String → Origin → Entries → Option (Origin × Entries)
  | [], origin, entries => last origin entries
  | key :: path, origin, entries =>
    match List.lookup key entries with
    | none => do
      let (o, es) ← change dotted last path (if dotted then .dotted else .implied) []
      return (origin, entries ++ [(key, .table o es)])
    | some (.table o es) =>
      if dotted ∧ o = .header then none
      else do
        let (o, es) ← change dotted last path o es
        return (origin, Entries.put entries key (.table o es))
    | some (.tables items) => do
      let (_, es) ← change dotted last path .header (← items.getLast?)
      return (origin, Entries.put entries key (.tables (items.dropLast ++ [es])))
    | some (.value _) => none

/-- Give a key that is free a value. The last table of a dotted key is one that dotted keys define,
and a plain key stands in no such table. -/
def assign (p : Path) (v : Json) : Origin → Entries → Option (Origin × Entries) :=
  change true (fun origin entries =>
    if (origin = .dotted ↔ p.parents = []) ∨ (List.lookup p.key entries).isSome then none
    else some (origin, entries ++ [(p.key, .value v)])) p.parents

/-- Give a key that is free, or implied by other headers, a table with a header of its own. -/
def openTable (p : Path) : Origin → Entries → Option (Origin × Entries) :=
  change false (fun origin entries =>
    match List.lookup p.key entries with
    | none => some (origin, entries ++ [(p.key, .table .header [])])
    | some (.table .implied es) => some (origin, Entries.put entries p.key (.table .header es))
    | _ => none) p.parents

/-- Add an empty table to the array of tables of a key, which may be new. -/
def openItem (p : Path) : Origin → Entries → Option (Origin × Entries) :=
  change false (fun origin entries =>
    match List.lookup p.key entries with
    | none => some (origin, entries ++ [(p.key, .tables [[]])])
    | some (.tables items) => some (origin, Entries.put entries p.key (.tables (items ++ [[]])))
    | _ => none) p.parents

end RetrySafe.Toml
