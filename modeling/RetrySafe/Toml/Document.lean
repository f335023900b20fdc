import RetrySafe.Toml.Value

/-!
# TOML documents

A document is a list of lines: keys with their values, headers of tables and of items of arrays of
tables. A key belongs to the table of the last header before it, or to the root.

## Main definitions

* `Line`, `lines` — the lines of a text.
* `ofLines` — the members that some lines define.
* `read` — the members of a text.
-/

namespace RetrySafe.Toml

/-- A line that is not empty. -/
inductive Line
  | assign (path : Path) (value : Json)
  | table (path : Path)
  | item (path : Path)

/-- The path of a header, after its opening brackets, and what follows its closing ones. -/
def header (closing : List Char) (cs : List Char) : Option (Path × List Char) := do
  let (p, cs) ← path cs
  return (p, ← word closing cs)

/-- A line that is not empty, without its end. -/
def line (cs : List Char) : Option (Line × List Char) :=
  match cs with
  | '[' :: '[' :: cs => (header [']', ']'] cs).map fun (p, rest) => (.item p, rest)
  | '[' :: cs => (header [']'] cs).map fun (p, rest) => (.table p, rest)
  | cs => (assignment (value depthLimit) cs).map fun (p, v, rest) => (.assign p v, rest)

/-- The lines of a text that are not empty. -/
def lines : Nat → List Char → Option (List Line)
  | 0, _ => none
  | fuel + 1, cs =>
    match skipSpaces cs with
    | [] => some []
    | cs =>
      match lineEnd? cs with
      | some rest => lines fuel rest
      | none => do
        let (l, rest) ← line cs
        return l :: (← lines fuel (← lineEnd? rest))

/-- The table that the lines so far define, and the path of the last header. -/
structure Draft where
  entries : Entries := []
  here : List String := []

/-- Change the table of the root. -/
def Draft.atRoot (draft : Draft) (step : Origin → Entries → Option (Origin × Entries))
    (here : List String) : Option Draft := do
  let (_, entries) ← step .header draft.entries
  return ⟨entries, here⟩

/-- What a line adds. -/
def Draft.add (draft : Draft) : Line → Option Draft
  | .assign p v => draft.atRoot (change false (assign p v) draft.here) draft.here
  | .table p => draft.atRoot (openTable p) p.keys
  | .item p => draft.atRoot (openItem p) p.keys

/-- The members that some lines define. -/
def ofLines (ls : List Line) : Option Members := do
  let draft ← ls.foldlM Draft.add {}
  return membersOf draft.entries

/-- A text without the mark of its byte order. -/
def dropMark : List Char → List Char
  | '\uFEFF' :: cs => cs
  | cs => cs

/-- The members of a text, or none where it is no TOML. -/
def read (text : String) : Option Members := do
  let cs := dropMark text.toList
  ofLines (← lines (cs.length + 1) cs)

end RetrySafe.Toml
