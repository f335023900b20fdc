import RetrySafe.Toml.Moment
import RetrySafe.Toml.Numeral
import RetrySafe.Toml.Table

/-!
# TOML values

A value starts with a character that tells its kind, but for numbers, dates and times, which are
told apart by how they go on. Line ends and comments may stand between the items of an array, but
not between the members of an inline table; arrays and inline tables may be nested 79 deep. A date
or time is an object with one member of a name of its own.

## Main definitions

* `value` — a value nested at most so deep, and what follows it.
-/

namespace RetrySafe.Toml

/-- A value read from the start of a text. -/
abbrev ValueReader := List Char → Option (Json × List Char)

/-- The value of a date or time. -/
def momentValue (written : List Char) : Json :=
  .obj [("$__toml_private_datetime", .str (String.ofList written))]

/-- A number, a date or a time. -/
def scalar (cs : List Char) : Option (Json × List Char) :=
  match moment cs with
  | some (written, rest) => some (momentValue written, rest)
  | none =>
    match float cs with
    | some (x, rest) => some (.number (.float x), rest)
    | none => (integer cs).map fun (n, rest) => (.int n, rest)

/-- What follows a word. -/
def word : List Char → List Char → Option (List Char)
  | [], cs => some cs
  | _ :: _, [] => none
  | c :: expected, d :: cs => if d = c then word expected cs else none

/-- The items of an array from one of them on, and what follows its closing bracket. -/
def items (item : ValueReader) : Nat → List Char → Option (List Json × List Char)
  | 0, _ => none
  | fuel + 1, cs => do
    let (v, cs) ← item cs
    match skipGaps false cs with
    | ']' :: cs => return ([v], cs)
    | ',' :: cs =>
      match skipGaps false cs with
      | ']' :: cs => return ([v], cs)
      | cs =>
        let (vs, cs) ← items item fuel cs
        return (v :: vs, cs)
    | _ => none

/-- An array after its opening bracket. -/
def array (item : ValueReader) (cs : List Char) : Option (List Json × List Char) :=
  match skipGaps false cs with
  | ']' :: cs => some ([], cs)
  | cs => items item (cs.length + 1) cs

/-- A key, an equals sign and a value. -/
def assignment (item : ValueReader) (cs : List Char) : Option (Path × Json × List Char) := do
  let (p, cs) ← path cs
  let cs ← expect '=' cs
  let (v, cs) ← item (skipSpaces cs)
  return (p, v, cs)

/-- The members of an inline table from one of them on, added to those before, and what follows the
closing brace. -/
def inlineMembers (item : ValueReader) : Nat → Entries → List Char → Option (Entries × List Char)
  | 0, _, _ => none
  | fuel + 1, entries, cs => do
    let (p, v, cs) ← assignment item cs
    let (_, entries) ← assign p v .header entries
    match skipSpaces cs with
    | '\x7d' :: cs => return (entries, cs)
    | ',' :: cs => inlineMembers item fuel entries cs
    | _ => none

/-- An inline table after its opening brace. -/
def inlineTable (item : ValueReader) (cs : List Char) : Option (Members × List Char) :=
  match skipSpaces cs with
  | '\x7d' :: cs => some ([], cs)
  | cs => do
    let (entries, cs) ← inlineMembers item (cs.length + 1) [] cs
    return (membersOf entries, cs)

/-- The value a text starts with, nested at most `depth` deep, and what follows it. -/
def value (depth : Nat) (cs : List Char) : Option (Json × List Char) :=
  match cs with
  | [] => none
  | 't' :: cs => do return (.bool true, ← word ['r', 'u', 'e'] cs)
  | 'f' :: cs => do return (.bool false, ← word ['a', 'l', 's', 'e'] cs)
  | '[' :: cs =>
    match depth with
    | 0 => none
    | depth + 1 => (array (value depth) cs).map fun (vs, rest) => (.arr vs, rest)
  | '\x7b' :: cs =>
    match depth with
    | 0 => none
    | depth + 1 => (inlineTable (value depth) cs).map fun (ms, rest) => (.obj ms, rest)
  | c :: cs =>
    if c = '"' ∨ c = '\'' then
      (text (c :: cs)).map fun (t, rest) => (.str (String.ofList t), rest)
    else scalar (c :: cs)

/-- How deep arrays and inline tables may be nested. -/
def depthLimit : Nat := 79

end RetrySafe.Toml
