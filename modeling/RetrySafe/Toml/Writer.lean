import RetrySafe.Json.Basic
import RetrySafe.Json.Reader

/-!
# Writing TOML

A document is a list of named tables, an empty line between each two. A text is written in the
first of these forms that fits it: basic, literal, basic in several lines, literal in several lines;
where none of them holds it as it is, it is a basic text with escapes. A basic text never holds a
raw tab, and forms of several lines start with a line feed if the text has one. An array of two or
more items has a line for each.

## Main definitions

* `Style`, `Style.of` — the form of a text.
* `textForm` — a text in its form.
* `document?` — the text of some tables; there is none where an integer needs more than 64 bits.
-/

namespace RetrySafe.Toml

/-! ## Texts -/

/-- A control character that only an escape can stand for. -/
def isHidden (c : Char) : Bool :=
  (c.toNat < 0x20 && c ≠ '\t' && c ≠ '\n') || c.toNat = 0x7F

/-- Whether a run of characters stands somewhere in a text. -/
def holds (run : List Char) : List Char → Bool
  | [] => run.isEmpty
  | c :: cs => run.isPrefixOf (c :: cs) || holds run cs

/-- The form of a text. -/
inductive Style
  | basic
  | literal
  | basicLines
  | literalLines
  deriving DecidableEq, Repr

/-- The form that a text is written in. -/
def Style.of (cs : List Char) : Style :=
  let plain := !cs.any isHidden
  let unescaped := plain && !cs.contains '\\'
  let several := cs.contains '\n'
  if unescaped ∧ !cs.contains '"' ∧ !several then .basic
  else if plain ∧ !cs.contains '\'' ∧ !several then .literal
  else if unescaped ∧ !holds ['"', '"', '"'] cs then .basicLines
  else if plain ∧ !holds ['\'', '\'', '\''] cs then .literalLines
  else if several then .basicLines
  else .basic

/-- A hexadecimal digit in upper case. -/
def upperHex (n : Nat) : Char := (Nat.digitChar n).toUpper

/-- A character other than a quote in a basic text. A line feed is kept in a text of several
lines. -/
def basicChar (several : Bool) (c : Char) : List Char :=
  match c with
  | '\x08' => ['\\', 'b']
  | '\t' => ['\\', 't']
  | '\n' => if several then ['\n'] else ['\\', 'n']
  | '\x0c' => ['\\', 'f']
  | '\r' => ['\\', 'r']
  | '\\' => ['\\', '\\']
  | c =>
    if isHidden c then ['\\', 'u', '0', '0', upperHex (c.toNat / 16), upperHex (c.toNat % 16)]
    else [c]

/-- The inside of a basic text. In a text of several lines up to two quotes in a row are kept;
`quotes` counts those before. -/
def basicForm (several : Bool) (quotes : Nat) : List Char → List Char
  | [] => []
  | c :: cs =>
    if c = '"' then
      if several ∧ quotes < 2 then '"' :: basicForm several (quotes + 1) cs
      else '\\' :: '"' :: basicForm several 0 cs
    else basicChar several c ++ basicForm several 0 cs

/-- A text in a form. -/
def Style.form (style : Style) (cs : List Char) : List Char :=
  let opening := if cs.contains '\n' then ['\n'] else []
  match style with
  | .basic => '"' :: (basicForm false 0 cs ++ ['"'])
  | .literal => '\'' :: (cs ++ ['\''])
  | .basicLines => '"' :: '"' :: '"' :: (opening ++ basicForm true 0 cs ++ ['"', '"', '"'])
  | .literalLines => '\'' :: '\'' :: '\'' :: (opening ++ cs ++ ['\'', '\'', '\''])

/-- A text in its form. -/
def textForm (text : String) : List Char := (Style.of text.toList).form text.toList

/-! ## Values and tables -/

/-- A truth value, an integer of 64 bits or a text. -/
def scalarForm? : Json → Option (List Char)
  | .bool b => some (if b then "true" else "false").toList
  | .number (.int n) =>
    if -0x8000000000000000 ≤ n ∧ n < 0x8000000000000000 then some (Decimal.ofInt n) else none
  | .str text => some (textForm text)
  | _ => none

/-- The items of an array of several lines. -/
def itemLines (items : List (List Char)) : List Char :=
  items.flatMap fun item => [' ', ' ', ' ', ' '] ++ item ++ [',', '\n']

/-- A scalar, or an array of scalars. -/
def valueForm? : Json → Option (List Char)
  | .arr items => do
    match ← items.mapM scalarForm? with
    | [] => some ['[', ']']
    | [item] => some ('[' :: (item ++ [']']))
    | items => some ('[' :: '\n' :: (itemLines items ++ [']']))
  | v => scalarForm? v

/-- The line of a member; none for a member that is null. -/
def memberLine? : String × Json → Option (List Char)
  | (_, .null) => some []
  | (key, v) => do return key.toList ++ " = ".toList ++ (← valueForm? v) ++ ['\n']

/-- A table of bare keys with its header. -/
def table? (name : String) (members : Members) : Option (List Char) := do
  return '[' :: (name.toList ++ [']', '\n'] ++ (← members.mapM memberLine?).flatten)

/-- The text of some tables. -/
def document? (tables : List (String × Members)) : Option String := do
  let texts ← tables.mapM fun table => table? table.1 table.2
  return String.ofList (['\n'].intercalate texts)

end RetrySafe.Toml
