import RetrySafe.Text.Alphanumeric

/-!
# Patterns for field values

A filter may ask for fields whose values match a pattern, a regular expression. Only whether a text
is one is decided here: its groups and classes have to be closed, its repetitions need something to
repeat, and its escapes have to be known. A closing brace never stands in a pattern, because it ends
the fields, so that whatever needs one is refused.

## Main definitions

* `Pattern.Flaw` — why a text is no usable pattern.
* `Pattern.check` — look for the first flaw.
-/

namespace RetrySafe.Logging.Pattern

/-- Why a text is no usable pattern. -/
inductive Flaw
  /-- The text is no regular expression. -/
  | malformed
  /-- The expression asks for the edges of words, which depend on what stands around them. -/
  | wordEdge
  deriving DecidableEq, Repr

/-- Characters with a meaning of their own, which an escape takes away. -/
def isMeta (c : Char) : Bool :=
  ['\\', '.', '+', '*', '?', '(', ')', '|', '[', ']', '\x7b', '\x7d', '^', '$', '#', '&', '-',
    '~'].contains c

/-- What an escape stands for. -/
inductive Escape
  /-- One character. -/
  | letter (c : Char)
  /-- A class of characters. -/
  | group
  /-- A place between two characters. -/
  | place
  /-- The edge of a word. -/
  | edge

/-- A hexadecimal digit. -/
def isHex (c : Char) : Bool :=
  c.isDigit || ('a' ≤ c && c ≤ 'f') || ('A' ≤ c && c ≤ 'F')

/-- The value of a hexadecimal digit. -/
def hexValue (c : Char) : Nat :=
  if c.isDigit then c.toNat - '0'.toNat else c.toLower.toNat - 'a'.toNat + 10

/-- A code point of so many hexadecimal digits. -/
def hexEscape (count : Nat) (cs : List Char) : Option (Escape × List Char) :=
  let digits := cs.take count
  let n := digits.foldl (fun n c => n * 16 + hexValue c) 0
  if digits.length = count ∧ digits.all isHex ∧ n.isValidChar then
    some (.letter (Char.ofNat n), cs.drop count)
  else none

/-- The escape after a backslash, and what follows it. -/
def escape? : List Char → Option (Escape × List Char)
  | [] => none
  | 'x' :: cs => hexEscape 2 cs
  | 'u' :: cs => hexEscape 4 cs
  | 'U' :: cs => hexEscape 8 cs
  | c :: cs =>
    if c = 'p' ∨ c = 'P' then
      match cs with
      | name :: cs =>
        if ['c', 'l', 'm', 'n', 'p', 's', 'z'].contains name.toLower then some (.group, cs)
        else none
      | [] => none
    else if ['d', 's', 'w', 'D', 'S', 'W'].contains c then some (.group, cs)
    else if ['a', 'f', 't', 'n', 'r', 'v'].contains c then some (.letter c, cs)
    else if c = 'A' ∨ c = 'z' then some (.place, cs)
    else if ['b', 'B', '<', '>'].contains c then
      if c = 'b' ∧ cs.head? = some '\x7b' then none else some (.edge, cs)
    else if isMeta c ∨ (c.toNat < 0x80 ∧ !c.isAlphanum) then some (.letter c, cs)
    else none

/-- What may start or end a range in a class. -/
inductive Item
  | letter (c : Char)
  | group

/-- The next item of a class. -/
def item? : List Char → Option (Item × List Char)
  | [] => none
  | '\\' :: cs =>
    match escape? cs with
    | some (.letter c, rest) => some (.letter c, rest)
    | some (.group, rest) => some (.group, rest)
    | _ => none
  | c :: cs => some (.letter c, cs)

/-- The names of classes of ASCII characters. -/
def asciiNames : List String :=
  ["alnum", "alpha", "ascii", "blank", "cntrl", "digit", "graph", "lower", "print", "punct",
    "space", "upper", "word", "xdigit"]

/-- What follows the name of a class of ASCII characters between colons and brackets, its opening
bracket read. -/
def asciiClass? : List Char → Option (List Char)
  | ':' :: cs =>
    let cs := if cs.head? = some '^' then cs.tail else cs
    match cs.span (· ≠ ':') with
    | (name, ':' :: ']' :: rest) =>
      if asciiNames.contains (String.ofList name) then some rest else none
    | _ => none
  | _ => none

/-- What follows the start of a class: a caret, hyphens, and a bracket that stands for itself. -/
def afterOpening (cs : List Char) : List Char :=
  let cs := if cs.head? = some '^' then cs.tail else cs
  let rest := cs.dropWhile (· = '-')
  if rest.length = cs.length ∧ rest.head? = some ']' then rest.tail else rest

/-- What follows the end of a class, with so many classes open. -/
def afterClass : Nat → Nat → List Char → Option (List Char)
  | 0, _, _ => none
  | _, _, [] => none
  | fuel + 1, depth, ']' :: cs =>
    if depth = 1 then some cs else afterClass fuel (depth - 1) cs
  | fuel + 1, depth, '[' :: cs =>
    match asciiClass? cs with
    | some rest => afterClass fuel depth rest
    | none => afterClass fuel (depth + 1) (afterOpening cs)
  | fuel + 1, depth, '&' :: '&' :: cs => afterClass fuel depth cs
  | fuel + 1, depth, '-' :: '-' :: cs => afterClass fuel depth cs
  | fuel + 1, depth, '~' :: '~' :: cs => afterClass fuel depth cs
  | fuel + 1, depth, cs =>
    match item? cs with
    | none => none
    | some (first, '-' :: rest) =>
      if rest.head? = some ']' ∨ rest.head? = some '-' then afterClass fuel depth ('-' :: rest)
      else
        match first, item? rest with
        | .letter a, some (.letter b, rest) =>
          if a ≤ b then afterClass fuel depth rest else none
        | _, _ => none
    | some (_, rest) => afterClass fuel depth rest

/-- The flags after a question mark up to a colon or a parenthesis: whether there are any, which of
the two ends them, and what follows. -/
def flags? (seen : List Char) : List Char → Option (Bool × Char × List Char)
  | [] => none
  | c :: cs =>
    if c = ':' ∨ c = ')' then
      if seen.head? = some '-' then none else some (!seen.isEmpty, c, cs)
    else if ['-', 'i', 'm', 's', 'U', 'u', 'R', 'x'].contains c ∧ !seen.contains c then
      flags? (c :: seen) cs
    else none

/-- What follows the name of a group. -/
def afterName? (cs : List Char) : Option (List Char) :=
  match cs.span (· ≠ '>') with
  | (c :: name, '>' :: rest) =>
    let isInner (c : Char) := ['_', '.', '[', ']'].contains c || Text.isAlphanumeric c
    if (c = '_' ∨ (Text.isAlphanumeric c ∧ !c.isDigit)) ∧ name.all isInner then some rest else none
  | _ => none

/-- Look for the first flaw, with so many groups open and with or without something that could be
repeated. -/
def scan : Nat → Nat → Bool → Bool → List Char → Except Flaw Unit
  | 0, _, _, _, _ => .error .malformed
  | _, depth, _, edge, [] =>
    if depth ≠ 0 then .error .malformed else if edge then .error .wordEdge else .ok ()
  | fuel + 1, depth, repeatable, edge, c :: cs =>
    match c with
    | '(' =>
      match cs with
      | '?' :: 'P' :: '<' :: rest | '?' :: '<' :: rest =>
        if rest.head? = some '=' ∨ rest.head? = some '!' then .error .malformed
        else
          match afterName? rest with
          | some rest => scan fuel (depth + 1) false edge rest
          | none => .error .malformed
      | '?' :: rest =>
        match flags? [] rest with
        | some (_, ':', rest) => scan fuel (depth + 1) false edge rest
        | some (true, _, rest) => scan fuel depth false edge rest
        | _ => .error .malformed
      | cs => scan fuel (depth + 1) false edge cs
    | ')' => if depth = 0 then .error .malformed else scan fuel (depth - 1) true edge cs
    | '|' => scan fuel depth false edge cs
    | '[' =>
      match afterClass (cs.length + 1) 1 (afterOpening cs) with
      | some rest => scan fuel depth true edge rest
      | none => .error .malformed
    | '*' | '+' | '?' =>
      if repeatable then scan fuel depth true edge (if cs.head? = some '?' then cs.tail else cs)
      else .error .malformed
    | '\x7b' => .error .malformed
    | '\\' =>
      match escape? cs with
      | some (.edge, rest) => scan fuel depth true true rest
      | some (_, rest) => scan fuel depth true edge rest
      | none => .error .malformed
    | _ => scan fuel depth true edge cs

/-- Look for the first flaw of a text. -/
def check (cs : List Char) : Except Flaw Unit := scan (cs.length + 1) 0 false false cs

end RetrySafe.Logging.Pattern
