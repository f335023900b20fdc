import RetrySafe.Json.Reader
import RetrySafe.Toml.Blank

/-!
# TOML texts and keys

A text stands between quotes, basic or literal, in one line or in several. Only basic texts know
escapes. In a text of several lines a line feed right after the opening quotes does not count, a
carriage return before a line feed is dropped, and up to two quotes may stand before the closing
three. A key is a bare word or a text of one line; parts of a dotted key may have spaces around
them, and there are at most 79.

## Main definitions

* `escape` — the character of an escape.
* `basic`, `literal`, `basicLines`, `literalLines` — the four forms after their opening quotes.
* `text` — a text in any form.
* `Path`, `path` — a dotted key.
-/

namespace RetrySafe.Toml

/-! ## Escapes -/

/-- The character that some hexadecimal digits stand for. -/
def scalar? (count : Nat) (cs : List Char) : Option (Char × List Char) := do
  let digits ← (cs.take count).mapM Json.hexDigit?
  let n := digits.foldl (· * 16 + ·) 0
  if digits.length = count ∧ n.isValidChar then some (Char.ofNat n, cs.drop count) else none

/-- The character of an escape of one letter. -/
def shortEscape? : Char → Option Char
  | 'b' => some '\x08'
  | 't' => some '\t'
  | 'n' => some '\n'
  | 'f' => some '\x0c'
  | 'r' => some '\r'
  | '"' => some '"'
  | '\\' => some '\\'
  | _ => none

/-- The character of an escape, after its backslash. -/
def escape : List Char → Option (Char × List Char)
  | [] => none
  | c :: cs =>
    if c = 'u' then scalar? 4 cs
    else if c = 'U' then scalar? 8 cs
    else (shortEscape? c).map (·, cs)

theorem length_scalar? {count : Nat} {cs rest : List Char} {c : Char}
    (h : scalar? count cs = some (c, rest)) : rest.length ≤ cs.length := by
  simp only [scalar?, Option.bind_eq_bind, Option.bind_eq_some_iff] at h
  obtain ⟨digits, -, h⟩ := h
  split at h
  · cases h; simp
  · cases h

theorem length_escape {cs rest : List Char} {c : Char} (h : escape cs = some (c, rest)) :
    rest.length < cs.length := by
  cases cs with
  | nil => cases h
  | cons e cs =>
    simp only [escape] at h
    split at h
    · exact Nat.lt_succ_of_le (length_scalar? h)
    · split at h
      · exact Nat.lt_succ_of_le (length_scalar? h)
      · obtain ⟨_, -, h⟩ := Option.map_eq_some_iff.1 h
        cases h; simp

/-! ## Texts of one line -/

/-- A basic text after its opening quote. -/
def basic (cs : List Char) : Option (List Char × List Char) :=
  match cs with
  | [] => none
  | c :: cs =>
    if c = '"' then some ([], cs)
    else if c = '\\' then
      match _h : escape cs with
      | none => none
      | some (c, rest) => (basic rest).map fun (text, rest) => (c :: text, rest)
    else if isShown c then (basic cs).map fun (text, rest) => (c :: text, rest)
    else none
termination_by cs.length
decreasing_by
  · have := length_escape ‹_›
    simp only [List.length_cons]
    omega
  · simp

/-- A character of a literal text. -/
def isLiteral (c : Char) : Bool := isShown c && c ≠ '\''

/-- A literal text after its opening quote. -/
def literal (cs : List Char) : Option (List Char × List Char) :=
  match cs.dropWhile isLiteral with
  | '\'' :: rest => some (cs.takeWhile isLiteral, rest)
  | _ => none

/-! ## Texts of several lines -/

/-- Up to two quotes that stand before the closing three, given what follows three quotes. -/
def closingQuotes (quote : Char) (cs : List Char) : List Char × List Char :=
  let extra := (cs.take 2).takeWhile (· = quote)
  (extra, cs.drop extra.length)

/-- What follows spaces and line feeds. -/
def skipBreaks : List Char → List Char
  | [] => []
  | '\r' :: '\n' :: cs => skipBreaks cs
  | c :: cs => if isSpace c || c = '\n' then skipBreaks cs else c :: cs

/-- What follows a backslash at the end of a line, all spaces and line feeds after it left out. -/
def continuation? (cs : List Char) : Option (List Char) :=
  (newline? (skipSpaces cs)).map skipBreaks

theorem length_dropWhile_le {α : Type} (p : α → Bool) (l : List α) :
    (l.dropWhile p).length ≤ l.length := (List.dropWhile_sublist p).length_le

theorem length_skipBreaks_le (cs : List Char) : (skipBreaks cs).length ≤ cs.length := by
  fun_induction skipBreaks cs with
  | case1 => simp
  | case2 cs ih => simp only [List.length_cons]; omega
  | case3 c cs _ _ ih => simp only [List.length_cons]; omega
  | case4 => simp

theorem length_newline? {cs rest : List Char} (h : newline? cs = some rest) :
    rest.length < cs.length := by
  unfold newline? at h
  split at h
  · cases h; simp
  · cases h; simp only [List.length_cons]; omega
  · cases h

theorem length_continuation? {cs rest : List Char} (h : continuation? cs = some rest) :
    rest.length < cs.length := by
  obtain ⟨line, hline, h⟩ := Option.map_eq_some_iff.1 h
  have hspaces := length_dropWhile_le isSpace cs
  have hnewline := length_newline? hline
  have hrest := length_skipBreaks_le line
  simp only [skipSpaces] at hnewline
  rw [← h]
  omega

/-- A basic text of several lines after its opening quotes. -/
def basicLines (cs : List Char) : Option (List Char × List Char) :=
  match cs with
  | [] => none
  | '"' :: '"' :: '"' :: cs => some (closingQuotes '"' cs)
  | '\r' :: '\n' :: cs => (basicLines cs).map fun (text, rest) => ('\n' :: text, rest)
  | c :: cs =>
    if c = '\\' then
      match _h : continuation? cs with
      | some rest => basicLines rest
      | none =>
        match _h : escape cs with
        | none => none
        | some (c, rest) => (basicLines rest).map fun (text, rest) => (c :: text, rest)
    else if isShown c || c = '\n' then (basicLines cs).map fun (text, rest) => (c :: text, rest)
    else none
termination_by cs.length
decreasing_by
  · simp only [List.length_cons]; omega
  · have := length_continuation? ‹_›
    simp only [List.length_cons]
    omega
  · have := length_escape ‹_›
    simp only [List.length_cons]
    omega
  · simp

/-- A literal text of several lines after its opening quotes. -/
def literalLines : List Char → Option (List Char × List Char)
  | [] => none
  | '\'' :: '\'' :: '\'' :: cs => some (closingQuotes '\'' cs)
  | '\r' :: '\n' :: cs => (literalLines cs).map fun (text, rest) => ('\n' :: text, rest)
  | c :: cs =>
    if isShown c || c = '\n' then (literalLines cs).map fun (text, rest) => (c :: text, rest)
    else none

/-- What follows the line feed that a text of several lines may start with. -/
def dropNewline (cs : List Char) : List Char := (newline? cs).getD cs

/-- A text in any of the four forms. -/
def text : List Char → Option (List Char × List Char)
  | '"' :: '"' :: '"' :: cs => basicLines (dropNewline cs)
  | '"' :: cs => basic cs
  | '\'' :: '\'' :: '\'' :: cs => literalLines (dropNewline cs)
  | '\'' :: cs => literal cs
  | _ => none

/-! ## Keys -/

/-- A character of a bare key. -/
def isBare (c : Char) : Bool := c.isAlphanum || c = '-' || c = '_'

/-- A bare key. -/
def bareKey (cs : List Char) : Option (List Char × List Char) :=
  match cs.takeWhile isBare with
  | [] => none
  | name => some (name, cs.dropWhile isBare)

/-- A part of a key. -/
def key : List Char → Option (List Char × List Char)
  | '"' :: cs => basic cs
  | '\'' :: cs => literal cs
  | cs => bareKey cs

/-- A dotted key: the tables that it leads through, and its last part. -/
structure Path where
  parents : List String
  key : String
  deriving DecidableEq, Repr

/-- The keys of a path in order. -/
def Path.keys (p : Path) : List String := p.parents ++ [p.key]

/-- A dotted key of at most so many parts, and what follows it and the spaces after it. -/
def pathUpTo : Nat → List Char → Option (Path × List Char)
  | 0, _ => none
  | parts + 1, cs => do
    let (name, cs) ← key (skipSpaces cs)
    let name := String.ofList name
    match skipSpaces cs with
    | '.' :: cs =>
      let (p, cs) ← pathUpTo parts cs
      return ({ p with parents := name :: p.parents }, cs)
    | cs => return (⟨[], name⟩, cs)

/-- How many parts a dotted key may have. -/
def partLimit : Nat := 79

/-- A dotted key. -/
def path (cs : List Char) : Option (Path × List Char) := pathUpTo partLimit cs

end RetrySafe.Toml
