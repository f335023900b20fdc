import RetrySafe.Decimal.Digits
import RetrySafe.Json.Reader

/-!
# SQL tokens

A text of SQL is cut into words, quoted names, literals and marks. Blanks and comments stand between
them, and a zero character ends the text. A character beyond ASCII belongs to a word.

## Main definitions

* `Sql.Token` — a token as it is written, its place in bytes, and what follows it.
* `Sql.next?` — the token that a text goes on with.
-/

namespace RetrySafe.Sql

/-- What a token is. -/
inductive Kind
  /-- A name or a keyword without quotes. -/
  | word
  /-- A name in quotes. -/
  | name (text : String)
  | integer (n : Nat)
  /-- Another literal, or a parameter. -/
  | literal
  | mark
  /-- What is no token. -/
  | illegal
  deriving DecidableEq, Repr

/-- A token as it is written, the number of bytes before it, and what follows it. -/
structure Token where
  kind : Kind
  text : String
  start : Nat
  rest : List Char

/-- The place behind a token. -/
def Token.finish (token : Token) : Nat := token.start + token.text.utf8ByteSize

/-- The number of bytes of some characters. -/
def bytes (cs : List Char) : Nat := (String.ofList cs).utf8ByteSize

/-! ## Between tokens -/

/-- A character that blanks go on with. -/
def isBlank (c : Char) : Bool := c = ' ' || ('\t' ≤ c && c ≤ '\x0d')

/-- A character that blanks start with. -/
def startsBlank (c : Char) : Bool := (isBlank c && c ≠ '\x0b') || c = '\uFEFF'

/-- The text of a comment of more lines, after its start, and what follows. It may be open. -/
def comment : List Char → List Char × List Char
  | '*' :: '/' :: rest => (['*', '/'], rest)
  | '\x00' :: rest => ([], '\x00' :: rest)
  | c :: rest => (c :: (comment rest).1, (comment rest).2)
  | [] => ([], [])

/-- The blank or the comment that a text starts with, and what follows. -/
def gap? (cs : List Char) : Option (List Char × List Char) :=
  match cs with
  | '-' :: '-' :: rest => some (cs.take 2 ++ (rest.span fun c => c ≠ '\n' ∧ c ≠ '\x00').1,
      (rest.span fun c => c ≠ '\n' ∧ c ≠ '\x00').2)
  | '/' :: '*' :: c :: rest =>
    if c = '\x00' then none
    else some (cs.take 2 ++ (comment (c :: rest)).1, (comment (c :: rest)).2)
  | c :: rest =>
    if startsBlank c then some (c :: (rest.span isBlank).1, (rest.span isBlank).2) else none
  | [] => none

/-- What follows the blanks and comments at a place, at most so many of them. -/
def skip : Nat → Nat → List Char → Nat × List Char
  | 0, place, cs => (place, cs)
  | fuel + 1, place, cs =>
    match gap? cs with
    | some (gap, rest) => skip fuel (place + bytes gap) rest
    | none => (place, cs)

/-! ## Tokens -/

/-- A character of a word. -/
def isWordPart (c : Char) : Bool := c.isAlphanum || c = '_' || c = '$' || 0x80 ≤ c.toNat

/-- A character that a word starts with. -/
def startsWord (c : Char) : Bool := isWordPart c && !c.isDigit && c ≠ '$'

/-- What is in quotes, after the first one, and how it is written. A quote in it is written
twice. -/
def quoted? (quote : Char) : List Char → Option (List Char × List Char × List Char)
  | [] => none
  | '\x00' :: _ => none
  | [c] => if c = quote then some ([], [c], []) else none
  | c :: d :: rest =>
    if c = quote then
      if d = quote then
        (quoted? quote rest).map fun (inner, written, rest) => (c :: inner, c :: d :: written, rest)
      else some ([], [c], d :: rest)
    else
      (quoted? quote (d :: rest)).map fun (inner, written, rest) => (c :: inner, c :: written, rest)

/-- An exponent with its letter, if there is a digit in it. -/
def exponent (cs : List Char) : List Char × List Char :=
  match cs with
  | e :: s :: rest =>
    if e = 'e' ∨ e = 'E' then
      if s.isDigit then
        (e :: (Decimal.spanDigits (s :: rest)).1, (Decimal.spanDigits (s :: rest)).2)
      else if (s = '+' ∨ s = '-') ∧ (rest.headD ' ').isDigit then
        (e :: s :: (Decimal.spanDigits rest).1, (Decimal.spanDigits rest).2)
      else ([], cs)
    else ([], cs)
  | cs => ([], cs)

/-- A point and the digits after it, if there is a point. -/
def fraction (cs : List Char) : List Char × List Char :=
  match cs with
  | '.' :: rest => ('.' :: (Decimal.spanDigits rest).1, (Decimal.spanDigits rest).2)
  | cs => ([], cs)

/-- Whether a character is a hexadecimal digit. -/
def isHex (c : Char) : Bool := (Json.hexDigit? c).isSome

/-- Digits, single underscores between them, and what follows. -/
def digits : List Char → List Char × List Char
  | '_' :: d :: rest =>
    if d.isDigit then ('_' :: (digits (d :: rest)).1, (digits (d :: rest)).2)
    else ([], '_' :: d :: rest)
  | c :: rest =>
    if c.isDigit then (c :: (digits rest).1, (digits rest).2) else ([], c :: rest)
  | [] => ([], [])

/-- A number, how it is written, and what follows. -/
def number (cs : List Char) : Kind × List Char × List Char :=
  match cs with
  | '0' :: x :: d :: rest =>
    if (x = 'x' ∨ x = 'X') ∧ isHex d then
      let digits := (d :: rest).takeWhile isHex
      let n := digits.foldl (fun n c => n * 16 + (Json.hexDigit? c).getD 0) 0
      (.integer n, '0' :: x :: digits, (d :: rest).dropWhile isHex)
    else decimal cs
  | cs => decimal cs
where
  /-- A decimal number. -/
  decimal (cs : List Char) : Kind × List Char × List Char :=
    let (whole, cs) := digits cs
    let (places, cs) := fraction cs
    let (power, cs) := exponent cs
    let n := Decimal.value (whole.filter (· ≠ '_'))
    (if places ++ power = [] then .integer n else .literal, whole ++ places ++ power, cs)

/-- A number is illegal if a word follows it at once. -/
def numeral (cs : List Char) : Kind × List Char × List Char :=
  let (kind, written, rest) := number cs
  match rest.span isWordPart with
  | ([], _) => (kind, written, rest)
  | (word, rest) => (.illegal, written ++ word, rest)

/-- The marks of more than one character, the longest first. -/
def longMarks : List String := ["->>", "->", "==", "<=", "<>", "<<", ">=", ">>", "!=", "||"]

/-- The marks of one character. -/
def shortMarks : List Char := "-()+*/%=<>;,&~|.".toList

/-- A mark, or a character that is no token. -/
def mark (c : Char) (cs : List Char) : Kind × List Char × List Char :=
  match longMarks.find? fun m => m.toList.isPrefixOf (c :: cs) with
  | some m => (.mark, m.toList, (c :: cs).drop m.length)
  | none => (if shortMarks.contains c then .mark else .illegal, [c], cs)

/-- A parameter, after the sign it starts with. A name has to follow some of them. -/
def parameter (c : Char) (cs : List Char) : Kind × List Char × List Char :=
  if c = '?' then (.literal, c :: (Decimal.spanDigits cs).1, (Decimal.spanDigits cs).2)
  else
    match cs.span isWordPart with
    | ([], rest) => (.illegal, [c], rest)
    | (name, rest) => (.literal, c :: name, rest)

/-- What is in quotes: a name or a text. Without the second quote, all that follows is no token. -/
def quotation (c : Char) (cs : List Char) : Kind × List Char × List Char :=
  match quoted? (if c = '[' then ']' else c) cs with
  | some (inner, written, rest) => (.name (String.ofList inner), c :: written, rest)
  | none => (.illegal, c :: cs.takeWhile (· ≠ '\x00'), cs.dropWhile (· ≠ '\x00'))

/-- Bytes in quotes after a letter: pairs of hexadecimal digits. -/
def binary (c : Char) (cs : List Char) : Kind × List Char × List Char :=
  let (pairs, rest) := (cs.drop 1).span isHex
  let (junk, rest) := rest.span fun c => c ≠ '\'' ∧ c ≠ '\x00'
  let isWhole := rest.head? = some '\'' && junk.isEmpty && pairs.length % 2 = 0
  (if isWhole then .literal else .illegal,
    c :: cs.take 1 ++ pairs ++ junk ++ (rest.takeWhile (· = '\'')).take 1,
    if rest.head? = some '\'' then rest.drop 1 else rest)

/-- The kind of the token that starts with a character, how it is written, and what follows. -/
def scan (c : Char) (cs : List Char) : Kind × List Char × List Char :=
  if (c = 'x' ∨ c = 'X') ∧ cs.head? = some '\'' then binary c cs
  else if c.isDigit ∨ (c = '.' ∧ (cs.headD ' ').isDigit) then numeral (c :: cs)
  else if startsWord c then (.word, c :: (cs.span isWordPart).1, (cs.span isWordPart).2)
  else if ['"', '\'', '`', '['].contains c then quotation c cs
  else if ['?', '$', '@', '#', ':'].contains c then parameter c cs
  else mark c cs

/-- The token that a text goes on with at a place. -/
def next? (place : Nat) (cs : List Char) : Option Token :=
  match skip (cs.length + 1) place cs with
  | (_, []) => none
  | (start, c :: cs) =>
    if c = '\x00' then none
    else
      let (kind, written, rest) := scan c cs
      some ⟨kind, String.ofList written, start, rest⟩

end RetrySafe.Sql
