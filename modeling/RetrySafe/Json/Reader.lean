import RetrySafe.Json.Basic
import RetrySafe.Decimal.Digits

/-!
# Reading JSON text

A text is read from left to right, and the first problem in it is the one reported. Arrays and
objects may be nested 127 deep. A number with a point or an exponent, one that does not fit into 64
bits and a negative zero become floats: their digits are gathered in 64 bits, digits that no longer
fit count only by their place, and the result is scaled by the power of ten.

## Main definitions

* `Json.Fault` — what is wrong with a text.
* `Json.value` — the value a text starts with, and what follows it.
* `Json.read` — the value that is the whole text.
-/

namespace RetrySafe

namespace Json

/-- What is wrong with a JSON text. -/
inductive Fault
  | endInValue
  | endInList
  | endInObject
  | endInString
  | expectedValue
  | expectedIdent
  | expectedColon
  | expectedListEnd
  | expectedObjectEnd
  | keyNotString
  | trailingComma
  | trailingCharacters
  | invalidNumber
  | numberOutOfRange
  | invalidEscape
  | unpairedSurrogate
  | endOfSurrogate
  | controlCharacter
  | tooDeep
  deriving DecidableEq, Repr

/-- The sentence for a fault. -/
def Fault.message : Fault → String
  | endInValue => "EOF while parsing a value"
  | endInList => "EOF while parsing a list"
  | endInObject => "EOF while parsing an object"
  | endInString => "EOF while parsing a string"
  | expectedValue => "expected value"
  | expectedIdent => "expected ident"
  | expectedColon => "expected `:`"
  | expectedListEnd => "expected `,` or `]`"
  | expectedObjectEnd => "expected `,` or `\x7d`"
  | keyNotString => "key must be a string"
  | trailingComma => "trailing comma"
  | trailingCharacters => "trailing characters"
  | invalidNumber => "invalid number"
  | numberOutOfRange => "number out of range"
  | invalidEscape => "invalid escape"
  | unpairedSurrogate => "lone leading surrogate in hex escape"
  | endOfSurrogate => "unexpected end of hex escape"
  | controlCharacter => "control character (\\u0000-\\u001F) found while parsing a string"
  | tooDeep => "recursion limit exceeded"

/-- The blanks between tokens. -/
def isSpace (c : Char) : Bool := c = ' ' || c = '\n' || c = '\t' || c = '\r'

/-- What follows the blanks. -/
def skipSpace (cs : List Char) : List Char := cs.dropWhile isSpace

/-! ## Strings -/

/-- The value of a hexadecimal digit. -/
def hexDigit? (c : Char) : Option Nat :=
  if '0' ≤ c ∧ c ≤ '9' then some (c.toNat - 48)
  else if 'a' ≤ c ∧ c ≤ 'f' then some (c.toNat - 87)
  else if 'A' ≤ c ∧ c ≤ 'F' then some (c.toNat - 55)
  else none

/-- A code unit of four hexadecimal digits. A text that ends within four bytes has ended too early,
whatever it holds. -/
def codeUnit (cs : List Char) : Except Fault (Nat × List Char) :=
  match cs with
  | a :: b :: c :: d :: rest =>
    match hexDigit? a, hexDigit? b, hexDigit? c, hexDigit? d with
    | some a, some b, some c, some d => .ok (((a * 16 + b) * 16 + c) * 16 + d, rest)
    | _, _, _, _ => .error .invalidEscape
  | cs => .error (if (String.ofList cs).utf8ByteSize < 4 then .endInString else .invalidEscape)

/-- A code unit that closes a surrogate pair, with the escape it stands in. -/
def closingUnit (cs : List Char) : Except Fault (Nat × List Char) :=
  match cs with
  | [] => .error .endInString
  | ['\\'] => .error .endInString
  | '\\' :: 'u' :: cs => codeUnit cs
  | _ => .error .endOfSurrogate

/-- The character of an escape by code units, after its `u`. -/
def unicodeEscape (cs : List Char) : Except Fault (Char × List Char) := do
  let (n, cs) ← codeUnit cs
  if 0xDC00 ≤ n ∧ n ≤ 0xDFFF then throw .unpairedSurrogate
  if n < 0xD800 ∨ 0xDBFF < n then return (Char.ofNat n, cs)
  let (m, cs) ← closingUnit cs
  if m < 0xDC00 ∨ 0xDFFF < m then throw .unpairedSurrogate
  return (Char.ofNat ((n - 0xD800) * 1024 + (m - 0xDC00) + 0x10000), cs)

/-- The character of an escape, after its backslash. -/
def escaped (cs : List Char) : Except Fault (Char × List Char) :=
  match cs with
  | [] => .error .endInString
  | c :: cs =>
    match c with
    | '"' | '\\' | '/' => .ok (c, cs)
    | 'b' => .ok ('\x08', cs)
    | 'f' => .ok ('\x0c', cs)
    | 'n' => .ok ('\n', cs)
    | 'r' => .ok ('\r', cs)
    | 't' => .ok ('\t', cs)
    | 'u' => unicodeEscape cs
    | _ => .error .invalidEscape

/-- The rest of a string after its opening quote; `soFar` holds what was read, last character
first. -/
def stringRest : Nat → List Char → List Char → Except Fault (String × List Char)
  | fuel + 1, soFar, c :: cs =>
    if c = '"' then .ok (String.ofList soFar.reverse, cs)
    else if c = '\\' then
      match escaped cs with
      | .error fault => .error fault
      | .ok (c, cs) => stringRest fuel (c :: soFar) cs
    else if c.toNat < 0x20 then .error .controlCharacter
    else stringRest fuel (c :: soFar) cs
  | _, _, _ => .error .endInString

/-- A string after its opening quote. -/
def string (cs : List Char) : Except Fault (String × List Char) :=
  stringRest (cs.length + 1) [] cs

/-! ## Numbers -/

/-- Add digits to a significand of 64 bits until one does not fit; the digits not added are left. -/
def gather : Nat → List Char → Nat × List Char
  | n, [] => (n, [])
  | n, c :: cs =>
    let m := n * 10 + (c.toNat - 48)
    if m < 0x10000000000000000 then gather m cs else (n, c :: cs)

/-- A float, or a number too large for one. -/
def float (negative : Bool) (significand : Nat) (exponent : Int) : Except Fault Number :=
  match Decimal.Double.ofScientific? negative significand exponent with
  | some x => .ok (.float x)
  | none => .error .numberOutOfRange

/-- The exponent of a number, if there is one, and the number. An exponent beyond 31 bits makes a
number zero or too large. -/
def exponentPart (negative : Bool) (significand : Nat) (exponent : Int) (cs : List Char) :
    Except Fault (Number × List Char) :=
  let signed (down : Bool) (cs : List Char) : Except Fault (Number × List Char) :=
    match Decimal.spanDigits cs with
    | ([], []) => .error .endInValue
    | ([], _) => .error .invalidNumber
    | (digits, rest) =>
      let n := Decimal.value digits
      if 0x80000000 ≤ n then
        if significand ≠ 0 ∧ !down then .error .numberOutOfRange
        else .ok (.float (.ofMagnitude negative 0), rest)
      else do
        let exponent := if down then exponent - n else exponent + n
        return (← float negative significand exponent, rest)
  match cs with
  | '+' :: cs => signed false cs
  | '-' :: cs => signed true cs
  | cs => signed false cs

/-- The number that starts with some digits and goes on with an exponent or not at all. -/
def afterDigits (negative : Bool) (significand : Nat) (exponent : Int) (cs : List Char) :
    Except Fault (Number × List Char) :=
  match cs with
  | 'e' :: cs | 'E' :: cs => exponentPart negative significand exponent cs
  | cs => do return (← float negative significand exponent, cs)

/-- The digits after the point, at least one of them, and what follows. -/
def fractionPart (negative : Bool) (significand : Nat) (exponent : Int) (cs : List Char) :
    Except Fault (Number × List Char) :=
  match Decimal.spanDigits cs with
  | ([], []) => .error .endInValue
  | ([], _) => .error .invalidNumber
  | (digits, rest) =>
    let (n, left) := gather significand digits
    afterDigits negative n (exponent - (digits.length - left.length : Nat)) rest

/-- A whole number of 64 bits. A negative one that does not fit becomes a float. -/
def wholeNumber (negative : Bool) (n : Nat) : Number :=
  if !negative then .int n
  else if 0 < n ∧ n ≤ 0x8000000000000000 then .int (-n)
  else .float (.ofMagnitude true ((Decimal.nearest? n 1).getD 0))

/-- A number after its sign. -/
def unsignedNumber (negative : Bool) (cs : List Char) : Except Fault (Number × List Char) :=
  match Decimal.spanDigits cs with
  | ([], []) => .error .endInValue
  | ([], _) => .error .invalidNumber
  | ('0' :: _ :: _, _) => .error .invalidNumber
  | (digits, rest) =>
    let (n, left) := gather 0 digits
    match rest with
    | '.' :: rest => fractionPart negative n left.length rest
    | 'e' :: _ | 'E' :: _ => afterDigits negative n left.length rest
    | rest =>
      if left.isEmpty then .ok (wholeNumber negative n, rest)
      else afterDigits negative n left.length rest

/-! ## Values -/

/-- The rest of a word; each of its letters must stand there. -/
def word : List Char → List Char → Except Fault (List Char)
  | [], cs => .ok cs
  | _ :: _, [] => .error .endInValue
  | c :: expected, d :: cs => if d = c then word expected cs else .error .expectedIdent

/-- A value read from the start of a text. -/
abbrev ValueReader := List Char → Except Fault (Json × List Char)

/-- The items of an array from one of them on; `soFar` holds those before, the last one first. -/
def items (item : ValueReader) : Nat → List Json → List Char →
    Except Fault (List Json × List Char)
  | 0, _, _ => .error .endInList
  | fuel + 1, soFar, cs => do
    let (v, cs) ← item cs
    match skipSpace cs with
    | [] => throw .endInList
    | ']' :: cs => return ((v :: soFar).reverse, cs)
    | ',' :: cs =>
      match skipSpace cs with
      | [] => throw .endInValue
      | ']' :: _ => throw .trailingComma
      | cs => items item fuel (v :: soFar) cs
    | _ => throw .expectedListEnd

/-- An array after its opening bracket. -/
def array (item : ValueReader) (cs : List Char) : Except Fault (Json × List Char) :=
  match skipSpace cs with
  | [] => .error .endInList
  | ']' :: cs => .ok (arr [], cs)
  | cs => do
    let (vs, cs) ← items item (cs.length + 1) [] cs
    return (arr vs, cs)

/-- The members of an object from the opening quote of a key on, added to those before. -/
def members (item : ValueReader) : Nat → Members → List Char →
    Except Fault (Members × List Char)
  | 0, _, _ => .error .endInObject
  | fuel + 1, soFar, cs => do
    let (key, cs) ← string cs
    match skipSpace cs with
    | [] => throw .endInObject
    | ':' :: cs =>
      let (v, cs) ← item cs
      let soFar := soFar.set key v
      match skipSpace cs with
      | [] => throw .endInObject
      | '\x7d' :: cs => return (soFar, cs)
      | ',' :: cs =>
        match skipSpace cs with
        | [] => throw .endInValue
        | '"' :: cs => members item fuel soFar cs
        | '\x7d' :: _ => throw .trailingComma
        | _ => throw .keyNotString
      | _ => throw .expectedObjectEnd
    | _ => throw .expectedColon

/-- An object after its opening brace. -/
def object (item : ValueReader) (cs : List Char) : Except Fault (Members × List Char) :=
  match skipSpace cs with
  | [] => .error .endInObject
  | '\x7d' :: cs => .ok ([], cs)
  | '"' :: cs => members item (cs.length + 1) [] cs
  | _ => .error .keyNotString

/-- The value a text starts with, nested at most `depth` deep, and what follows it. -/
def value (depth : Nat) (cs : List Char) : Except Fault (Json × List Char) :=
  match skipSpace cs with
  | [] => .error .endInValue
  | 'n' :: cs => do return (null, ← word ['u', 'l', 'l'] cs)
  | 't' :: cs => do return (bool true, ← word ['r', 'u', 'e'] cs)
  | 'f' :: cs => do return (bool false, ← word ['a', 'l', 's', 'e'] cs)
  | '"' :: cs => do
    let (text, cs) ← string cs
    return (str text, cs)
  | '-' :: cs => do
    let (n, cs) ← unsignedNumber true cs
    return (number n, cs)
  | '[' :: cs =>
    match depth with
    | 0 => .error .tooDeep
    | depth + 1 => array (value depth) cs
  | '\x7b' :: cs =>
    match depth with
    | 0 => .error .tooDeep
    | depth + 1 => do
      let (ms, cs) ← object (value depth) cs
      return (obj ms, cs)
  | c :: cs =>
    if c.isDigit then do
      let (n, cs) ← unsignedNumber false (c :: cs)
      return (number n, cs)
    else .error .expectedValue

/-- How deep arrays and objects may be nested. -/
def depthLimit : Nat := 127

/-- Nothing but blanks follows a value. -/
def finish (cs : List Char) : Except Fault Unit :=
  if (skipSpace cs).isEmpty then .ok () else .error .trailingCharacters

/-- The value that is the whole text. -/
def read (text : String) : Except Fault Json := do
  let (v, cs) ← value depthLimit text.toList
  finish cs
  return v

end Json

end RetrySafe
