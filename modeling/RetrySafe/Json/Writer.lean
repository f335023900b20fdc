import RetrySafe.Json.Basic

/-!
# JSON text

Compact text: no blanks, members in their order. Inside a string the quote, the backslash and the
characters below U+0020 are escaped, five of these by a letter and the others by four hexadecimal
digits; all else stands as it is.

## Main definitions

* `Json.escape` — a character inside a string.
* `Json.write` — a value as characters, `Json.text` as a string.
* `Json.byteSize` — the bytes of the text.
-/

namespace RetrySafe

namespace Json

/-- The hexadecimal digits of a code unit, in lower case. -/
def hex4 (n : Nat) : List Char :=
  List.replicate (4 - (Nat.toDigits 16 n).length) '0' ++ Nat.toDigits 16 n

/-- A character inside a string. -/
def escape (c : Char) : List Char :=
  match c with
  | '"' => ['\\', '"']
  | '\\' => ['\\', '\\']
  | '\x08' => ['\\', 'b']
  | '\x0c' => ['\\', 'f']
  | '\n' => ['\\', 'n']
  | '\r' => ['\\', 'r']
  | '\t' => ['\\', 't']
  | c => if c.toNat < 0x20 then '\\' :: 'u' :: hex4 c.toNat else [c]

/-- A string between quotes. -/
def writeString (text : String) : List Char := '"' :: (text.toList.flatMap escape ++ ['"'])

/-- A number. -/
def writeNumber : Number → List Char
  | .int n => Decimal.ofInt n
  | .float x => x.text

mutual

/-- The compact text of a value. -/
def write : Json → List Char
  | null => ['n', 'u', 'l', 'l']
  | bool b => if b then ['t', 'r', 'u', 'e'] else ['f', 'a', 'l', 's', 'e']
  | number n => writeNumber n
  | str text => writeString text
  | arr [] => ['[', ']']
  | arr (v :: vs) => '[' :: (write v ++ writeItems vs)
  | obj [] => ['\x7b', '\x7d']
  | obj ((k, v) :: ms) => '\x7b' :: (writeString k ++ ':' :: (write v ++ writeMembers ms))

/-- The items after the first, and the end of the array. -/
def writeItems : List Json → List Char
  | [] => [']']
  | v :: vs => ',' :: (write v ++ writeItems vs)

/-- The members after the first, and the end of the object. -/
def writeMembers : List (String × Json) → List Char
  | [] => ['\x7d']
  | (k, v) :: ms => ',' :: (writeString k ++ ':' :: (write v ++ writeMembers ms))

end

/-- The compact text of a value. -/
def text (v : Json) : String := String.ofList v.write

/-- The number of bytes of the text. -/
def byteSize (v : Json) : Nat := v.text.utf8ByteSize

end Json

end RetrySafe
