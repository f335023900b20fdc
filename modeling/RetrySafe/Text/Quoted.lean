import RetrySafe.Text.Blank
import RetrySafe.Text.Hidden

/-!
# Quoted texts

A text between double quotes as it stands in a message: quotes, backslashes and the common control
characters have short escapes, and every other character that is not shown is written by its code
point.

## Main definitions

* `isShown` — the character is written as it is.
* `quoted` — the text between quotes.
-/

namespace RetrySafe.Text

/-- Whether a character that has no short escape is written as it is. -/
def isShown (c : Char) : Bool :=
  if c.toNat < 0x80 then 0x20 ≤ c.toNat && c.toNat ≠ 0x7F else !inRanges hiddenRanges c.toNat

/-- A character inside double quotes. -/
def quotedChar (c : Char) : List Char :=
  match c with
  | '"' => ['\\', '"']
  | '\\' => ['\\', '\\']
  | '\n' => ['\\', 'n']
  | '\r' => ['\\', 'r']
  | '\t' => ['\\', 't']
  | '\x00' => ['\\', '0']
  | c =>
    if isShown c then [c]
    else ['\\', 'u', '\x7b'] ++ Nat.toDigits 16 c.toNat ++ ['\x7d']

/-- The text between double quotes. -/
def quoted (text : String) : String :=
  String.ofList ('"' :: (text.toList.flatMap quotedChar ++ ['"']))

end RetrySafe.Text
