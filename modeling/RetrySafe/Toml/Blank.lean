/-!
# Between the words of a TOML text

Spaces and tabs stand between the words of a line; a line ends with a line feed, with or without a
carriage return before it, or with the text, and a comment may stand before its end. A control
character other than the tab has no place in a comment.

## Main definitions

* `isShown` — a character that comments and texts may hold.
* `lineEnd?` — what follows the end of a line.
* `skipGaps` — what follows spaces, line ends and comments.
-/

namespace RetrySafe.Toml

/-- A space between words. -/
def isSpace (c : Char) : Bool := c = ' ' || c = '\t'

/-- What follows the spaces. -/
def skipSpaces (cs : List Char) : List Char := cs.dropWhile isSpace

/-- A character that comments and texts may hold: no control character of ASCII but the tab. -/
def isShown (c : Char) : Bool := c = '\t' || (0x20 ≤ c.toNat && c.toNat ≠ 0x7F)

/-- What follows a line feed. -/
def newline? : List Char → Option (List Char)
  | '\n' :: cs => some cs
  | '\r' :: '\n' :: cs => some cs
  | _ => none

/-- What follows a comment, if there is one. -/
def skipComment : List Char → List Char
  | '#' :: cs => cs.dropWhile isShown
  | cs => cs

/-- What follows the end of a line, if nothing but spaces and a comment stand before it. -/
def lineEnd? (cs : List Char) : Option (List Char) :=
  match skipComment (skipSpaces cs) with
  | [] => some []
  | cs => newline? cs

/-- What follows spaces, line ends and comments. -/
def skipGaps (inComment : Bool) : List Char → List Char
  | [] => []
  | '\n' :: cs => skipGaps false cs
  | '\r' :: '\n' :: cs => skipGaps false cs
  | c :: cs =>
    if inComment then if isShown c then skipGaps true cs else c :: cs
    else if isSpace c then skipGaps false cs
    else if c = '#' then skipGaps true cs
    else c :: cs

end RetrySafe.Toml
