import RetrySafe.Session.Error

/-!
# The first page of a database file

A file of at most one byte is a database that nothing has been put into yet. Any other has to start
with a header of a hundred bytes that fits the file, followed by a page that holds a table. What
lies beyond the end of a file reads as zero.

## Main definitions

* `Header.check` — whether the bytes of a file are those of an empty database.
* `Header.isUsable` — whether tables can be put into it.
-/

namespace RetrySafe.Session.Header

/-- The byte at a place. -/
def byte (content : List UInt8) (place : Nat) : Nat := (content.getD place 0).toNat

/-- The number in two bytes from a place, the high one first. -/
def half (content : List UInt8) (place : Nat) : Nat :=
  byte content place * 0x100 + byte content (place + 1)

/-- The number in four bytes from a place, the high ones first. -/
def word (content : List UInt8) (place : Nat) : Nat :=
  half content place * 0x10000 + half content (place + 2)

/-- The bytes that a header starts with. -/
def magic : List UInt8 := "SQLite format 3".toUTF8.toList ++ [0]

/-- The fractions of a page that a header has to hold: a cell takes at most 64 of 255 parts, and at
least 32. -/
def fractions : List UInt8 := [64, 32, 32]

/-- The size of a page. -/
def pageSize (content : List UInt8) : Nat :=
  byte content 16 * 0x100 + byte content 17 * 0x10000

/-- The sizes that a page may have. -/
def pageSizes : List Nat := [0x200, 0x400, 0x800, 0x1000, 0x2000, 0x4000, 0x8000, 0x10000]

/-- The bytes of a page that hold something. -/
def usable (content : List UInt8) : Nat := pageSize content - byte content 20

/-- The pages of a file as its header counts them. The count holds only if it was made by the last
change. -/
def countedPages (content : List UInt8) : Nat :=
  if word content 24 = word content 92 then word content 28 else 0

/-- The pages of a file. -/
def pages (content : List UInt8) : Nat :=
  (content.length + pageSize content - 1) / pageSize content

/-- Whether the first page is a leaf of a table without cells. -/
def isEmptyLeaf (content : List UInt8) : Bool := byte content 100 = 13 && half content 103 = 0

/-- Where the cells of the first page start: they grow down from the end of the page. Zero stands
for the first number beyond two bytes. -/
def cellsStart (content : List UInt8) : Nat :=
  if half content 105 = 0 then 0x10000 else half content 105

/-- Whether a table can be put into the first page: its unused bytes have to be where the page says,
and no table may lie beyond the end of the file. -/
def hasRoom (content : List UInt8) : Bool :=
  let room := byte content 107 + cellsStart content
  half content 101 = 0 && 108 ≤ room && room ≤ usable content &&
    word content 52 ≤ pages content

/-- Whether the bytes of a file are those of a database that holds nothing. -/
def check (content : List UInt8) : Except OpeningFault Unit := do
  if content.length ≤ 1 then return
  if content.take 16 ≠ magic ∨ 2 < byte content 19 ∨ (content.drop 21).take 3 ≠ fractions ∨
      !pageSizes.contains (pageSize content) then
    throw .notADatabase
  if pages content < countedPages content then throw .malformed
  if usable content < 480 then throw .notADatabase
  if 4 < byte content 47 then throw .unsupportedFormat
  if !isEmptyLeaf content then throw .malformed
  if 2 < byte content 18 then throw .readOnly

/-- Whether the tables of a store can be made in a file. -/
def isUsable (content : List UInt8) : Bool := content.length ≤ 1 || hasRoom content

end RetrySafe.Session.Header
