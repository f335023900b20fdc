/-!
# The catalog of a database

A catalog lists tables with their columns. The case of ASCII letters does not count in names.
Beside the tables that were made there are the database's own, which show the catalog and cannot
be changed; names that start like theirs are not given to others.

## Main definitions

* `TableShape`, `Catalog` — a table's name and columns, and the tables there are.
* `Catalog.find?` — the table of a name.
* `Demand` — what a statement asks of a catalog.
-/

namespace RetrySafe

/-- A name without the case of ASCII letters. -/
def foldName (name : String) : String := name.map Char.toLower

/-- A table's name, as it was made, and its columns. -/
structure TableShape where
  name : String
  columns : List String
  /-- The table is one of the database's own. -/
  isSystem : Bool := false
  deriving DecidableEq, Repr

/-- Whether a table has a name. -/
def TableShape.isNamed (shape : TableShape) (name : String) : Bool :=
  foldName shape.name = foldName name

/-- Whether a table has a column. -/
def TableShape.hasColumn (shape : TableShape) (column : String) : Bool :=
  shape.columns.any fun c => foldName c = foldName column

/-- The tables there are. -/
abbrev Catalog := List TableShape

/-- What a statement asks of a catalog: the sentence for what is missing, if something is. -/
abbrev Demand := Catalog → Option String

namespace Catalog

/-- The start of the names of the database's own tables. -/
def systemPrefix : String := "sqlite_"

/-- Whether a name is kept for the database's own tables. -/
def isReserved (name : String) : Bool := (foldName name).startsWith systemPrefix

/-- The columns of the tables that show the catalog. -/
def systemColumns : List String := ["type", "name", "tbl_name", "rootpage", "sql"]

/-- The database's own tables by their names; each has two. -/
def systemTable? (name : String) : Option TableShape :=
  match foldName name with
  | "sqlite_master" | "sqlite_schema" => some ⟨"sqlite_master", systemColumns, true⟩
  | "sqlite_temp_master" | "sqlite_temp_schema" => some ⟨"sqlite_temp_master", systemColumns, true⟩
  | _ => none

/-- The table of a name. -/
def find? (catalog : Catalog) (name : String) : Option TableShape :=
  systemTable? name <|> List.find? (·.isNamed name) catalog

/-- Whether there is a table of a name. -/
def has (catalog : Catalog) (name : String) : Bool := (catalog.find? name).isSome

/-- The sentence for a table that does not exist. -/
def noSuchTable (table : String) : String := "no such table: " ++ table

/-- The sentence for a column that does not exist. -/
def noSuchColumn (column : String) : String := "no such column: " ++ column

/-- The sentence for a name that is kept. -/
def reservedName (table : String) : String := "object name reserved for internal use: " ++ table

/-- A sentence about a place in a statement, by the bytes before it. -/
def located (message sql : String) (place : Nat) : String :=
  message ++ " in " ++ sql ++ " at offset " ++ toString place

end Catalog

namespace Demand

/-- A table that has to be there, and what is asked of it. -/
def table (name : String) (more : TableShape → Option String) : Demand := fun catalog =>
  match catalog.find? name with
  | none => some (Catalog.noSuchTable name)
  | some shape => more shape

/-- A table that has to be there and may be changed, and what is asked of it. -/
def changeable (name : String) (more : TableShape → Option String) : Demand :=
  table name fun shape =>
    if shape.isSystem then some ("table " ++ shape.name ++ " may not be modified") else more shape

/-- A table that may be dropped. -/
def droppable (name : String) : Demand :=
  table name fun shape =>
    if shape.isSystem then some ("table " ++ shape.name ++ " may not be dropped") else none

/-- The columns that rows are put into. -/
def targets (name : String) (columns : List String) (shape : TableShape) : Option String :=
  (columns.find? fun column => !shape.hasColumn column).map fun column =>
    "table " ++ name ++ " has no column named " ++ column

/-- A column that is given a value. -/
def assigned (column : String) (shape : TableShape) : Option String :=
  if shape.hasColumn column then none else some (Catalog.noSuchColumn column)

/-- A column that is read, between the texts before and after it. -/
def readAt (before column after : String) (shape : TableShape) : Option String :=
  if shape.hasColumn column then none
  else
    some (Catalog.located (Catalog.noSuchColumn column) (before ++ column ++ after)
      before.utf8ByteSize)

end Demand

end RetrySafe
