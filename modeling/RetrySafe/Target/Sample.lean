import RetrySafe.Sql.Command
import RetrySafe.Target.Database

/-!
# A small schema and its commands

Three tables of numbers to try guards on: `loads` takes any number, `counter` holds one number that
can be added to, and `uniq` takes each number once. Commands may also empty or drop a status table.

## Main definitions

* `NumberTable`, `Sample` — a table of numbers, and the tables there are.
* `Sample.statement` — the statement of a command.
* `Sample.script` — the statements of a text.
-/

namespace RetrySafe

/-- A table with one column of numbers. -/
structure NumberTable where
  name : String
  column : String
  /-- Every number stands in one row at most. -/
  isUnique : Bool := false
  rows : List Int := []
  deriving DecidableEq, Repr

namespace NumberTable

/-- With other rows, unless a number would stand in two of them where that may not be. -/
def withRows (table : NumberTable) (rows : List Int) : Except String NumberTable :=
  if table.isUnique ∧ ¬rows.Nodup then
    .error ("UNIQUE constraint failed: " ++ table.name ++ "." ++ table.column)
  else .ok { table with rows }

end NumberTable

/-- The tables of numbers there are. -/
structure Sample where
  tables : List NumberTable :=
    [⟨"loads", "n", false, []⟩, ⟨"counter", "n", false, [0]⟩, ⟨"uniq", "k", true, []⟩]
  deriving DecidableEq, Repr

namespace Sample

instance : HasTables Sample where
  shapes sample := sample.tables.map fun t => ⟨t.name, [t.column], false⟩

/-- The table of a name. -/
def find? (sample : Sample) (name : String) : Option NumberTable :=
  sample.tables.find? fun t => Content.isSame t.name name

/-- The numbers in a table. -/
def rows (sample : Sample) (name : String) : List Int := ((sample.find? name).map (·.rows)).getD []

/-- With another table in place of that of its name. -/
def withTable (sample : Sample) (table : NumberTable) : Sample :=
  { sample with tables := sample.tables.map fun t => if t.name = table.name then table else t }

/-- Without a table. -/
def withoutTable (sample : Sample) (name : String) : Sample :=
  { sample with tables := sample.tables.filter fun t => !Content.isSame t.name name }

/-- Change the numbers in a table. A status table takes no numbers. -/
def changeRows (content : Content Sample) (name : String) (change : List Int → List Int)
    (count : List Int → Nat) : Except String (Content Sample × Nat) :=
  match content.data.find? name with
  | some table => do
    let changed ← table.withRows (change table.rows)
    return ({ content with data := content.data.withTable changed }, count table.rows)
  | none => .error "datatype mismatch"

/-- Delete all rows of a table. -/
def deleteAll (content : Content Sample) (name : String) : Except String (Content Sample × Nat) :=
  match content.rows? name with
  | some rows => .ok (content.withRows name [], rows.length)
  | none => changeRows content name (fun _ => []) List.length

/-- Drop a table. -/
def drop (content : Content Sample) (name : String) : Content Sample :=
  { content.withoutTable name with data := content.data.withoutTable name }

/-- The first of some columns that a table does not have, as a complaint about its place. -/
def reads (sql : String) (columns : List Sql.Name) (shape : TableShape) : Option String :=
  (columns.find? fun column => !shape.hasColumn column.text).map fun column =>
    Catalog.located (Catalog.noSuchColumn column.text) sql column.start

/-- The statement of a command in a text. -/
def statement (sql : String) : Sql.Command → Statement Sample
  | .insert table column value =>
    { demand := Demand.changeable table.text fun shape =>
        Demand.targets table.text [column.text] shape <|> reads sql value.columns ⟨"", [], false⟩
      run := fun content =>
        .ofExcept (changeRows content table.text (fun rows => rows ++ [value.eval 0]) fun _ => 1) }
  | .update table column value =>
    { demand := Demand.changeable table.text fun shape =>
        reads sql value.columns shape <|> Demand.assigned column.text shape
      run := fun content =>
        .ofExcept (changeRows content table.text (·.map fun n => value.eval n) List.length) }
  | .delete table =>
    { demand := Demand.changeable table.text fun _ => none
      run := fun content => .ofExcept (deleteAll content table.text) }
  | .drop table =>
    { demand := Demand.droppable table.text
      run := fun content => .done (drop content table.text) 0 }
  | .select column table =>
    { demand := Demand.table table.text (reads sql [column])
      writes := false
      run := fun content =>
        let statusRows := (content.rows? table.text).getD []
        if content.data.rows table.text = [] ∧ statusRows = [] then .done content 0
        else .abort "Execute returned results - did you mean to call query?" }

/-- The statements of a text. -/
def script (text : String) : Script Sample :=
  (Sql.commands text).map fun (sql, command) =>
    match command with
    | .ok command => .ok (statement sql command)
    | .error fault => .error (fault.message sql)

end Sample

end RetrySafe
