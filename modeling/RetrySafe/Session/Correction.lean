import RetrySafe.Session.Store

/-!
# Correcting single columns

A column of a stored row can be overwritten with a text, a number or nothing. What is put into a
column of texts becomes a text, and a text that is a number becomes a number in a column of numbers.
Otherwise the value is not looked at, so rows can be made that cannot be read; but a correction
after which the tables are not sound is not made.

## Main definitions

* `Store.correct` — overwrite a column.
-/

namespace RetrySafe.Session

/-- What a column of texts makes of a value. -/
def Cell.inTexts : Cell → String
  | whole n => intText n
  | real _ => ""
  | text t => t

/-- What a column of numbers makes of a value. -/
def Cell.inNumbers : Cell → Cell
  | text t => ofText t
  | cell => cell

/-- What a column of whole numbers makes of a value: nothing of any other. -/
def Cell.inIds (cell : Cell) : Option Int :=
  match cell.inNumbers with
  | whole n => some n
  | _ => none

/-- A row of the projects with another value in a column, if the column takes it. -/
def ProjectRow.correct? (row : ProjectRow) (column : String) (value : Option Cell) :
    Option ProjectRow :=
  match column with
  | "id" => do return { row with id := ← (← value).inIds }
  | "site_id" => do return { row with site := (← value).inNumbers }
  | "name" => do return { row with name := (← value).inTexts }
  | "created_at" => do return { row with created := (← value).inTexts }
  | "deleted_at" => some { row with deleted := value.map (·.inTexts) }
  | _ => none

/-- A row of the sessions with another value in a column, if the column takes it. -/
def SessionRow.correct? (row : SessionRow) (column : String) (value : Option Cell) :
    Option SessionRow :=
  match column with
  | "id" => do return { row with id := ← (← value).inIds }
  | "project_id" => do return { row with project := ← (← value).inIds }
  | "workflow_name" => do return { row with workflow := (← value).inTexts }
  | "session_time" => do return { row with time := (← value).inNumbers }
  | "last_attempt_id" => some { row with lastAttempt := value.map (·.inNumbers) }
  | "created_at" => do return { row with created := (← value).inTexts }
  | _ => none

/-- A row of the attempts with another value in a column, if the column takes it. -/
def AttemptRow.correct? (row : AttemptRow) (column : String) (value : Option Cell) :
    Option AttemptRow :=
  match column with
  | "id" => do return { row with id := ← (← value).inIds }
  | "session_id" => do return { row with session := ← (← value).inIds }
  | "site_id" => do return { row with site := (← value).inNumbers }
  | "project_id" => do return { row with project := ← (← value).inIds }
  | "attempt_name" => some { row with retryName := value.map (·.inTexts) }
  | "workflow_definition_id" => do return { row with definition := (← value).inNumbers }
  | "params" => do return { row with params := (← value).inTexts }
  | "timezone" => do return { row with timeZone := (← value).inTexts }
  | "dependent_session_id" => some { row with dependent := value.map (·.inNumbers) }
  | "created_at" => do return { row with created := (← value).inTexts }
  | "finished_at" => some { row with finished := value.map (·.inTexts) }
  | "success" => some { row with success := value.map (·.inNumbers) }
  | _ => none

/-- The tables with another value in a column of the row of an id, if the column takes it. -/
def Tables.correct? (tables : Tables) (table : String) (id : Int) (column : String)
    (value : Option Cell) : Option Tables :=
  match table with
  | "projects" => do
    let projects ← tables.projects.mapM fun row =>
      if row.id = id then row.correct? column value else some row
    return { tables with projects }
  | "sessions" => do
    let sessions ← tables.sessions.mapM fun row =>
      if row.id = id then row.correct? column value else some row
    return { tables with sessions }
  | "session_attempts" => do
    let attempts ← tables.attempts.mapM fun row =>
      if row.id = id then row.correct? column value else some row
    return { tables with attempts }
  | _ => none

/-- Overwrite a column of the row of an id. -/
def Store.correct (table : String) (id : Int) (column : String) (value : Option Cell) :
    StoreM Unit :=
  Store.edit fun tables =>
    match tables.correct? table id column value with
    | some corrected => if corrected.IsSound then corrected else tables
    | none => tables

end RetrySafe.Session
