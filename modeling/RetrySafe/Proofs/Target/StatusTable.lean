import RetrySafe.Target.Database

/-!
# Status tables as content

A content holds some rows as a status table when the name leads to a table with the columns of a
status table and to these rows. Every statement that a guard makes about the table can then be
compiled, whatever else is stored. What the guard learns of an operation is its first row.

## Main definitions

* `Content.Holds` — the rows that a content holds as a status table.
* `rowOf` — the row of an operation.
-/

namespace RetrySafe

/-- The row of an operation. -/
def rowOf (operation : String) (rows : List StatusRow) : Option StatusRow :=
  rows.find? (·.operation = operation)

namespace Content

variable {δ : Type}

/-! ## Changing the rows of a status table -/

theorem rows?_withRows {content : Content δ} {table : String} {old : List StatusRow}
    (hold : content.rows? table = some old) (rows : List StatusRow) :
    (content.withRows table rows).rows? table = some rows := by
  obtain ⟨t, hfound, -⟩ := Option.map_eq_some_iff.mp hold
  have hsame : isSame t.1 table = true := by simpa using List.find?_some hfound
  -- The name of a table does not change with its rows.
  have hname : ((fun t => isSame t.1 table) ∘ fun t : String × List StatusRow =>
      if isSame t.1 table then (t.1, rows) else t) = fun t => isSame t.1 table := by
    funext t
    by_cases h : isSame t.1 table <;> simp [h]
  simp only [rows?, withRows, List.find?_map, hname, hfound, Option.map_some, hsame, if_true]

theorem withRows_withRows (content : Content δ) (table : String) (rows rows' : List StatusRow) :
    (content.withRows table rows).withRows table rows' = content.withRows table rows' := by
  simp only [withRows, List.map_map]
  congr 1
  refine List.map_congr_left fun t _ => ?_
  by_cases h : isSame t.1 table <;> simp [h]

variable [HasTables δ]

@[simp]
theorem catalog_withRows (content : Content δ) (table : String) (rows : List StatusRow) :
    (content.withRows table rows).catalog = content.catalog := by
  simp only [catalog, withRows, List.map_map]
  congr 1
  refine List.map_congr_left fun t _ => ?_
  by_cases h : isSame t.1 table <;> simp [h]

/-! ## Holding a status table -/

/-- A content holds some rows as a status table. -/
structure Holds (content : Content δ) (table : StatusTable) (rows : List StatusRow) : Prop where
  rows : content.rows? table.name = some rows
  shape : ∃ name, content.catalog.find? table.name = some ⟨name, statusColumns, false⟩

namespace Holds

variable {content : Content δ} {table : StatusTable} {rows : List StatusRow}

theorem withRows (h : content.Holds table rows) (rows' : List StatusRow) :
    (content.withRows table.name rows').Holds table rows' where
  rows := rows?_withRows h.rows rows'
  shape := by simpa using h.shape

theorem unique (h : content.Holds table rows) {rows' : List StatusRow}
    (h' : content.Holds table rows') : rows = rows' :=
  Option.some.inj (h.rows.symm.trans h'.rows)

theorem getD (h : content.Holds table rows) : (content.rows? table.name).getD [] = rows := by
  rw [h.rows, Option.getD_some]

theorem changeable (h : content.Holds table rows) (more : TableShape → Option String) :
    ∃ name, Demand.changeable table.name more content.catalog =
      more ⟨name, statusColumns, false⟩ := by
  obtain ⟨name, hshape⟩ := h.shape
  exact ⟨name, by simp [Demand.changeable, Demand.table, hshape]⟩

/-- Rows can be registered. -/
theorem registers (h : content.Holds table rows) :
    Demand.changeable table.name (Demand.targets table.name ["operation_id", "created_at"])
      content.catalog = none := by
  obtain ⟨name, hdemand⟩ := h.changeable (Demand.targets table.name ["operation_id", "created_at"])
  rw [hdemand]
  simp [Demand.targets, TableShape.hasColumn, statusColumns]

/-- Rows can be marked as completed. -/
theorem marks (h : content.Holds table rows) :
    Demand.changeable table.name (Demand.assigned "completed_at") content.catalog = none := by
  obtain ⟨name, hdemand⟩ := h.changeable (Demand.assigned "completed_at")
  rw [hdemand]
  simp [Demand.assigned, TableShape.hasColumn, statusColumns]

/-- Old rows can be deleted. -/
theorem purges (h : content.Holds table rows) (front back : String) :
    Demand.changeable table.name (Demand.readAt front "created_at" back)
      content.catalog = none := by
  obtain ⟨name, hdemand⟩ := h.changeable (Demand.readAt front "created_at" back)
  rw [hdemand]
  simp [Demand.readAt, TableShape.hasColumn, statusColumns]

/-- Rows can be looked at. -/
theorem looks (h : content.Holds table rows) (front back : String) :
    Demand.table table.name (Demand.readAt front "completed_at" back) content.catalog = none := by
  obtain ⟨name, hshape⟩ := h.shape
  simp [Demand.table, hshape, Demand.readAt, TableShape.hasColumn, statusColumns]

theorem has (h : content.Holds table rows) : content.catalog.has table.name = true := by
  obtain ⟨name, hshape⟩ := h.shape
  simp [Catalog.has, hshape]

end Holds

/-- A new status table is empty. -/
theorem holds_withTable {content : Content δ} {table : StatusTable}
    (habsent : content.catalog.has table.name = false) :
    (content.withTable table.name).Holds table [] := by
  have hnone : content.catalog.find? table.name = none := by simpa [Catalog.has] using habsent
  -- The name is not taken by a table of the database's own, of the data, or of another guard.
  obtain ⟨hsystem, hothers⟩ : Catalog.systemTable? table.name = none ∧
      List.find? (·.isNamed table.name) content.catalog = none := by
    rwa [Catalog.find?, Option.orElse_eq_orElse, Option.orElse_eq_or,
      Option.or_eq_none_iff] at hnone
  have htables : content.tables.find? (fun t => isSame t.1 table.name) = none := by
    rw [catalog, List.find?_append, Option.or_eq_none_iff, List.find?_map,
      Option.map_eq_none_iff] at hothers
    exact hothers.2
  have hself : isSame table.name table.name = true := by simp [isSame]
  let shape : TableShape := ⟨table.name, statusColumns, false⟩
  have hnew : [shape].find? (·.isNamed table.name) = some shape := by
    simp [shape, TableShape.isNamed]
  have hcatalog : (content.withTable table.name).catalog = content.catalog ++ [shape] := by
    simp [shape, catalog, withTable]
  constructor
  · simp [rows?, withTable, htables, hself]
  · refine ⟨table.name, ?_⟩
    rw [Catalog.find?, hsystem, hcatalog, List.find?_append, hothers]
    exact hnew

end Content

/-! ## The row of an operation -/

namespace Database

variable {operation other : String} {rows : List StatusRow}

theorem operation_of_rowOf {row : StatusRow} (hrow : rowOf operation rows = some row) :
    row.operation = operation := by
  have hfound : (decide (row.operation = operation)) = true :=
    List.find?_some (p := fun row : StatusRow => decide (row.operation = operation)) hrow
  exact of_decide_eq_true hfound

/-- A registration adds a row where there is none. -/
theorem rowOf_registered_self (created : String) :
    rowOf operation (registered operation created rows) =
      some ((rowOf operation rows).getD ⟨operation, created, none⟩) := by
  unfold registered
  split
  · rename_i hany
    obtain ⟨row, hrow⟩ := Option.isSome_iff_exists.mp (List.find?_isSome.mpr
      (List.any_eq_true.mp hany))
    simp [rowOf, hrow]
  · rename_i hany
    have hnone : rowOf operation rows = none := by
      simpa [rowOf, List.find?_eq_none] using hany
    simp only [rowOf] at hnone
    simp [rowOf, List.find?_append, hnone]

theorem rowOf_registered_of_ne (created : String) (hne : other ≠ operation) :
    rowOf other (registered operation created rows) = rowOf other rows := by
  unfold registered
  split
  · rfl
  · simp [rowOf, List.find?_append, hne.symm]

theorem registered_of_row {row : StatusRow} (hrow : rowOf operation rows = some row)
    (created : String) : registered operation created rows = rows := by
  have hany : rows.any (·.operation = operation) = true :=
    List.any_eq_true.mpr ⟨row, List.mem_of_find?_eq_some hrow,
      decide_eq_true (operation_of_rowOf hrow)⟩
  rw [registered, if_pos hany]

theorem rowOf_marked_self (completed : String) :
    rowOf operation (marked operation completed rows) =
      (rowOf operation rows).map fun row => { row with completed := some completed } := by
  induction rows with
  | nil => rfl
  | cons row rows ih =>
    by_cases h : row.operation = operation
    · simp [rowOf, marked, h]
    · simpa [rowOf, marked, h] using ih

theorem rowOf_marked_of_ne (completed : String) (hne : other ≠ operation) :
    rowOf other (marked operation completed rows) = rowOf other rows := by
  -- By induction on the rows; a row of the marked operation is never the first of another one.
  induction rows with
  | nil => rfl
  | cons row rows ih =>
    by_cases h : row.operation = operation
    · have hother : row.operation ≠ other := fun heq => hne (heq.symm.trans h)
      simpa [rowOf, marked, h, hother, hne.symm] using ih
    · by_cases hrow : row.operation = other
      · simp [rowOf, marked, hrow, hne]
      · simpa [rowOf, marked, h, hrow] using ih

theorem completion_of_open {row : StatusRow} (hrow : rowOf operation rows = some row)
    (hopen : row.completed = none) : completion operation rows = .ok none := by
  unfold rowOf at hrow
  simp [completion, hrow, hopen]

theorem row_of_completion {time : Option Time.Instant}
    (h : completion operation rows = .ok time) : ∃ row, rowOf operation rows = some row := by
  unfold completion at h
  split at h
  · cases h
  · rename_i row hrow
    exact ⟨row, hrow⟩

/-- The time of a completed operation is found, or cannot be read. -/
theorem completion_of_completed {row : StatusRow} (hrow : rowOf operation rows = some row)
    (hcompleted : row.completed ≠ none) :
    (∃ t, completion operation rows = .ok (some t)) ∨
      ∃ error, completion operation rows = .error error := by
  obtain ⟨text, htext⟩ := Option.ne_none_iff_exists'.mp hcompleted
  unfold rowOf at hrow
  cases hread : Time.readStrict text with
  | ok t => exact .inl ⟨t, by simp [completion, hrow, htext, hread]⟩
  | error fault => exact .inr ⟨_, by simp [completion, hrow, htext, hread]; rfl⟩

/-- Deleting rows spares an operation whose row is kept. -/
theorem rowOf_filter {row : StatusRow} {keep : StatusRow → Bool}
    (hrow : rowOf operation rows = some row) (hkeep : keep row = true) :
    rowOf operation (rows.filter keep) = some row := by
  -- By induction on the rows. The first row of the operation is kept, so no later one is found.
  induction rows with
  | nil => cases hrow
  | cons head rows ih =>
    by_cases h : head.operation = operation
    · have hhead : head = row := by simpa [rowOf, h] using hrow
      subst hhead
      simp [rowOf, hkeep, h]
    · have htail : rowOf operation rows = some row := by simpa [rowOf, h] using hrow
      by_cases hk : keep head = true
      · simpa [rowOf, hk, h] using ih htail
      · simpa [rowOf, hk] using ih htail

end Database

end RetrySafe
