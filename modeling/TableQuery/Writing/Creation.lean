import TableQuery.Writing.Basic

/-! Creation: a record is completed with a key and times, checked for uniqueness, inserted, and read
    back. -/

namespace TableQuery

namespace Table

/-- A new key: from the generator of the table, null if it has none. -/
def newKey (t : Table) : Program Value :=
  if t.generatesIds then Program.draw Program.done else Program.done .null

end Table

namespace Writer

/-- The row with a key: its own, or a new one, or none. -/
def withKey (w : Writer) (row : Row) : Program Row :=
  let pk := w.selection.table.primaryKey
  if (row.getD pk).isNull then do
    let key ← w.selection.table.newKey
    Program.done (if key.isNull then row.erase pk else row.put pk key)
  else Program.done row

/-- The row with the current time in a column that holds nothing. -/
def stamped (now : Instant) (row : Row) (column : Option String) : Row :=
  match column with
  | some c => if (row.getD c).isNull then row.put c (.instant now) else row
  | none => row

/-- The row to insert for a record. Key and times are written whatever the policy says. -/
def insertedRow (w : Writer) (now : Instant) (record : Value) : Program Row := do
  let table := w.selection.table
  let given ← Program.lift (record.toRow false)
  let row ← w.withKey (w.withoutRelations given)
  let row := stamped now (stamped now row table.createdAt) table.updatedAt
  let row := without row table.softDelete
  let keep := [some table.primaryKey, table.createdAt, table.updatedAt].filterMap id
  Program.done (w.columns.apply row keep)

/-- The statement that inserts a row. -/
def insertion (w : Writer) (row : Row) : Statement :=
  let d := w.selection.dialect
  ⟨"INSERT INTO " ++ d.quote w.selection.table.name ++
    " (" ++ joinWith ", " (row.map fun (column, _) => d.quote column) ++
    ") VALUES (" ++ joinWith ", " (row.map fun _ => "?") ++ ")",
   row.map Prod.snd⟩

/-- The first of the rows that an insertion returns, as callers see it. -/
def returnedRow (w : Writer) (result : WriteResult) : Outcome Value :=
  match result.rows with
  | [] => .error (.misuse .noReturnedRow)
  | row :: _ => do
    let decoded ← row.decode w.selection.model
    match w.selection.model with
    | none => .ok (.dict decoded)
    | some m => decoded.toEntity m false

/-- Inserts a record and ends with the stored row. Where the store returns it, that is the one;
    otherwise the row is read back by its key. -/
def create (w : Writer) (now : Instant) (record timeout : Value) : Program Value := do
  let timeout := w.selection.callTimeout timeout
  let row ← w.insertedRow now record
  if row.isEmpty then Program.fail (.misuse (.nothingToInsert w.selection.table.name))
  else do
    w.uniqueness.check (.dict row) .null .none timeout
    let insertion := w.insertion row
    if w.selection.dialect.supportsReturning then do
      let result ← Program.write { insertion with sql := insertion.sql ++ " RETURNING *" } true timeout
      Program.lift (w.returnedRow result)
    else do
      let result ← Program.write insertion false timeout
      let id := (row.get? w.selection.table.primaryKey).getD result.lastRowId
      w.reader.unscoped.find id timeout

end Writer

end TableQuery
