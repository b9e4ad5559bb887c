import TableQuery.Writing.Basic

/-! Updates: of all rows of a selection, or of the row of a key. The primary key and the time of
    creation are never written. -/

namespace TableQuery

namespace Writer

/-- The columns to write for a record, of which an entity gives only what was set on it. The time of the
    update is written if anything else is. -/
def updatedColumns (w : Writer) (now : Instant) (record : Value) : Outcome Row := do
  let table := w.selection.table
  let given ← record.toRow true
  let row := without ((w.withoutRelations given).erase table.primaryKey) table.createdAt
  let row := w.columns.apply row []
  if row.isEmpty then .ok row
  else match table.updatedAt with
    | some c => .ok (row.put c (.instant now))
    | none => .ok row

/-- The statement that writes columns of the rows of a predicate. -/
def updating (w : Writer) (row : Row) (restriction : Predicate) : Statement :=
  let d := w.selection.dialect
  ⟨"UPDATE " ++ d.quote w.selection.table.name ++
    " SET " ++ joinWith ", " (row.map fun (column, _) => d.quote column ++ " = ?") ++
    restriction.whereClause,
   row.map Prod.snd ++ restriction.params⟩

/-- Writes columns of the rows of a predicate, and reports how many they were. -/
def runUpdate (w : Writer) (row : Row) (restriction : Predicate) (timeout : Value) : Program Value := do
  let result ← Program.write (w.updating row restriction) false timeout
  Program.done result.rowCount

/-- The statement that counts the rows of a predicate. -/
def counting (w : Writer) (restriction : Predicate) : Statement :=
  ⟨"SELECT COUNT(*) FROM " ++ w.selection.dialect.quote w.selection.table.name ++
    restriction.whereClause, restriction.params⟩

/-- The statement that reads one row of a predicate. -/
def probing (w : Writer) (restriction : Predicate) : Statement :=
  ⟨"SELECT * FROM " ++ w.selection.dialect.quote w.selection.table.name ++ restriction.whereClause ++
    " LIMIT 1", restriction.params⟩

/-- Checks the rules on an update of all rows of a predicate: no row outside of it may hold the values,
    and no more than one row may receive them. -/
def checkTargets (w : Writer) (row : Row) (restriction : Predicate) (timeout : Value) : Program Unit :=
  match w.uniqueness.enforced (.dict row) with
  | [] => Program.done ()
  | (rule, pairs) :: _ => do
    w.uniqueness.check (.dict row) .null restriction timeout
    let v ← Program.fetchValue (w.counting restriction) timeout
    let n ← Program.lift v.toCount
    if 1 < n then Program.fail (Uniqueness.duplicate rule pairs) else Program.done ()

/-- Updates the rows of the selection, which something has to restrict, and reports how many they were.
    Without a column to write no statement is made. -/
def update (w : Writer) (now : Instant) (record timeout : Value) : Program Value := do
  let s := w.selection
  let timeout := s.callTimeout timeout
  Program.lift (Compiler.validate s.query)
  Program.lift (s.checkRestricted (.unrestrictedUpdate s.table.name))
  let row ← Program.lift (w.updatedColumns now record)
  if row.isEmpty then Program.done (.int 0)
  else do
    let restriction ← Program.lift (s.predicate s.query)
    w.checkTargets row restriction timeout
    w.runUpdate row restriction timeout

/-- One row on top of another. -/
def overlay (row newer : Row) : Row := newer.foldl (fun row (column, v) => row.put column v) row

/-- Updates the row of a key and ends with the stored row. That there is such a row is asked first. A rule
    that is touched is checked with the stored values of the fields that are not written. -/
def updateById (w : Writer) (now : Instant) (id record timeout : Value) : Program Value := do
  let s := w.selection
  let timeout := s.callTimeout timeout
  let q ← Program.lift (Compiler.ofQuery (s.queryById id))
  Program.lift (Compiler.validate q)
  let restriction ← Program.lift (s.predicate q)
  let current ← Program.fetchRow? (w.probing restriction) timeout
  match current with
  | none => Program.fail (s.noRecord id)
  | some current => do
    let row ← Program.lift (w.updatedColumns now record)
    if row.isEmpty then w.reader.find id timeout
    else do
      let touched := w.uniqueness.touchedBy (.dict row)
      touched.check (.dict (overlay current row)) id .none timeout
      let _ ← w.runUpdate row restriction timeout
      w.reader.find id timeout

end Writer

end TableQuery
