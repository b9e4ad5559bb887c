import TableQuery.Selection.Reading

/-! Deletion of a selection. Rows of a table with stamps are stamped; rows of any other table, and of a
    selection that reaches stamped rows too, are removed. -/

namespace TableQuery

namespace Selection

/-- The statement that deletes the rows of a predicate. -/
def deletion (s : Selection) (now : Instant) (restriction : Predicate) : Statement :=
  let remove : Statement :=
    ⟨"DELETE FROM " ++ s.dialect.quote s.table.name ++ restriction.whereClause, restriction.params⟩
  match s.table.softDelete with
  | some column =>
    if s.hidesDeleted then
      ⟨"UPDATE " ++ s.dialect.quote s.table.name ++ " SET " ++ s.dialect.quote column ++ " = ?" ++
        restriction.whereClause, .instant now :: restriction.params⟩
    else remove
  | none => remove

/-- Deletes the rows of a predicate, and reports how many they were. -/
def runDeletion (s : Selection) (now : Instant) (restriction : Predicate) (timeout : Value) :
    Program Value := do
  let result ← Program.write (s.deletion now restriction) false timeout
  Program.done result.rowCount

/-- Deletes the rows of the selection, which something has to restrict. -/
def delete (s : Selection) (now : Instant) (timeout : Value) : Program Value := do
  let timeout := s.callTimeout timeout
  Program.lift (Compiler.validate s.query)
  Program.lift (s.checkRestricted (.unrestrictedDelete s.table.name))
  let restriction ← Program.lift (s.predicate s.query)
  s.runDeletion now restriction timeout

/-- The query of the selection with the condition that the primary key equals a value, and with what a
    further query asks for. -/
def deletionQuery (s : Selection) (id : Value) (extra : Option Query) : Except QueryError Query := do
  let q ← s.queryById id
  match extra with
  | some extra => .ok (q.merge extra)
  | none => .ok q

/-- Deletes the row of a key. A further query may restrict it more. That there is such a row is asked
    first, and without one nothing is deleted. -/
def deleteById (s : Selection) (now : Instant) (id : Value) (extra : Option Query) (timeout : Value) :
    Program Value := do
  let timeout := s.callTimeout timeout
  let q ← Program.lift (Compiler.ofQuery (s.deletionQuery id extra))
  Program.lift (Compiler.validate q)
  let restriction ← Program.lift (s.predicate q)
  let reader := { s with query := q, model := none, timeout := .null }
  let found ← reader.exist timeout
  if found then s.runDeletion now restriction timeout
  else Program.fail (s.noRecord id)

end Selection

end TableQuery
