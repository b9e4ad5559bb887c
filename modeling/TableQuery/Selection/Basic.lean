import TableQuery.Preload
import TableQuery.Query.Paging
import TableQuery.Sql.Compilation
import TableQuery.Sql.Select

/-! Selections: the rows of one table that an operation is about. A query, conditions that the caller
    writes in statement text, and the test for rows that are not stamped as deleted restrict it
    together. -/

namespace TableQuery

/-- A selection of rows, and how they are to be read. -/
structure Selection where
  dialect : Dialect
  table : Table
  /-- The model of the rows; without one rows are dictionaries. -/
  model : Option Model
  query : Query
  settings : Settings
  /-- Conditions in statement text. -/
  raw : List Predicate
  /-- Whether rows that are stamped as deleted are left out. -/
  hidesDeleted : Bool
  /-- Seconds that a statement may take, null if nothing is said. -/
  timeout : Value
  deriving Repr

namespace Selection

/-- All rows of a table. -/
def all (d : Dialect) (table : Table) (settings : Settings) : Selection :=
  ⟨d, table, none, Query.empty, settings, [], true, .null⟩

/-- The selection under another query. -/
def withQuery (s : Selection) (q : Query) : Selection := { s with query := q }

/-- The selection with a further condition in statement text. -/
def restrict (s : Selection) (sql : String) (args : List Value) : Selection :=
  { s with raw := s.raw ++ [Predicate.raw sql args] }

/-- The selection together with the rows that are stamped as deleted. -/
def unscoped (s : Selection) : Selection := { s with hidesDeleted := false }

/-- The selection under another time limit. -/
def withTimeout (s : Selection) (timeout : Value) : Selection := { s with timeout }

/-- The compiler for the queries of the selection. -/
def compiler (s : Selection) : Compiler := ⟨s.dialect, s.settings.emptyValueFields⟩

/-- The time limit of a call: its own if it has one, else that of the selection. -/
def callTimeout (s : Selection) (timeout : Value) : Value :=
  if timeout.isNull then s.timeout else timeout

/-- The test for rows that are not stamped as deleted, if they are left out. -/
def scope (s : Selection) : Predicate :=
  if s.hidesDeleted then s.table.notDeleted s.dialect else .none

/-- The predicate of the rows that a query selects: its own, the conditions in statement text, and the
    test for rows that are not stamped as deleted. -/
def predicate (s : Selection) (q : Query) : Outcome Predicate := do
  let own ← s.compiler.predicate q
  .ok (Predicate.all (own :: s.raw ++ [s.scope]))

/-- Refuses a selection that nothing but the stamp restricts. -/
def checkRestricted (s : Selection) (refusal : Misuse) : Outcome Unit := do
  let own ← s.compiler.predicate s.query
  if own.isNone && s.raw.isEmpty then .error (.misuse refusal) else .ok ()

/-- The query of the selection with the condition that the primary key equals a value. -/
def queryById (s : Selection) (id : Value) : Except QueryError Query := do
  let byId ← Query.byId id (.text s.table.primaryKey)
  .ok (s.query.withSearch byId.search)

/-- The error that there is no row of a given key. -/
def noRecord (s : Selection) (id : Value) : Failure :=
  .database
    (.make .notFound ("record not found in '" ++ s.table.name ++ "'") (.text s.table.primaryKey) id)
    none

end Selection

end TableQuery
