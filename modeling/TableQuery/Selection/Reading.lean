import TableQuery.Model.Rows
import TableQuery.Selection.Basic
import TableQuery.Value.Numeric

/-! Reading a selection: rows, pages, single rows, counts and aggregates. The whole query is checked
    before the first statement. -/

namespace TableQuery

namespace Selection

/-- Checks a query, and resolves the relations that it asks for. -/
def prepare (s : Selection) (q : Query) : Outcome (List Preload) := do
  Compiler.validate q
  Compiler.ofQuery (Preload.ofPaths s.table q.relations)

/-- The columns of an order. -/
def orderColumns (q : Query) : Except QueryError (List (String × Direction)) :=
  q.orderBy.mapM fun o => do
    let column ← o.field.asName "order field"
    .ok (column, o.direction)

/-- The statement that reads the rows of a query. The columns that relations are loaded by are read
    too. -/
def select (s : Selection) (q : Query) (preloads : List Preload) : Outcome Select := do
  let wanted := q.columnsWith ((Preload.localKeys preloads).map .text)
  let columns ← Compiler.ofQuery (Value.asNames "filter field" wanted)
  let restriction ← s.predicate q
  let order ← Compiler.ofQuery (orderColumns q)
  .ok ⟨s.table.name, columns, restriction, order, none, none⟩

/-- The statement that counts or aggregates the rows of the selection. -/
def aggregateSelect (s : Selection) : Outcome Select := do
  let _ ← s.prepare s.query
  let restriction ← s.predicate s.query.forAggregate
  .ok { Select.all s.table.name with restriction }

/-- A decoded row as callers see it. -/
def present (s : Selection) (q : Query) (row : Row) : Outcome Value :=
  match s.model with
  | none => .ok (.dict row)
  | some m => row.toEntity m (!q.filter.isEmpty)

/-- Reads rows together with the relations that are asked for. -/
def fetch (s : Selection) (statement : Select) (q : Query) (preloads : List Preload) (timeout : Value) :
    Program (List Value) := do
  let raw ← Program.fetchRows (statement.rows s.dialect) timeout
  let decoded ← Program.lift (raw.mapM (Row.decode s.model))
  let rows ← Preload.loadAll s.dialect timeout decoded preloads
  Program.lift (rows.mapM (s.present q))

/-! ### Rows -/

/-- The bounds of a reading of all rows: a page if the query names one, else its limit. -/
def bounds (s : Selection) (q : Query) : Option Int × Option Int :=
  match q.page with
  | some page =>
    let size := q.effectivePageSize s.settings
    (some size, some ((page - 1) * size : Int))
  | none => ((q.effectiveLimit s.settings).map Int.ofNat, none)

/-- Reads the rows. -/
def get (s : Selection) (timeout : Value) : Program (List Value) := do
  let q := s.query
  let preloads ← Program.lift (s.prepare q)
  let statement ← Program.lift (s.select q preloads)
  let (limit, offset) := s.bounds q
  s.fetch { statement with limit, offset } q preloads (s.callTimeout timeout)

/-- Counts the rows. -/
def countWithin (s : Selection) (timeout : Value) : Program Int := do
  let statement ← Program.lift s.aggregateSelect
  let v ← Program.fetchValue (statement.count s.dialect) timeout
  Program.lift v.toCount

/-- The last page, or the failure that there are too many rows for one. -/
def lastPageOf (total size : Int) : Outcome Int :=
  match lastPage? total size with
  | some n => .ok n
  | none => .error (.misuse .quotientRange)

/-- Reads one page, and counts the rows on all of them. -/
def page (s : Selection) (timeout : Value) : Program (Pager Value) := do
  let q := s.query
  let preloads ← Program.lift (s.prepare q)
  let timeout := s.callTimeout timeout
  let page := q.effectivePage s.settings
  let size := q.effectivePageSize s.settings
  let total ← s.countWithin timeout
  let statement ← Program.lift (s.select q preloads)
  let data ← s.fetch { statement with limit := some size, offset := some ((page - 1) * size : Int) } q
    preloads timeout
  let last ← Program.lift (lastPageOf total size)
  Program.done ⟨page, total, last, data⟩

/-- The error that no row fits the query. -/
def noMatch (s : Selection) : Failure :=
  .database (.make .notFound ("no record in '" ++ s.table.name ++ "' matches the query") .null .null) none

/-- Reads the first row. -/
def first (s : Selection) (timeout : Value) : Program Value := do
  let q := s.query
  let preloads ← Program.lift (s.prepare q)
  let statement ← Program.lift (s.select q preloads)
  let rows ← s.fetch { statement with limit := some 1 } q preloads (s.callTimeout timeout)
  match rows with
  | row :: _ => Program.done row
  | [] => Program.fail s.noMatch

/-- Reads the row of a key. -/
def find (s : Selection) (id timeout : Value) : Program Value := do
  let q ← Program.lift (Compiler.ofQuery (s.queryById id))
  (s.withQuery q).first timeout

/-! ### Aggregates -/

/-- Counts the rows. Order and bounds of the query do not matter. -/
def count (s : Selection) (timeout : Value) : Program Int := s.countWithin (s.callTimeout timeout)

/-- Applies an aggregate function to a column. -/
def aggregate (s : Selection) (function : String) (field timeout : Value) : Program Value := do
  let statement ← Program.lift s.aggregateSelect
  let column ← Program.lift (Compiler.ofQuery (field.asName "aggregate field"))
  Program.fetchValue (statement.aggregate s.dialect function column) (s.callTimeout timeout)

/-- Adds up a column. -/
def sum (s : Selection) (field timeout : Value) : Program Value := do
  let v ← s.aggregate "SUM" field timeout
  Program.lift v.toSum

/-- Averages a column. -/
def average (s : Selection) (field timeout : Value) : Program Double := do
  let v ← s.aggregate "AVG" field timeout
  Program.lift v.toAverage

/-- Whether there is a row. -/
def exist (s : Selection) (timeout : Value) : Program Bool := do
  let n ← s.count timeout
  Program.done (decide (0 < n))

/-- Whether there is a row of a key. -/
def existsById (s : Selection) (id timeout : Value) : Program Bool := do
  let q ← Program.lift (Compiler.ofQuery (s.queryById id))
  (s.withQuery q).exist timeout

end Selection

end TableQuery
