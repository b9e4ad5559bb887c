import TableQuery.Query.Basic
import TableQuery.Sql.Dialect
import TableQuery.Sql.Predicate

/-! Reading statements on one table: rows, counts and aggregates. -/

namespace TableQuery

/-- A reading statement. No columns stand for all; an offset of zero is not written. -/
structure Select where
  table : String
  columns : List String
  restriction : Predicate
  /-- The columns to order by. -/
  order : List (String × Direction)
  limit : Option Int
  offset : Option Int
  deriving Repr, Inhabited

/-- Statement text with a `?` for each parameter, and the parameters. -/
structure Statement where
  sql : String
  params : List Value
  deriving BEq, Repr, Inhabited

namespace Select

/-- The reading of all of a table. -/
def all (table : String) : Select := ⟨table, [], .none, [], none, none⟩

/-- The statement with further restrictions. -/
def restrict (s : Select) (ps : List Predicate) : Select :=
  { s with restriction := s.restriction.and ps }

def fromText (s : Select) (d : Dialect) : String :=
  "FROM " ++ d.quote s.table ++ s.restriction.whereClause

def orderText (s : Select) (d : Dialect) : String :=
  if s.order.isEmpty then ""
  else " ORDER BY " ++
    joinWith ", " (s.order.map fun (column, direction) => d.quote column ++ " " ++ direction.keyword)

/-- The bounds, as text and parameters. An offset is written only together with a limit. -/
def paging (s : Select) : Statement :=
  match s.limit with
  | none => ⟨"", []⟩
  | some limit => match s.offset with
    | none => ⟨" LIMIT ?", [.int limit]⟩
    | some offset =>
      if offset = 0 then ⟨" LIMIT ?", [.int limit]⟩
      else ⟨" LIMIT ? OFFSET ?", [.int limit, .int offset]⟩

/-- The columns to read. -/
def projection (s : Select) (d : Dialect) : String :=
  if s.columns.isEmpty then "*" else joinWith ", " (s.columns.map d.quote)

/-- The statement that reads the rows. -/
def rows (s : Select) (d : Dialect) : Statement :=
  let paging := s.paging
  ⟨"SELECT " ++ s.projection d ++ " " ++ s.fromText d ++ s.orderText d ++ paging.sql,
   s.restriction.params ++ paging.params⟩

/-- The statement that counts the rows, whatever columns, order and bounds are. -/
def count (s : Select) (d : Dialect) : Statement :=
  ⟨"SELECT COUNT(*) " ++ s.fromText d, s.restriction.params⟩

/-- The statement that applies an aggregate function to a column; no rows give zero. -/
def aggregate (s : Select) (d : Dialect) (function column : String) : Statement :=
  ⟨"SELECT COALESCE(" ++ function ++ "(" ++ d.quote column ++ "), 0) " ++ s.fromText d,
   s.restriction.params⟩

end Select

end TableQuery
