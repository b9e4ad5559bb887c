import TableQuery.Query.Name
import TableQuery.Sql.Dialect
import TableQuery.Sql.Predicate

/-! Tables: their key, the columns that are kept up to date, and the relations that can be loaded. -/

namespace TableQuery

/-- How rows of one table belong to rows of another: rows of the other table belong to a row if their
    remote key equals its local key. -/
structure Link where
  name : String
  localKey : String
  remoteKey : String
  /-- Whether a row can have several; otherwise it has one or none. -/
  many : Bool
  deriving DecidableEq, Repr, Inhabited

/-- A table. -/
structure Table where
  name : String
  primaryKey : String
  /-- Whether keys are generated before rows are inserted; otherwise the store does it. -/
  generatesIds : Bool
  /-- Filled with the current time when a row is inserted. -/
  createdAt : Option String
  /-- Filled with the current time when a row is inserted or updated. -/
  updatedAt : Option String
  /-- Stamped in place of deleting a row; rows with a stamp are not seen. -/
  softDelete : Option String
  relations : List (Link × Table)
  deriving Repr, Inhabited

namespace Link

/-- A link from its parts. -/
def make (name localKey remoteKey : Value) (many : Bool) : Except QueryError Link := do
  let name ← name.asName "relation"
  let localKey ← localKey.asName "relation key"
  let remoteKey ← remoteKey.asName "relation key"
  .ok ⟨name, localKey, remoteKey, many⟩

end Link

namespace Table

/-- A column that a table may lack: null stands for none. -/
def optionalColumn (v : Value) : Except QueryError (Option String) :=
  match v with
  | .null => .ok none
  | v => (v.asName "column").map some

/-- The parts that a table is made from, before they are checked. -/
structure Parts where
  name : Value
  primaryKey : Value
  generatesIds : Bool
  createdAt : Value
  updatedAt : Value
  softDelete : Value
  relations : List (Link × Table)

/-- A table from its parts, all of whose names are checked. -/
def make (p : Parts) : Except QueryError Table := do
  let name ← p.name.asName "table"
  let primaryKey ← p.primaryKey.asName "primary key"
  let createdAt ← optionalColumn p.createdAt
  let updatedAt ← optionalColumn p.updatedAt
  let softDelete ← optionalColumn p.softDelete
  .ok ⟨name, primaryKey, p.generatesIds, createdAt, updatedAt, softDelete, p.relations⟩

/-- A table of which only the name is given. -/
def ofName (name : Value) : Except QueryError Table :=
  make ⟨name, .text "id", false, .null, .null, .null, []⟩

/-- The first relation of a name, with the table that it leads to. -/
def relation (t : Table) (name : String) : Except QueryError (Link × Table) :=
  match t.relations.find? fun (link, _) => link.name = name with
  | some r => .ok r
  | none => .error (.unknownRelation name t.name)

/-- The table with further relations. -/
def withRelations (t : Table) (more : List (Link × Table)) : Table :=
  { t with relations := t.relations ++ more }

/-- The test that a row is not stamped as deleted; no test for a table without stamps. -/
def notDeleted (t : Table) (d : Dialect) : Predicate :=
  match t.softDelete with
  | some column => ⟨d.quote column ++ " IS NULL", []⟩
  | none => .none

end Table

end TableQuery
