import TableQuery.Driver.Basic

/-! Statements on an SQLite connection. The connection belongs to the caller; changes are committed only
    if that is asked for. -/

namespace TableQuery

namespace Sqlite

/-- Runs a statement and reads from its cursor, which is closed in any case. -/
def withCursor {α : Type} (h : Handle) (sql : String) (params : List Value) (body : Attempt α) :
    Attempt α := do
  h.call (.execute sql params)
  body.ensuring (h.call .closeCursor)

/-- Reads all rows from a cursor. -/
def readRows (h : Handle) : Attempt (List Row) := h.callFor .fetchAll h.rows

/-- Runs a statement. The count of changed rows is that of the returned ones if they are asked for. -/
def perform (h : Handle) (commits : Bool) (kind : RequestKind) (sql : String) (params : List Value) :
    Attempt kind.Answer :=
  match kind with
  | .rows => withCursor h sql params (readRows h)
  | .value => withCursor h sql params (h.callFor .fetchOne h.firstColumn)
  | .write returning => do
    let result ← withCursor h sql params (
      if returning then do
        let rows ← readRows h
        pure ⟨.int rows.length, h.lastRowId, rows⟩
      else pure ⟨h.rowCount, h.lastRowId, []⟩)
    if commits then h.call .commit else pure ()
    pure result

end Sqlite

end TableQuery
