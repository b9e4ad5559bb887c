import TableQuery.Driver.Basic

/-! Statements on a MySQL connection, or on a pool of them. A connection from the pool is for one
    statement: a change is committed, an error rolled back, and the connection given back. On a
    connection of the caller nothing is committed or rolled back. -/

namespace TableQuery

namespace MySql

/-- Gives the connection back to its pool. -/
def giveBack (h : Handle) (pooled : Bool) : Attempt Unit :=
  if pooled then (h.call .release).quietly else pure ()

/-- Undoes what was begun on a connection from the pool. -/
def undo (h : Handle) (pooled : Bool) : Attempt Unit :=
  if pooled then h.call .rollback else pure ()

/-- Runs a body with a cursor on a connection, which is there already. The cursor is closed if it was
    opened. -/
def withCursor {α : Type} (h : Handle) (pooled : Bool) (body : Attempt α) : Attempt α :=
  let opening := h.call .openCursor
  match opening.outcome with
  | .ok _ =>
    ((do opening; body).onError (undo h pooled)).ensuring (do
      h.call .closeCursor
      giveBack h pooled)
  | .error f =>
    ((⟨opening.calls, .error f⟩ : Attempt α).onError (undo h pooled)).ensuring (giveBack h pooled)

/-- Runs a body with a cursor on a connection. -/
def withSession {α : Type} (h : Handle) (pooled : Bool) (body : Attempt α) : Attempt α :=
  if pooled then do
    h.call .acquire
    withCursor h pooled body
  else withCursor h pooled body

/-- Runs a statement. -/
def perform (h : Handle) (pooled : Bool) (kind : RequestKind) (sql : String) (params : List Value) :
    Attempt kind.Answer :=
  match kind with
  | .rows => withSession h pooled (do
      h.call (.execute sql params)
      h.callFor .fetchAll h.rows)
  | .value => withSession h pooled (do
      h.call (.execute sql params)
      h.callFor .fetchOne h.firstColumn)
  | .write returning => withSession h pooled (do
      h.call (.execute sql params)
      let rows ← if returning then h.callFor .fetchAll h.rows else pure []
      if pooled then h.call .commit else pure ()
      pure ⟨h.rowCount, h.lastRowId, rows⟩)

end MySql

end TableQuery
