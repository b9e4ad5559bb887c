import TableQuery.Model.Rows
import TableQuery.Program
import TableQuery.Table
import TableQuery.Value.Key
import TableQuery.Value.Same

/-! Preloading: rows of related tables are loaded along with the rows that a query reads. The paths of
    the query become a tree of relations; each node of the tree costs at most one statement, and the
    rows that it yields are attached to the rows above them. -/

namespace TableQuery

/-- A relation to load, with the table that it leads to and the relations to load from there. -/
inductive Preload
  | node (link : Link) (target : Table) (children : List Preload)
  deriving Repr, Inhabited

namespace Preload

def link : Preload → Link
  | node link _ _ => link

def target : Preload → Table
  | node _ target _ => target

def children : Preload → List Preload
  | node _ _ children => children

/-! ### Resolution of paths -/

/-- Cuts nodes in front of and behind the one of a given name. -/
def cutAtName (name : String) : List Preload → Option (List Preload × Preload × List Preload)
  | [] => none
  | n :: ns =>
    if n.link.name = name then some ([], n, ns)
    else (cutAtName name ns).map fun (before, found, after) => (n :: before, found, after)

/-- Adds a path to the nodes below a table. A node that is there already is extended, a new one comes
    last. -/
def insert (table : Table) (path : List String) (nodes : List Preload) :
    Except QueryError (List Preload) :=
  match path with
  | [] => .ok nodes
  | name :: rest =>
    match cutAtName name nodes with
    | some (before, node link target children, after) => do
      let children ← insert target rest children
      .ok (before ++ node link target children :: after)
    | none => do
      let (link, target) ← table.relation name
      let children ← insert target rest []
      .ok (nodes ++ [node link target children])

/-- Adds a path as a query gives it. -/
def insertPath (table : Table) (nodes : List Preload) (path : Value) :
    Except QueryError (List Preload) := do
  let path ← path.asIncludePath
  insert table (cutText '.' path) nodes

/-- The tree of the relations that paths name. -/
def ofPaths (table : Table) (paths : List Value) : Except QueryError (List Preload) :=
  paths.foldlM (insertPath table) []

/-- The columns that the rows above the nodes have to hold, each once. -/
def localKeys (nodes : List Preload) : List String :=
  nodes.foldl
    (fun keys n => if keys.contains n.link.localKey then keys else keys ++ [n.link.localKey]) []

/-! ### Loading -/

/-- The values of a column, each once and without null. -/
def distinctKeys (column : String) (rows : List Row) : List Value :=
  rows.foldl
    (fun keys row =>
      let key := row.getD column
      if key.isNull || key.isAmong keys then keys else keys ++ [key])
    []

/-- The statement that reads the rows of the target table that belong to some of the keys. -/
def statement (d : Dialect) (link : Link) (target : Table) (keys : List Value) : Statement :=
  let belongs : Predicate := ⟨d.quote link.remoteKey ++ " IN (?)", [.members keys]⟩
  let restriction := belongs.and [target.notDeleted d]
  ⟨"SELECT * FROM " ++ d.quote target.name ++ restriction.whereClause, restriction.params⟩

/-- What a row holds of the rows that belong to it: all of them, or the first or null. -/
def attachment (link : Link) (found : List Row) (key : Value) : Value :=
  let mine := found.filter fun row => key.same (row.getD link.remoteKey)
  if link.many then .list (mine.map .dict)
  else match mine with
    | row :: _ => .dict row
    | [] => .null

/-- Attaches found rows to the rows that they belong to. -/
def attach (link : Link) (rows found : List Row) : Outcome (List Row) := do
  let _ ← found.mapM fun row => (row.getD link.remoteKey).asKey
  rows.mapM fun row => do
    let key ← (row.getD link.localKey).asKey
    .ok (row.put link.name (attachment link found key))

mutual

/-- Loads the relation of a node, and what lies below it, for the given rows. -/
def load (d : Dialect) (timeout : Value) (rows : List Row) : Preload → Program (List Row)
  | node link target children => do
    let keys := distinctKeys link.localKey rows
    let found ←
      if keys.isEmpty then Program.done []
      else do
        let raw ← Program.fetchRows (statement d link target keys) timeout
        let decoded ← Program.lift (raw.mapM (Row.decode none))
        loadAll d timeout decoded children
    Program.lift (attach link rows found)

/-- Loads the relations of nodes one after another. -/
def loadAll (d : Dialect) (timeout : Value) (rows : List Row) : List Preload → Program (List Row)
  | [] => Program.done rows
  | n :: ns => do
    let rows ← load d timeout rows n
    loadAll d timeout rows ns

end

end Preload

end TableQuery
