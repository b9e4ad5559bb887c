import TableQuery.Driver.MySql
import TableQuery.Driver.PostgreSql
import TableQuery.Driver.Sqlite
import TableQuery.Store.Basic

/-! Adapters: a store over a driver's handle. They render statements, keep to the time limit, and turn
    what the driver raises into errors of the store. -/

namespace TableQuery

/-- What an adapter is made over. -/
inductive HandleKind
  | connection
  | pool
  /-- Something that is no handle of the driver. -/
  | other
  deriving DecidableEq, Repr

/-- The drivers. -/
inductive DriverKind
  | sqlite
  | mysql
  | postgresql
  deriving DecidableEq, Repr

namespace DriverKind

def dialect : DriverKind → Dialect
  | sqlite => .sqlite
  | mysql => .mysql
  | postgresql => .postgresql

/-- What callers are told that have no handle of the driver. -/
def acceptedHandles : DriverKind → String
  | sqlite => "db_connection must be an instance of aiosqlite.Connection"
  | mysql => "db must be an instance of aiomysql.Pool or aiomysql.Connection"
  | postgresql => "db must be an instance of asyncpg.Pool or asyncpg.Connection"

end DriverKind

/-- An adapter over a handle, and what it knows of its connections. -/
structure Adapter where
  driver : DriverKind
  settings : Settings
  pooled : Bool
  /-- Whether changes on an SQLite connection are committed one by one. -/
  commits : Bool
  /-- The server processes that connections lead to, one after another and then all over again. -/
  processes : List Int
  /-- How many connections were taken. -/
  connections : Nat
  /-- The server processes with codecs. -/
  registered : List Int
  deriving Repr

namespace Adapter

/-- An adapter over a handle that no statement has been run on. -/
def make (driver : DriverKind) (handle : HandleKind) (settings : Settings) (commits : Bool)
    (processes : List Int) : Outcome Adapter :=
  let made (pooled : Bool) : Outcome Adapter := .ok ⟨driver, settings, pooled, commits, processes, 0, []⟩
  match driver, handle with
  | _, .connection => made false
  | .mysql, .pool | .postgresql, .pool => made true
  | _, _ => .error (.misuse (.handleKind driver.acceptedHandles))

def store (a : Adapter) : Store := ⟨a.driver.dialect, a.settings⟩

/-- The server process of the next connection. -/
def process (a : Adapter) : Int :=
  if a.processes.isEmpty then 1
  else (a.processes[a.connections % a.processes.length]?).getD 1

/-- The calls of a statement on the handle. -/
def perform (a : Adapter) (h : Handle) (kind : RequestKind) (sql : String) (params : List Value) :
    Attempt kind.Answer :=
  match a.driver with
  | .sqlite => Sqlite.perform h a.commits kind sql params
  | .mysql => MySql.perform h a.pooled kind sql params
  | .postgresql => PostgreSql.perform h a.pooled a.registered a.process kind sql params

/-- The adapter after a statement. -/
def after (a : Adapter) (h : Handle) : Adapter :=
  { a with
    connections :=
      if a.pooled && PostgreSql.connects h a.pooled then a.connections + 1 else a.connections
    registered := PostgreSql.registeredAfter h a.pooled a.registered a.process }

/-- Runs a statement: the calls on the handle, how it ends, and the adapter after it. A statement that
    cannot be rendered, or is not started, makes no call. -/
def send (a : Adapter) (h : Handle) (r : Request) : Attempt r.kind.Answer × Adapter :=
  match a.store.render r.statement with
  | .error f => (Attempt.fail f, a)
  | .ok (sql, params) =>
    let limit := a.store.limit r.timeout
    match Store.notStarted? r.kind limit with
    | some f => (Attempt.fail f, a)
    | none =>
      let attempt := a.perform h r.kind sql params
      (⟨attempt.calls, attempt.outcome.mapError (Store.refusal r.kind limit)⟩, a.after h)

end Adapter

end TableQuery
