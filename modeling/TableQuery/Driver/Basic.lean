import TableQuery.Failure
import TableQuery.Program

/-! Drivers: the calls that a statement takes on a driver's handle, and attempts, which record the calls
    made up to a result or a failure. A clean-up is made in either case. -/

namespace TableQuery

/-- A call on a driver's handle. -/
inductive DriverCall
  /-- Takes a connection from a pool. -/
  | acquire
  /-- Sets up how values of a JSON type are written and read. -/
  | setCodec (type : String)
  | openCursor
  | execute (sql : String) (params : List Value)
  /-- Runs a statement and answers its rows. -/
  | fetch (sql : String) (params : List Value)
  /-- Runs a statement and answers a single value. -/
  | fetchValue (sql : String) (params : List Value)
  | fetchAll
  | fetchOne
  | commit
  | rollback
  | closeCursor
  /-- Gives a connection back to its pool. -/
  | release
  deriving Repr

/-- What a handle does in the course of one statement: the calls that fail, and what the others yield. -/
structure Handle where
  fails : DriverCall → Option Failure
  rows : List Row
  value : Value
  rowCount : Value
  lastRowId : Value
  /-- The tag with which PostgreSQL reports what a statement did. -/
  status : Value

/-- An attempt: the calls made, in order, and how it ends. -/
structure Attempt (α : Type) where
  calls : List DriverCall
  outcome : Outcome α

namespace Attempt

/-- One attempt after another; a failure ends it. -/
def bind {α β : Type} (p : Attempt α) (k : α → Attempt β) : Attempt β :=
  match p.outcome with
  | .ok a => ⟨p.calls ++ (k a).calls, (k a).outcome⟩
  | .error f => ⟨p.calls, .error f⟩

instance : Monad Attempt where
  pure a := ⟨[], .ok a⟩
  bind := bind

/-- The attempt that fails without a call. -/
def fail {α : Type} (f : Failure) : Attempt α := ⟨[], .error f⟩

/-- An attempt with a clean-up after it, however it ends. A failure of the clean-up takes the place of
    what came before. -/
def ensuring {α : Type} (p : Attempt α) (cleanup : Attempt Unit) : Attempt α :=
  ⟨p.calls ++ cleanup.calls, match cleanup.outcome with
    | .ok _ => p.outcome
    | .error f => .error f⟩

/-- Whether a failure is an error; giving up is none. -/
def isError : Failure → Bool
  | .cancelled => false
  | _ => true

/-- An attempt with a further step after an error. Its own error takes the place of the first one. -/
def onError {α : Type} (p : Attempt α) (step : Attempt Unit) : Attempt α :=
  match p.outcome with
  | .ok _ => p
  | .error f => if isError f then p.ensuring step else p

/-- An attempt whose errors are passed over. -/
def quietly (p : Attempt Unit) : Attempt Unit :=
  match p.outcome with
  | .ok _ => p
  | .error f => if isError f then ⟨p.calls, .ok ()⟩ else p

end Attempt

namespace Handle

/-- Makes one call. -/
def call (h : Handle) (c : DriverCall) : Attempt Unit :=
  ⟨[c], match h.fails c with
    | some f => .error f
    | none => .ok ()⟩

/-- Makes one call that yields something. -/
def callFor {α : Type} (h : Handle) (c : DriverCall) (a : α) : Attempt α := do
  h.call c
  pure a

/-- The first column of the first row, null without one. -/
def firstColumn (h : Handle) : Value :=
  match h.rows with
  | ((_, v) :: _) :: _ => v
  | _ => .null

end Handle

end TableQuery
