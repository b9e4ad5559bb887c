import TableQuery.Failure
import TableQuery.Sql.Select

/-! Programs: what an operation does, step by step. A program asks the store, draws keys from a
    generator, and ends with a result or a failure; what the store answers is left open. -/

namespace TableQuery

/-- What a statement that changes rows reports. -/
structure WriteResult where
  rowCount : Value
  lastRowId : Value
  rows : List Row
  deriving BEq, Repr, Inhabited

/-- The ways in which a statement is run. -/
inductive RequestKind
  /-- All rows. -/
  | rows
  /-- The first column of the first row. -/
  | value
  /-- A change of rows; `returning` says whether the changed rows are asked for. -/
  | write (returning : Bool)
  deriving DecidableEq, Repr

/-- What the store answers to a statement. -/
abbrev RequestKind.Answer : RequestKind → Type
  | rows => List Row
  | value => Value
  | write _ => WriteResult

/-- A statement to run, and the time that it may take: null for no limit of its own. -/
structure Request where
  kind : RequestKind
  statement : Statement
  timeout : Value
  deriving Repr

/-- A program that ends with a result of type `α`. -/
inductive Program (α : Type) : Type
  | done (a : α)
  | fail (f : Failure)
  /-- Runs a statement and goes on with the answer. -/
  | ask (r : Request) (next : r.kind.Answer → Program α)
  /-- Draws a key from the generator of the table. -/
  | draw (next : Value → Program α)

namespace Program

/-- One program after another. -/
def bind {α β : Type} (p : Program α) (k : α → Program β) : Program β :=
  match p with
  | done a => k a
  | fail f => fail f
  | ask r next => ask r fun answer => bind (next answer) k
  | draw next => draw fun v => bind (next v) k

instance : Monad Program where
  pure := done
  bind := bind

/-- A computation without statements. -/
def lift {α : Type} (r : Outcome α) : Program α :=
  match r with
  | .ok a => done a
  | .error f => fail f

/-- Asks for all rows. -/
def fetchRows (s : Statement) (timeout : Value) : Program (List Row) :=
  ask ⟨.rows, s, timeout⟩ done

/-- Asks for the first row. -/
def fetchRow? (s : Statement) (timeout : Value) : Program (Option Row) :=
  bind (fetchRows s timeout) fun rows => done rows.head?

/-- Asks for a single value. -/
def fetchValue (s : Statement) (timeout : Value) : Program Value :=
  ask ⟨.value, s, timeout⟩ done

/-- Changes rows. -/
def write (s : Statement) (returning : Bool) (timeout : Value) : Program WriteResult :=
  ask ⟨.write returning, s, timeout⟩ done

end Program

end TableQuery
