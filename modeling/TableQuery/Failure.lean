import TableQuery.DatabaseError
import TableQuery.Misuse
import TableQuery.Query.Error

/-! Failures: every way in which an operation can end without a result. -/

namespace TableQuery

/-- A step on the way to a value inside a record: a field name or a position. -/
inductive PathStep
  | key (name : String)
  | index (n : Nat)
  deriving DecidableEq, Repr

namespace PathStep

/-- A step as a value. -/
def toValue : PathStep → Value
  | key name => .text name
  | index n => .int n

end PathStep

/-- One thing that is wrong with a record: where, and what. -/
structure FieldProblem where
  path : List PathStep
  kind : String
  deriving DecidableEq, Repr

/-- Why an operation ends without a result. -/
inductive Failure
  /-- The query is refused. -/
  | query (e : QueryError)
  /-- The store reports an error; `cause` is what the driver raised, if this error was made from it. -/
  | database (e : DatabaseError) (cause : Option Failure)
  /-- An error of this library of no stated kind. -/
  | engine (arguments : List Value)
  /-- A record does not fit its model. -/
  | invalidRecord (problems : List FieldProblem)
  /-- The call cannot be carried out. -/
  | misuse (m : Misuse)
  /-- What a driver raised. -/
  | driver (e : DriverError)
  /-- The driver ran out of time. -/
  | timeout (arguments : List Value)
  /-- The caller gave up. -/
  | cancelled
  /-- Bytes that are not text. -/
  | undecodable
  /-- A value inside an entity has no written form; `kind` is the full name of its kind. -/
  | unwritable (kind : String)
  /-- The codecs of a connection could not be set up. -/
  | codecSetup
  /-- A setting of the environment cannot be read. -/
  | unreadableSetting
  deriving Repr, Inhabited

namespace Failure

/-- The text of a failure. -/
def shown : Failure → String
  | query e => e.message
  | database e _ => e.shown
  | engine arguments => DriverError.shownArguments arguments
  | invalidRecord _ => "validation failed"
  | misuse m => m.message
  | driver e => e.shown
  | timeout arguments => DriverError.shownArguments arguments
  | cancelled => ""
  | undecodable => "bytes are not text"
  | unwritable kind => "Unable to serialize unknown type: <class '" ++ kind ++ "'>"
  | codecSetup => "Failed to configure necessary PostgreSQL codecs."
  | unreadableSetting => "unreadable setting"

/-- The name under which callers know a failure. -/
def name : Failure → String
  | query e => e.family.name
  | database e _ => e.kind.name
  | engine _ => "QueryEngineException"
  | invalidRecord _ => "ValidationError"
  | misuse m => m.family.name
  | driver e => e.name
  | timeout _ => "TimeoutError"
  | cancelled => "CancelledError"
  | undecodable => "UnicodeDecodeError"
  | unwritable _ => "PydanticSerializationError"
  | codecSetup => "RuntimeError"
  | unreadableSetting => "SettingsError"

/-- The parts of a failure that callers can read, by name. -/
def parts : Failure → List (String × Value)
  | query e => [("message", e.statement), ("code", .text e.code), ("field", e.field)]
  | database e cause =>
    [("message", e.message), ("code", .text e.code), ("field", e.field), ("value", e.value),
     ("str", .text e.shown), ("dict", .dict e.toEntries),
     ("cause", match cause with
       | some f => .text f.name
       | none => .null)]
  | invalidRecord problems =>
    [("details", .list (problems.map fun p =>
      .list [.list (p.path.map PathStep.toValue), .text p.kind]))]
  | cancelled | undecodable | unreadableSetting => []
  | f => [("message", .text f.shown)]

/-- A failure as an error with arguments. Only errors of drivers have attributes. -/
def toDriverError (f : Failure) : DriverError :=
  match f with
  | driver e => e
  | query e => ⟨f.name, [e.statement], .none⟩
  | engine arguments => ⟨f.name, arguments, .none⟩
  | f => ⟨f.name, [.text f.shown], .none⟩

end Failure

/-- A computation that ends with a result or a failure. -/
abbrev Outcome (α : Type) := Except Failure α

namespace Failure

/-- Refuses a call with fewer arguments than it needs, the last of which has the given name, or with more
    than it takes. What the call is made on counts as an argument. -/
def checkArguments (call argument : String) (least most : Nat) (given : List Value) : Outcome Unit :=
  if most < given.length + 1 then
    .error (.misuse (.spareArguments call least most (given.length + 1)))
  else if given.length + 1 < least then .error (.misuse (.missingArgument call argument))
  else .ok ()

/-- What is raised, by its name and arguments. Errors of this library are told by name and take only so
    many arguments; any other is an error of the driver. -/
def ofRaised (e : DriverError) : Outcome Failure :=
  let argument (i : Nat) : Value := (e.arguments[i]?).getD .null
  match ErrorKind.ofName? e.name, QueryError.Family.ofName? e.name with
  | some kind, _ => do
    checkArguments "DatabaseException.__init__" "message" 1 4 e.arguments
    .ok (database (.state kind (argument 0) (argument 1) (argument 2)) none)
  | none, some .missingRequired => do
    checkArguments "MissingRequiredFieldError.__init__" "field" 2 2 e.arguments
    .ok (query (.missingRequired (argument 0)))
  | none, some family => do
    checkArguments "QueryValidationError.__init__" "message" 2 3 e.arguments
    .ok (query (.stated family (argument 0) (argument 1)))
  | none, none =>
    .ok (if e.name = "QueryEngineException" then engine e.arguments
      else if e.name = "TimeoutError" then timeout e.arguments
      else if e.name = "CancelledError" then cancelled
      else driver e)

end Failure

end TableQuery
