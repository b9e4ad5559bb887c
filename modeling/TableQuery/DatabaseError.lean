import TableQuery.Value.Display

/-! Errors of the store in terms that do not depend on the store, and the errors that drivers raise. -/

namespace TableQuery

/-- What went wrong in the store. -/
inductive ErrorKind
  | notFound
  | duplicate
  | foreignKey
  | nullConstraint
  | dataTooLong
  | constraintFailed
  /-- An error of the store that is not recognised. -/
  | unrecognised
  | timeout
  /-- An error of the store of no stated kind. -/
  | unspecified
  deriving DecidableEq, Repr, Inhabited

namespace ErrorKind

def all : List ErrorKind :=
  [notFound, duplicate, foreignKey, nullConstraint, dataTooLong, constraintFailed, unrecognised, timeout,
   unspecified]

/-- The name of an error of the kind. -/
def name : ErrorKind → String
  | notFound => "ObjectNotFoundException"
  | duplicate => "KeyAlreadyExistsException"
  | foreignKey => "ForeignKeyViolationException"
  | nullConstraint => "NullConstraintViolationException"
  | dataTooLong => "DataTooLongException"
  | constraintFailed => "ConstraintFailedException"
  | unrecognised => "GenericDatabaseException"
  | timeout => "QueryTimeoutException"
  | unspecified => "DatabaseException"

/-- The kind of a named error. -/
def ofName? (s : String) : Option ErrorKind := all.find? fun k => k.name = s

/-- The code that callers see; it is the same for every store. -/
def code : ErrorKind → String
  | notFound => "RECORD_NOT_FOUND"
  | duplicate => "DUPLICATE_ENTRY"
  | foreignKey => "FOREIGN_KEY_CONSTRAINT"
  | nullConstraint => "NULL_CONSTRAINT"
  | dataTooLong => "DATA_TOO_LONG"
  | constraintFailed => "CONSTRAINT_FAILED"
  | unrecognised => "DATABASE_ERROR"
  | timeout => "QUERY_TIMEOUT"
  | unspecified => "DATABASE_ERROR"

/-- The message where nothing better is known. -/
def defaultMessage : ErrorKind → String
  | notFound => "The requested object was not found."
  | duplicate => "An object with the same key already exists."
  | foreignKey => "Foreign key constraint violation."
  | nullConstraint => "Required field is missing."
  | dataTooLong => "Data exceeds maximum length."
  | constraintFailed => "Constraint check failed."
  | unrecognised => "Database operation failed."
  | timeout => "The database operation timed out."
  | unspecified => "Database operation failed."

end ErrorKind

/-- An error of the store: its kind, a message, which is text unless someone states something else, and
    the field and value that it is about, null where they are not known. -/
structure DatabaseError where
  kind : ErrorKind
  message : Value
  field : Value
  value : Value
  deriving Repr, Inhabited

namespace DatabaseError

/-- An error with a message as it is stated; one that says nothing is replaced by the default one. -/
def state (kind : ErrorKind) (message field value : Value) : DatabaseError :=
  ⟨kind, if message.isFalsy then .text kind.defaultMessage else message, field, value⟩

/-- An error with a message of its own; an empty message is replaced by the default one. -/
def make (kind : ErrorKind) (message : String) (field value : Value) : DatabaseError :=
  state kind (.text message) field value

/-- An error of which only the kind is known. -/
def bare (kind : ErrorKind) : DatabaseError := make kind "" .null .null

/-- An error about a field. -/
def about (kind : ErrorKind) (message field : String) : DatabaseError :=
  make kind message (.text field) .null

def code (e : DatabaseError) : String := e.kind.code

/-- The code, the message, and the field if one is known. -/
def shown (e : DatabaseError) : String :=
  e.code ++ ": " ++ e.message.display ++
    (if e.field.isFalsy then "" else " (field: " ++ e.field.display ++ ")")

/-- The parts that are handed to clients: code, message, and the field if one is known. -/
def toEntries (e : DatabaseError) : List (String × Value) :=
  [("code", .text e.code), ("message", e.message)] ++
    (if e.field.isFalsy then [] else [("field", e.field)])

end DatabaseError

/-- The attributes that some drivers attach to an error. -/
structure ErrorAttributes where
  sqlstate : Option Value
  detail : Option Value
  columnName : Option Value
  constraintName : Option Value
  deriving Repr, Inhabited

/-- An error as a driver raises it: the name of its type, its arguments, and its attributes. -/
structure DriverError where
  name : String
  arguments : List Value
  attributes : ErrorAttributes
  deriving Repr, Inhabited

namespace ErrorAttributes

/-- No attributes. -/
def none : ErrorAttributes := ⟨.none, .none, .none, .none⟩

end ErrorAttributes

namespace DriverError

/-- The text of arguments: nothing, the only one, or all of them in full. -/
def shownArguments (arguments : List Value) : String :=
  match arguments with
  | [] => ""
  | [a] => a.display
  | as => (Value.tuple as).inFull

/-- The text of the error. -/
def shown (e : DriverError) : String := shownArguments e.arguments

end DriverError

end TableQuery
