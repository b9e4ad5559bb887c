import TableQuery.Failure
import TableQuery.Text.Pattern
import TableQuery.Text.WordChar

/-! Classification: what a driver raises becomes an error of the store. The five-character state of a
    PostgreSQL error decides first, then the number of a MySQL error, then the wording of SQLite, then
    words that are known from MySQL; anything else keeps its text. -/

namespace TableQuery

namespace Classification

/-! ### Fields -/

/-- What is left of a name once the first fitting beginning is taken off. -/
def withoutFront (fronts : List String) (s : String) : String :=
  match fronts.findSome? fun f => stripFront? f.toList s.toList with
  | some rest => String.ofList rest
  | none => s

/-- The field that a unique key is about, from the name of the key: `id` for a primary key, else the part
    after the last underscore once the table and a customary beginning are taken off. -/
def fieldOfKey (key : String) : String :=
  if key = "PRIMARY" || endsWith ".PRIMARY".toList key.toList then "id"
  else
    let key := if key.toList.contains '.' then afterLast '.' key else key
    afterLast '_' (withoutFront ["uk_", "idx_", "uniq_"] key)

/-- The column of a name with its table in front. -/
def columnOf (qualified : String) : String := afterLast '.' qualified

/-! ### Messages of MySQL -/

def notQuote (c : Char) : Bool := c ≠ '\''

def exactly (s : String) : PatternPart := .exactly s.toList

def duplicatePattern : List PatternPart :=
  [exactly "Duplicate entry '", .run notQuote, exactly "' for key '", .run1 notQuote, exactly "'"]

def foreignKeyPattern : List PatternPart :=
  [exactly "FOREIGN KEY (\x60", .run1 (· ≠ '\x60'), exactly "\x60)"]

def nullPattern : List PatternPart :=
  [exactly "Column '", .run1 notQuote, exactly "' cannot be null"]

def tooLongPattern : List PatternPart :=
  [exactly "Data too long for column '", .run1 notQuote, exactly "'"]

def checkPattern : List PatternPart :=
  [exactly "Check constraint '", .run1 notQuote, exactly "' is violated"]

/-- The one capture of a pattern. -/
def capture? (pattern : List PatternPart) (message : String) : Option String :=
  match PatternPart.search pattern message with
  | some [s] => some s
  | _ => none

def stillReferenced : String := "record is still referenced by other records"

def duplicateValue (value field : String) : String :=
  "duplicate value '" ++ value ++ "' for field '" ++ field ++ "'"

def missingReference (field : String) : String :=
  "referenced record for '" ++ field ++ "' does not exist"

def cannotBeNull (field : String) : String := "field '" ++ field ++ "' cannot be null"

def valueTooLong (field : String) : String := "value too long for field '" ++ field ++ "'"

def checkFailed (name : String) : String := "check constraint '" ++ name ++ "' failed"

def ofDuplicate (message : String) : DatabaseError :=
  match PatternPart.search duplicatePattern message with
  | some [value, key] =>
    let field := fieldOfKey key
    .make .duplicate (duplicateValue value field) (.text field) (.text value)
  | _ => .bare .duplicate

def ofForeignKey (message : String) : DatabaseError :=
  match capture? foreignKeyPattern message with
  | some field => .about .foreignKey (missingReference field) field
  | none => .bare .foreignKey

def ofReferenced (message : String) : DatabaseError :=
  match capture? foreignKeyPattern message with
  | some field => .about .constraintFailed stillReferenced field
  | none => .make .constraintFailed stillReferenced .null .null

def ofNull (message : String) : DatabaseError :=
  match capture? nullPattern message with
  | some field => .about .nullConstraint (cannotBeNull field) field
  | none => .bare .nullConstraint

def ofTooLong (message : String) : DatabaseError :=
  match capture? tooLongPattern message with
  | some field => .about .dataTooLong (valueTooLong field) field
  | none => .bare .dataTooLong

def ofCheck (message : String) : DatabaseError :=
  match capture? checkPattern message with
  | some name => .about .constraintFailed (checkFailed name) name
  | none => .bare .constraintFailed

/-- The reading of a message that goes with an error number. -/
def byNumber? (number : Int) : Option (String → DatabaseError) :=
  if number = 1062 then some ofDuplicate
  else if number = 1452 then some ofForeignKey
  else if number = 1451 then some ofReferenced
  else if number = 1048 then some ofNull
  else if number = 1406 then some ofTooLong
  else if number = 3819 then some ofCheck
  else none

/-- An error with a number and a message as its first two arguments. -/
def ofNumber? (e : DriverError) : Option DatabaseError :=
  match e.arguments with
  | .int number :: message :: _ => (byNumber? number).map fun read => read message.display
  | _ => none

/-! ### States of PostgreSQL -/

def keyDetailPattern : List PatternPart :=
  [exactly "Key (", .run1 (· ≠ ')'), exactly ")=(", .upToLast ')', exactly ")"]

/-- The text of an attribute; an attribute that is absent or says nothing has the empty text. Of one that
    is no text, `bytes` and `other` say what is wrong. -/
def attributeText (a : Option Value) (bytes : Misuse) (other : String → Misuse) : Outcome String :=
  match a with
  | none => .ok ""
  | some v =>
    if v.isFalsy then .ok ""
    else match v with
      | .text s => .ok s
      | .bytes _ => .error (.misuse bytes)
      | v => .error (.misuse (other v.fullKindName))

/-- The detail of an error. -/
def detailOf (a : ErrorAttributes) : Outcome String := attributeText a.detail .searchBytes .searchKind

/-- The name of the constraint that an error is about. -/
def constraintOf (a : ErrorAttributes) : Outcome String :=
  attributeText a.constraintName .endOfBytes fun kind => .noPart kind "endswith"

/-- Field and value that a detail names. -/
def keyDetail? (detail : String) : Option (String × String) :=
  match PatternPart.search keyDetailPattern detail with
  | some [field, value] => some (field, value)
  | _ => none

/-- The field that a constraint is about, from the name of the constraint. -/
def fieldOfConstraint? (constraint : String) : Option String :=
  if endsWith "_pkey".toList constraint.toList then some "id"
  else if endsWith "_key".toList constraint.toList then
    some (fieldOfKey (String.ofList (constraint.toList.take (constraint.length - 4))))
  else none

/-- An error about what an attribute names, with the attribute itself as its field. -/
def ofAttribute (kind : ErrorKind) (wording : String → String) (a : Option Value) : DatabaseError :=
  let v := a.getD .null
  .make kind (if v.isFalsy then "" else wording v.display) v .null

/-- A text that may be absent, as a value. -/
def textOrNull (s : Option String) : Value :=
  match s with
  | some s => .text s
  | none => .null

/-- An error about a key that is there already. -/
def ofDuplicateKey (a : ErrorAttributes) : Outcome DatabaseError := do
  match keyDetail? (← detailOf a) with
  | some (field, value) =>
    .ok (.make .duplicate (if value.isEmpty then "" else duplicateValue value field) (.text field)
      (.text value))
  | none => .ok (.make .duplicate "" (textOrNull (fieldOfConstraint? (← constraintOf a))) .null)

/-- An error about a key of another table: it is still used there, or it is not there. -/
def ofForeignReference (a : ErrorAttributes) : Outcome DatabaseError := do
  let detail ← detailOf a
  let field := (keyDetail? detail).map Prod.fst
  if occursInText "still referenced" detail then
    .ok (.make .constraintFailed stillReferenced (textOrNull field) .null)
  else match field with
    | some f => .ok (.about .foreignKey (missingReference f) f)
    | none => .ok (.bare .foreignKey)

/-- An error with one of the known states. -/
def ofState? (a : ErrorAttributes) : Outcome (Option DatabaseError) :=
  match a.sqlstate with
  | some (.text state) =>
    if state = "23505" then (ofDuplicateKey a).map some
    else if state = "23503" then (ofForeignReference a).map some
    else if state = "23502" then .ok (some (ofAttribute .nullConstraint cannotBeNull a.columnName))
    else if state = "22001" then .ok (some (ofAttribute .dataTooLong valueTooLong a.columnName))
    else if state = "23514" then .ok (some (ofAttribute .constraintFailed checkFailed a.constraintName))
    else .ok none
  | _ => .ok none

/-! ### Wording -/

def isNameOrDot (c : Char) : Bool := isWordChar c || c = '.'

def uniquePattern : List PatternPart :=
  [exactly "UNIQUE constraint failed: ", .run1 isNameOrDot]

def notNullPattern : List PatternPart :=
  [exactly "NOT NULL constraint failed: ", .run1 isNameOrDot]

def checkWordPattern : List PatternPart :=
  [exactly "CHECK constraint failed:", .optional ' ', .run isWordChar]

/-- An error in the wording of SQLite. -/
def ofWording? (message : String) : Option DatabaseError :=
  match capture? uniquePattern message with
  | some name =>
    let field := columnOf name
    some (.about .duplicate ("duplicate value for field '" ++ field ++ "'") field)
  | none =>
    if occursInText "FOREIGN KEY constraint failed" message then some (.bare .foreignKey)
    else match capture? notNullPattern message with
      | some name =>
        let field := columnOf name
        some (.about .nullConstraint (cannotBeNull field) field)
      | none => match capture? checkWordPattern message with
        | some name =>
          some (if name.isEmpty then .bare .constraintFailed
            else .about .constraintFailed (checkFailed name) name)
        | none => none

/-- Words by which messages of MySQL are known without their number. -/
def ofWords? (message : String) : Option DatabaseError :=
  let mentions (words : List String) : Bool := words.any fun w => occursInText w message
  if mentions ["Error 1062", "Duplicate entry"] then some (ofDuplicate message)
  else if mentions ["Error 1452", "a foreign key constraint fails"] then some (ofForeignKey message)
  else if mentions ["Error 1451", "Cannot delete or update a parent row"] then some (ofReferenced message)
  else if mentions ["Error 1048", "cannot be null"] then some (ofNull message)
  else if mentions ["Error 1406", "Data too long"] then some (ofTooLong message)
  else none

/-- An error known by its text alone; one that is not recognised keeps its text, or the name of its type
    if it has none. -/
def ofText (message name : String) : DatabaseError :=
  match (ofWording? message).orElse fun _ => ofWords? message with
  | some e => e
  | none => .make .unrecognised (if message.isEmpty then name else message) .null .null

end Classification

open Classification in
/-- The error of the store that an error with arguments and attributes amounts to. -/
def DriverError.classify (e : DriverError) : Outcome DatabaseError := do
  match ← ofState? e.attributes with
  | some d => .ok d
  | none => match ofNumber? e with
    | some d => .ok d
    | none => .ok (ofText e.shown e.name)

namespace Failure

/-- The error of the store that a failure amounts to, where attributes may be attached to any failure. -/
def classifyWith (attached : ErrorAttributes) (f : Failure) : Outcome DatabaseError :=
  match f with
  | .database e _ => .ok e
  | .timeout _ => .ok (.bare .timeout)
  | f => DriverError.classify { f.toDriverError with attributes := attached }

/-- The error of the store that a failure amounts to. -/
def classify (f : Failure) : Outcome DatabaseError := f.classifyWith f.toDriverError.attributes

/-- Whether a failure reaches the caller as it is: errors of this library, and giving up. -/
def isOwn : Failure → Bool
  | .database .. | .engine _ | .query _ | .cancelled => true
  | _ => false

/-- The failure that the caller sees of one that a driver call ended with: its own errors as they are,
    all others as an error of the store, with what was raised as its cause. -/
def wrap (f : Failure) : Failure :=
  if f.isOwn then f
  else match f.classify with
    | .ok d => .database d (some f)
    | .error g => g

end Failure

end TableQuery
