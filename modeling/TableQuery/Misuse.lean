import TableQuery.Text.Quoted
import TableQuery.Value.Basic

/-! Misuse: calls that cannot be carried out, whatever the store holds. -/

namespace TableQuery

/-- The families of misuse. -/
inductive Misuse.Family
  /-- A value is of a kind that cannot serve. -/
  | kind
  /-- A value of the right kind cannot serve. -/
  | value
  /-- An item that is not there is asked for. -/
  | index
  /-- A number is out of range. -/
  | overflow
  /-- A part that is not there is asked for. -/
  | part
  deriving DecidableEq, Repr

namespace Misuse.Family

/-- The name of a misuse of the family. -/
def name : Family → String
  | kind => "TypeError"
  | value => "ValueError"
  | index => "IndexError"
  | overflow => "OverflowError"
  | part => "AttributeError"

end Misuse.Family

/-- A call that cannot be carried out, by cause. -/
inductive Misuse
  | executorKind
  | tableKind (kind : String)
  | recordKind (kind : String)
  /-- The database handle is none of the two kinds that the adapter takes. -/
  | handleKind (accepted : String)
  /-- A value that cannot be a key is used as one. -/
  | unhashable (kind : String)
  /-- A signaling not-a-number is used as a key. -/
  | signalingKey
  /-- A call lacks the argument that it needs. -/
  | missingArgument (call argument : String)
  /-- A call has more arguments than it takes, which are `least` to `most`. -/
  | spareArguments (call : String) (least most given : Nat)
  /-- A call has an argument of a name that it does not know. -/
  | unknownArgument (call argument : String)
  /-- A value that is no text is searched for a pattern. -/
  | searchKind (kind : String)
  /-- Bytes are searched for a pattern of text. -/
  | searchBytes
  /-- Bytes are asked whether they end with a text. -/
  | endOfBytes
  | noPart (kind part : String)
  /-- A value without an order is compared with a number. -/
  | orderKind (kind : String)
  /-- A value is added to a time that cannot be. -/
  | timeKind (kind : String)
  | notIterable (kind : String)
  /-- A range has null in place of its two ends. -/
  | rangeOfNull
  /-- A range has the empty text in place of its two ends. -/
  | rangeOfEmptyText
  /-- There are fewer parameters than placeholders. -/
  | missingParameter (taken : Nat)
  /-- There are more parameters than placeholders. -/
  | spareParameters (placeholders parameters : Nat)
  /-- A value has no JSON text. -/
  | noJson (kind : String)
  /-- The store returned no row where the inserted one was asked for. -/
  | noReturnedRow
  /-- Text that is not a whole number, shown in full. -/
  | notInteger (shown : String)
  | tooManyDigits (digits : Nat)
  /-- A whole number has too many digits to be written. -/
  | longNumeral
  | integerKind (kind : String)
  | nanToInteger (name : String)
  | infinityToInteger (name : String)
  /-- Text that is not a number, shown in full. -/
  | notNumber (shown : String)
  | numberKind (kind : String)
  | signalingNumber
  /-- Bytes stand where text is needed. -/
  | bytesForText
  | quotientRange
  | integerRange
  | emptyRule
  | unrestrictedUpdate (table : String)
  | unrestrictedDelete (table : String)
  | nothingToInsert (table : String)
  deriving DecidableEq, Repr

namespace Misuse

def family : Misuse → Family
  | executorKind | tableKind _ | recordKind _ | handleKind _ | unhashable _ | notIterable _
  | rangeOfNull | noJson _ | integerKind _ | numberKind _ | bytesForText | signalingKey
  | missingArgument .. | spareArguments .. | unknownArgument .. | searchKind _ | searchBytes | endOfBytes
  | orderKind _ | timeKind _ => .kind
  | noPart .. => .part
  | noReturnedRow => .index
  | infinityToInteger _ | quotientRange | integerRange => .overflow
  | _ => .value

/-- The message that callers see. -/
def message : Misuse → String
  | executorKind => "executor must be an instance of ExecutionAdapter"
  | tableKind kind => "table must be a TableSpec or str, got " ++ kind
  | recordKind kind => "record must be a pydantic model or a mapping, got " ++ kind
  | handleKind accepted => accepted
  | unhashable kind => "unhashable type: '" ++ kind ++ "'"
  | signalingKey => "Cannot hash a signaling NaN value"
  | missingArgument call argument =>
    call ++ "() missing 1 required positional argument: '" ++ argument ++ "'"
  | spareArguments call least most given =>
    call ++ "() takes " ++
      (if least = most then natText most else "from " ++ natText least ++ " to " ++ natText most) ++
      " positional arguments but " ++ natText given ++ " were given"
  | unknownArgument call argument =>
    call ++ "() got an unexpected keyword argument '" ++ argument ++ "'"
  | searchKind kind => "expected string or bytes-like object, got '" ++ kind ++ "'"
  | searchBytes => "cannot use a string pattern on a bytes-like object"
  | endOfBytes => "endswith first arg must be bytes or a tuple of bytes, not str"
  | noPart kind part => "'" ++ kind ++ "' object has no attribute '" ++ part ++ "'"
  | orderKind kind => "'<=' not supported between instances of '" ++ kind ++ "' and 'int'"
  | timeKind kind => "unsupported operand type(s) for +: 'float' and '" ++ kind ++ "'"
  | notIterable kind => "'" ++ kind ++ "' object is not iterable"
  | rangeOfNull => "cannot unpack non-iterable NoneType object"
  | rangeOfEmptyText => "not enough values to unpack (expected 2, got 0)"
  | missingParameter taken =>
    "statement has more placeholders than parameters (" ++ natText taken ++ ")"
  | spareParameters placeholders parameters =>
    "statement has " ++ natText placeholders ++ " placeholders but " ++ natText parameters ++
      " parameters"
  | noJson kind => "Object of type " ++ kind ++ " is not JSON serializable"
  | noReturnedRow => "tuple index out of range"
  | notInteger shown =>
    "invalid literal for int() with base 10: " ++ String.ofList (shown.toList.take 200)
  | tooManyDigits digits =>
    "Exceeds the limit (4300 digits) for integer string conversion: value has " ++ natText digits ++
      " digits; use sys.set_int_max_str_digits() to increase the limit"
  | longNumeral =>
    "Exceeds the limit (4300 digits) for integer string conversion; " ++
      "use sys.set_int_max_str_digits() to increase the limit"
  | integerKind kind =>
    "int() argument must be a string, a bytes-like object or a real number, not '" ++ kind ++ "'"
  | nanToInteger name => "cannot convert " ++ name ++ " to integer"
  | infinityToInteger name => "cannot convert " ++ name ++ " to integer"
  | notNumber shown => "could not convert string to float: " ++ shown
  | numberKind kind => "float() argument must be a string or a real number, not '" ++ kind ++ "'"
  | bytesForText => "a bytes-like object is required, not 'str'"
  | signalingNumber => "cannot convert signaling NaN to float"
  | quotientRange => "integer division result too large for a float"
  | integerRange => "int too large to convert to float"
  | emptyRule => "a uniqueness rule needs at least one field"
  | unrestrictedUpdate table =>
    "Cannot update '" ++ table ++ "' without a filter (safety check)."
  | unrestrictedDelete table =>
    "Cannot delete from '" ++ table ++ "' without a filter (safety check)."
  | nothingToInsert table => "no columns left to insert into '" ++ table ++ "'"

end Misuse

end TableQuery
