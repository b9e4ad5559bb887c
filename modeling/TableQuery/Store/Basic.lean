import TableQuery.Classification
import TableQuery.Program
import TableQuery.Settings
import TableQuery.Sql.Rendering

/-! Stores as statements reach them: a dialect, and settings with a time limit. What a driver raises
    becomes an error of the store; a driver that runs out of time is reported with the limit. -/

namespace TableQuery

/-- A store. -/
structure Store where
  dialect : Dialect
  settings : Settings
  deriving Repr

namespace RequestKind

/-- What a statement is called when it runs out of time. -/
def context : RequestKind → String
  | rows => "select"
  | value => "scalar select"
  | write _ => "execute"

end RequestKind

namespace Store

/-- The time limit of a statement: its own, else that of the settings, else null. -/
def limit (st : Store) (timeout : Value) : Value :=
  if timeout.isNull then
    match st.settings.defaultTimeout with
    | some x => .double x
    | none => .null
  else timeout

/-- The error of a statement that ran out of time. -/
def timedOut (kind : RequestKind) (limit : Value) (arguments : List Value) : Failure :=
  .database
    (.make .timeout (kind.context ++ " exceeded timeout of " ++ limit.display ++ "s") .null .null)
    (some (.timeout arguments))

/-- The failure that the caller sees of one that a statement ended with. -/
def refusal (kind : RequestKind) (limit : Value) (f : Failure) : Failure :=
  match f with
  | .timeout arguments => timedOut kind limit arguments
  | f => f.wrap

/-- What is wrong with a limit, if it is none that a clock can keep. Decimals can be compared with zero but
    not added to the time. -/
def limitFault? (limit : Value) : Option Failure :=
  match limit with
  | .null | .bool _ | .double _ => none
  | .int n => if (Double.ofInt n).isFinite then none else some (.misuse .integerRange)
  | .decimal (.nan ..) =>
    some (.driver ⟨"InvalidOperation", [.text "[<class 'decimal.InvalidOperation'>]"], .none⟩)
  | .decimal _ => some (.misuse (.timeKind limit.fullKindName))
  | v => some (.misuse (.orderKind v.fullKindName))

/-- Whether a limit is over before anything is done. -/
def isOver (limit : Value) : Bool :=
  match limit with
  | .bool b => !b
  | .int n => n ≤ 0
  | .double x => x.isZero || x.isNegative
  | .decimal (.finite negative c _) => negative || c = 0
  | .decimal (.infinite negative) => negative
  | _ => false

/-- Why a statement is not started under a limit: its time is over, or the limit is none. -/
def notStarted? (kind : RequestKind) (limit : Value) : Option Failure :=
  if isOver limit then some (timedOut kind limit [])
  else (limitFault? limit).map (refusal kind limit)

/-- The text and parameters in which a statement reaches the driver. -/
def render (st : Store) (s : Statement) : Outcome (String × List Value) :=
  st.dialect.render s.sql s.params

end Store

end TableQuery
