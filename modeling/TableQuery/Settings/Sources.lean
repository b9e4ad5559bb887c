import TableQuery.Json.Reader
import TableQuery.Model.Validation
import TableQuery.Settings

/-! Where settings come from: arguments, then variables of the environment, then defaults. Names of
    variables are the names of the settings in any case; a list is given there as JSON text. -/

namespace TableQuery

namespace Settings

/-- The names of the settings, in the order in which problems with them are reported. -/
def names : List String :=
  ["default_page", "default_page_size", "max_limit", "empty_value_fields", "default_timeout", "log_sql"]

/-- The variable of a setting. Of several that differ in case only the last counts. -/
def findVariable? (environment : List (String × Value)) (name : String) : Option Value :=
  (environment.reverse.find? fun (n, _) => String.ofList (n.toList.map Char.toLower) = name).map Prod.snd

/-- The value that a variable stands for. -/
def ofVariable (name : String) (v : Value) : Outcome Value :=
  if name = "empty_value_fields" then
    match v with
    | .text s => match Json.read s with
      | .ok v => .ok v
      | .error _ => .error .unreadableSetting
    | v => .ok v
  else .ok v

/-- The settings that variables give. -/
def ofEnvironment (environment : List (String × Value)) : Outcome (List (String × Value)) :=
  names.filterMapM fun name =>
    match findVariable? environment name with
    | some v => do
      let v ← ofVariable name v
      .ok (some (name, v))
    | none => .ok none

/-- A problem with a setting. -/
def problem {α : Type} (name kind : String) : Checked α :=
  Checked.under (.key name) (Checked.problem kind)

/-- The result of checking a setting, under its name. -/
def value (name : String) (c : Checked Fitted) : Checked Value :=
  Checked.under (.key name) (c.map Fitted.value)

/-- A whole number from one up. -/
def positive (given : List (String × Value)) (name : String) (standard : Nat) : Checked Nat :=
  match Row.get? given name with
  | none => .ok standard
  | some v => do
    match ← value name (Scalar.int v) with
    | .int n => if n < 1 then problem name "greater_than_equal" else .ok n.toNat
    | _ => problem name "int_type"

/-- A list of names. -/
def texts (given : List (String × Value)) (name : String) (standard : List String) :
    Checked (List String) :=
  match Row.get? given name with
  | none => .ok standard
  | some v => do
    match ← value name (FieldType.check (.listOf false .text) v) with
    | .list xs => .ok (xs.map Value.display)
    | _ => problem name "list_type"

/-- A number of seconds that is not zero or below, or none. -/
def seconds (given : List (String × Value)) (name : String) : Checked (Option Double) :=
  match Row.get? given name with
  | none | some .null => .ok none
  | some v => do
    match ← value name (Scalar.float v) with
    | .double x => if x.isZero || x.isNegative then problem name "greater_than" else .ok (some x)
    | _ => problem name "float_type"

/-- A truth value. -/
def flag (given : List (String × Value)) (name : String) : Checked Bool :=
  match Row.get? given name with
  | none => .ok false
  | some v => do
    match ← value name (Scalar.bool v) with
    | .bool b => .ok b
    | _ => problem name "bool_type"

/-- Settings from named values; all problems are reported. -/
def ofEntries (given : List (String × Value)) : Outcome Settings :=
  let defaultPage := positive given "default_page" standard.defaultPage
  let defaultPageSize := positive given "default_page_size" standard.defaultPageSize
  let maxLimit := positive given "max_limit" standard.maxLimit
  let emptyValueFields := texts given "empty_value_fields" standard.emptyValueFields
  let defaultTimeout := seconds given "default_timeout"
  let logSql := flag given "log_sql"
  match defaultPage, defaultPageSize, maxLimit, emptyValueFields, defaultTimeout, logSql with
  | .ok a, .ok b, .ok c, .ok d, .ok e, .ok f => .ok ⟨a, b, c, d, e, f⟩
  | a, b, c, d, e, f =>
    .error (.invalidRecord
      (Checked.problems a ++ Checked.problems b ++ Checked.problems c ++ Checked.problems d ++
        Checked.problems e ++ Checked.problems f))

/-- Settings from arguments and the environment. -/
def load (arguments environment : List (String × Value)) : Outcome Settings := do
  let fromEnvironment ← ofEnvironment environment
  ofEntries (arguments ++ fromEnvironment)

end Settings

end TableQuery
