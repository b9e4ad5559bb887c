import TableQuery.Number.Shortest
import TableQuery.Text.Pieces
import TableQuery.Text.Quoted
import TableQuery.Value.Basic

/-! How values are shown: plainly, as in patterns and in the middle of messages, and in full, as inside
    containers. -/

namespace TableQuery

namespace Calendar

/-- The offset of a time in full. -/
def offsetDisplay (micros : Int) : String :=
  if micros = 0 then "datetime.timezone.utc"
  else
    let total := micros.natAbs
    let days : Int := if micros < 0 then Int.fdiv micros 86400000000 else 0
    let rest := (micros - days * 86400000000).natAbs
    let seconds := rest / 1000000
    let fraction := rest % 1000000
    let parts :=
      (if days ≠ 0 then ["days=" ++ intText days] else []) ++
      (if seconds ≠ 0 then ["seconds=" ++ natText seconds] else []) ++
      (if fraction ≠ 0 then ["microseconds=" ++ natText fraction] else [])
    let shown := if total = 0 then "0" else joinWith ", " parts
    "datetime.timezone(datetime.timedelta(" ++ shown ++ "))"

/-- The parts of a time of day that are shown: hour and minute always, later parts when they hold
    something. -/
def clockParts (c : Clock) : List String :=
  [natText c.hour, natText c.minute] ++
  (if c.second ≠ 0 ∨ c.microsecond ≠ 0 then [natText c.second] else []) ++
  (if c.microsecond ≠ 0 then [natText c.microsecond] else []) ++
  (match c.offset with
    | some o => ["tzinfo=" ++ offsetDisplay o]
    | none => [])

def dateParts (d : Date) : List String := [natText d.year, natText d.month, natText d.day]

end Calendar

namespace Value

mutual

/-- A value in full. -/
def inFull : Value → String
  | .null => "None"
  | .bool b => if b then "True" else "False"
  | .int n => intText n
  | .double x => x.text
  | .decimal d => "Decimal('" ++ d.text ++ "')"
  | .text s => quoted s
  | .bytes bs => quotedBytes bs
  | .date d => "datetime.date(" ++ joinWith ", " (Calendar.dateParts d) ++ ")"
  | .clock c => "datetime.time(" ++ joinWith ", " (Calendar.clockParts c) ++ ")"
  | .instant i =>
    "datetime.datetime(" ++ joinWith ", " (Calendar.dateParts i.date ++ Calendar.clockParts i.clock) ++
      ")"
  | .uuid s => "UUID('" ++ s ++ "')"
  | .list xs => "[" ++ joinWith ", " (itemsInFull xs) ++ "]"
  | .tuple xs => match xs with
    | [x] => "(" ++ inFull x ++ ",)"
    | xs => "(" ++ joinWith ", " (itemsInFull xs) ++ ")"
  | .set frozen xs =>
    let body := if xs.isEmpty then "" else "\x7b" ++ joinWith ", " (itemsInFull xs) ++ "\x7d"
    if frozen then "frozenset(" ++ body ++ ")"
    else if xs.isEmpty then "set()" else body
  | .dict es => "\x7b" ++ joinWith ", " (entriesInFull es) ++ "\x7d"
  | .members xs => match xs with
    | [x] => "InValues(items=(" ++ inFull x ++ ",))"
    | xs => "InValues(items=(" ++ joinWith ", " (itemsInFull xs) ++ "))"
  | .enum kind name v => "<" ++ kind ++ "." ++ name ++ ": " ++ inFull v ++ ">"
  | .record kind fs => kind ++ "(" ++ joinWith ", " (fieldsInFull fs) ++ ")"
  | .bag fs => "namespace(" ++ joinWith ", " (fieldsInFull fs) ++ ")"
  | .entity layout fs => layout.model ++ "(" ++ joinWith ", " (fieldsInFull fs) ++ ")"
  | .model name => "<class '" ++ name ++ "'>"

def itemsInFull : List Value → List String
  | [] => []
  | x :: xs => inFull x :: itemsInFull xs

/-- Entries of a dictionary, as `key: value`. -/
def entriesInFull : List (String × Value) → List String
  | [] => []
  | (k, v) :: es => (quoted k ++ ": " ++ inFull v) :: entriesInFull es

/-- Fields of a record, as `name=value`. -/
def fieldsInFull : List (String × Value) → List String
  | [] => []
  | (k, v) :: es => (k ++ "=" ++ inFull v) :: fieldsInFull es

end

/-- A value as it is shown plainly. -/
def display : Value → String
  | .text s => s
  | .decimal d => d.text
  | .date d => d.text
  | .clock c => c.text
  | .instant i => i.textWith " "
  | .uuid s => s
  | .enum kind name _ => kind ++ "." ++ name
  | .entity _ fs => joinWith " " (fieldsInFull fs)
  | v => inFull v

end Value

end TableQuery
