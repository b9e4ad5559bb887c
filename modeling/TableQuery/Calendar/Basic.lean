import TableQuery.Number.Rounding

/-! Dates, times of day and instants, and their ISO 8601 text. -/

namespace TableQuery

/-- A calendar day. -/
structure Date where
  year : Nat
  month : Nat
  day : Nat
  deriving DecidableEq, Repr, Inhabited

/-- A time of day, with an offset from universal time in microseconds when it has one. -/
structure Clock where
  hour : Nat
  minute : Nat
  second : Nat
  microsecond : Nat
  offset : Option Int
  deriving DecidableEq, Repr, Inhabited

/-- A day together with a time of day. -/
structure Instant where
  date : Date
  clock : Clock
  deriving DecidableEq, Repr, Inhabited

/-- Decimal digits with zeros in front up to a width. -/
def padded (width n : Nat) : String :=
  let digits := decimalDigits n
  String.ofList (List.replicate (width - digits.length) '0' ++ digits)

namespace Date

def isLeap (year : Nat) : Bool := year % 4 = 0 && (year % 100 ≠ 0 || year % 400 = 0)

def daysInMonth (year month : Nat) : Nat :=
  if month = 2 then (if isLeap year then 29 else 28)
  else if month = 4 ∨ month = 6 ∨ month = 9 ∨ month = 11 then 30 else 31

def isValid (d : Date) : Bool :=
  1 ≤ d.year && d.year ≤ 9999 && 1 ≤ d.month && d.month ≤ 12 && 1 ≤ d.day &&
    d.day ≤ daysInMonth d.year d.month

/-- Days before the first of January of a year, counted from year one. -/
def daysBeforeYear (year : Nat) : Nat :=
  let y := year - 1
  y * 365 + y / 4 - y / 100 + y / 400

/-- Days before the first of a month within its year. -/
def daysBeforeMonth (year month : Nat) : Nat :=
  ((List.range (month - 1)).map fun m => daysInMonth year (m + 1)).foldl (· + ·) 0

/-- The number of a day, counted from the first day of year one, which is the first. -/
def ordinal (d : Date) : Nat := daysBeforeYear d.year + daysBeforeMonth d.year d.month + d.day

/-- The month and its day that lie a number of days behind the start of the first of some months. -/
def monthAndDay (year : Nat) : List Nat → Nat → Nat × Nat
  | [], days => (12, days + 1)
  | month :: months, days =>
    if days < daysInMonth year month then (month, days + 1)
    else monthAndDay year months (days - daysInMonth year month)

/-- The day of a number, which counts from one. The calendar repeats itself every 400 years; within them
    the last century, and within four years the last year, may be a day longer. -/
def ofOrdinal (n : Nat) : Date :=
  let days := n - 1
  let (fourCenturies, days) := (days / 146097, days % 146097)
  let centuries := min 3 (days / 36524)
  let days := days - centuries * 36524
  let (fourYears, days) := (days / 1461, days % 1461)
  let years := min 3 (days / 365)
  let days := days - years * 365
  let year := fourCenturies * 400 + centuries * 100 + fourYears * 4 + years + 1
  let (month, day) := monthAndDay year ((List.range 12).map (· + 1)) days
  ⟨year, month, day⟩

/-- The number of the Monday with which the weeks of a year start: the week of the fourth of January is
    the first. -/
def firstMonday (year : Nat) : Nat :=
  let fourth := daysBeforeYear year + 4
  fourth - (fourth + 6) % 7

def text (d : Date) : String :=
  padded 4 d.year ++ "-" ++ padded 2 d.month ++ "-" ++ padded 2 d.day

end Date

namespace Clock

def isValid (c : Clock) : Bool :=
  c.hour < 24 && c.minute < 60 && c.second < 60 && c.microsecond < 1000000

/-- An offset as `+HH:MM`, with seconds and their fraction only when there are any. -/
def offsetText (micros : Int) : String :=
  let sign := if micros < 0 then "-" else "+"
  let total := micros.natAbs
  let fraction := total % 1000000
  let seconds := total / 1000000
  let base := sign ++ padded 2 (seconds / 3600) ++ ":" ++ padded 2 (seconds / 60 % 60)
  if fraction ≠ 0 then base ++ ":" ++ padded 2 (seconds % 60) ++ "." ++ padded 6 fraction
  else if seconds % 60 ≠ 0 then base ++ ":" ++ padded 2 (seconds % 60)
  else base

/-- The time without its offset; a fraction has six digits and is written only when it is not zero. -/
def localText (c : Clock) : String :=
  let base := padded 2 c.hour ++ ":" ++ padded 2 c.minute ++ ":" ++ padded 2 c.second
  if c.microsecond = 0 then base else base ++ "." ++ padded 6 c.microsecond

def text (c : Clock) : String :=
  c.localText ++ (match c.offset with
    | some o => offsetText o
    | none => "")

/-- An offset to the minute: `Z` for universal time, else `+HH:MM`. Parts of a second are dropped, and
    then seconds. -/
def minuteOffsetText (micros : Int) : String :=
  let seconds := Int.fdiv micros 1000000
  if seconds = 0 then "Z"
  else
    let minutes := seconds.natAbs / 60
    (if seconds < 0 then "-" else "+") ++ padded 2 (minutes / 60) ++ ":" ++ padded 2 (minutes % 60)

/-- As `text`, but with the offset to the minute. -/
def zuluText (c : Clock) : String :=
  c.localText ++ (match c.offset with
    | some o => minuteOffsetText o
    | none => "")

/-- Microseconds since midnight, in universal time when the offset is known. -/
def sinceMidnight (c : Clock) : Int :=
  (((c.hour * 60 + c.minute) * 60 + c.second) * 1000000 + c.microsecond : Nat) - c.offset.getD 0

/-- Whether two times of day denote the same time. A time with an offset never equals one without. -/
def same (a b : Clock) : Bool :=
  a.offset.isSome == b.offset.isSome && a.sinceMidnight == b.sinceMidnight

end Clock

namespace Instant

/-- ISO text with the given separator between day and time. -/
def textWith (separator : String) (i : Instant) : String :=
  i.date.text ++ separator ++ i.clock.text

/-- ISO text. -/
def text (i : Instant) : String := i.textWith "T"

/-- ISO text with the offset to the minute. -/
def zuluText (i : Instant) : String := i.date.text ++ "T" ++ i.clock.zuluText

/-- Microseconds since the start of year one, in universal time when the offset is known. -/
def sinceEpoch (i : Instant) : Int :=
  (i.date.ordinal * 86400000000 : Nat) + i.clock.sinceMidnight

/-- Whether two instants are the same. One with an offset never equals one without. -/
def same (a b : Instant) : Bool :=
  a.clock.offset.isSome == b.clock.offset.isSome && a.sinceEpoch == b.sinceEpoch

end Instant

end TableQuery
