import TableQuery.Calendar.Basic

/-! Reading ISO 8601 text of days, times of day and instants: with or without separators, with days of
    months or days of weeks, and with as many parts of the time as are given. -/

namespace TableQuery

/-- Reads exactly `count` ASCII digits. -/
def takeFixed (count : Nat) (cs : List Char) : Option (Nat × List Char) :=
  let ds := cs.take count
  if ds.length = count ∧ ds.all Char.isDigit then
    some (ds.foldl (fun n c => n * 10 + (c.toNat - 48)) 0, cs.drop count)
  else none

/-- Takes a separator off if there is to be one. -/
def afterSeparator (separator : Char) (isPresent : Bool) (cs : List Char) : Option (List Char) :=
  if isPresent then
    match cs with
    | c :: cs => if c = separator then some cs else none
    | [] => none
  else some cs

namespace Date

/-- A day by its year, week and day of the week, the first of which is Monday. The day has to lie in front
    of the first week of the next year. -/
def ofWeek? (year week day : Nat) : Option Date :=
  let n := firstMonday year + (week - 1) * 7 + (day - 1)
  let date := ofOrdinal n
  if 1 ≤ year ∧ 1 ≤ week ∧ 1 ≤ day ∧ day ≤ 7 ∧ n < firstMonday (year + 1) ∧ date.isValid then some date
  else none

/-- Reads `MM-DD` or `MMDD`, filling the text. -/
def readMonthAndDay (year : Nat) (separated : Bool) (cs : List Char) : Option Date := do
  let (month, cs) ← takeFixed 2 cs
  let cs ← afterSeparator '-' separated cs
  let (day, cs) ← takeFixed 2 cs
  let date : Date := ⟨year, month, day⟩
  if cs.isEmpty ∧ date.isValid then some date else none

/-- Reads the number of a week and perhaps of a day in it, filling the text. -/
def readWeek (year : Nat) (separated : Bool) (cs : List Char) : Option Date := do
  let (week, cs) ← takeFixed 2 cs
  if cs.isEmpty then ofWeek? year week 1
  else do
    let cs ← afterSeparator '-' separated cs
    let (day, cs) ← takeFixed 1 cs
    if cs.isEmpty then ofWeek? year week day else none

/-- Reads a day, filling the text. -/
def ofChars? (cs : List Char) : Option Date := do
  let (year, cs) ← takeFixed 4 cs
  let separated := cs.head? = some '-'
  match if separated then cs.drop 1 else cs with
  | 'W' :: cs => readWeek year separated cs
  | cs => readMonthAndDay year separated cs

/-- Reads a day. -/
def ofText? (text : String) : Option Date := ofChars? text.toList

end Date

namespace Clock

/-- The microseconds written by the digits of a fraction; digits past the sixth are dropped. -/
def fractionOf (ds : List Char) : Nat :=
  let six := (ds ++ List.replicate 6 '0').take 6
  six.foldl (fun n c => n * 10 + (c.toNat - 48)) 0

def startsFraction (c : Char) : Bool := c = '.' || c = ','

/-- Reads a fraction that fills the text; no text is zero. -/
def readFraction (cs : List Char) : Option Nat :=
  match cs with
  | [] => some 0
  | c :: ds =>
    if startsFraction c ∧ !ds.isEmpty ∧ ds.all Char.isDigit then some (fractionOf ds) else none

/-- Reads a part of two digits at the start of text. The text may have ended, or a fraction may stand in
    place of the part; then it is zero. -/
def takePart (separated : Bool) (cs : List Char) : Option (Nat × List Char) :=
  match cs with
  | [] => some (0, [])
  | c :: _ =>
    if startsFraction c then some (0, cs)
    else do
      let cs ← afterSeparator ':' separated cs
      takeFixed 2 cs

/-- Reads hours, perhaps with minutes, seconds and a fraction, filling the text. The parts may be out of
    their ranges. -/
def readParts (cs : List Char) : Option Clock := do
  let (hour, cs) ← takeFixed 2 cs
  let separated := cs.head? = some ':'
  let (minute, cs) ← takePart separated cs
  let (second, cs) ← takePart separated cs
  let micro ← readFraction cs
  some ⟨hour, minute, second, micro, none⟩

def startsOffset (c : Char) : Bool := c = '+' || c = '-' || c = 'Z'

/-- Reads an offset that fills the text: none, `Z`, or a sign and hours, perhaps with minutes, seconds and
    a fraction. One of less than a second counts as universal time. -/
def readOffset (cs : List Char) : Option (Option Int) :=
  match cs with
  | [] => some none
  | ['Z'] => some (some 0)
  | c :: cs => do
    let micros := (← readParts cs).sinceMidnight
    let micros := if micros < 1000000 then 0 else micros
    if c ≠ 'Z' ∧ micros < 86400000000 then some (some (if c = '-' then -micros else micros)) else none

/-- Reads a time of day with an optional offset, filling the text. -/
def ofChars? (cs : List Char) : Option Clock := do
  let parts ← readParts (cs.takeWhile fun c => !startsOffset c)
  let offset ← readOffset (cs.dropWhile fun c => !startsOffset c)
  let clock := { parts with offset }
  if clock.isValid then some clock else none

/-- Reads a time of day, which may be marked by a `T` in front. -/
def ofText? (text : String) : Option Clock :=
  match text.toList with
  | 'T' :: cs => ofChars? cs
  | cs => ofChars? cs

end Clock

namespace Instant

/-- The midnight with which a day starts, without an offset. -/
def midnight (d : Date) : Instant := ⟨d, ⟨0, 0, 0, 0, none⟩⟩

/-- How many characters of the text of an instant write its day; the character after them separates day
    and time. A week without separators is told from a day of a week by the number of digits that
    follow: those of the time come in pairs. A hyphen between two digits after a week separates the
    time. -/
def dayLength (cs : List Char) : Nat :=
  let at_ (i : Nat) : Char := (cs[i]?).getD ' '
  if cs.length = 7 then 7
  else if at_ 4 = '-' then
    if at_ 5 ≠ 'W' then 10
    else if at_ 8 = '-' ∧ !(at_ 10).isDigit then 10
    else 8
  else if at_ 4 = 'W' then
    let digits := ((cs.drop 7).takeWhile Char.isDigit).length
    if digits < 2 then 7 + digits else if digits % 2 = 0 then 8 else 7
  else 8

/-- Reads a day and perhaps a time of day, with any character between them. -/
def ofText? (text : String) : Option Instant := do
  let cs := text.toList
  let length := dayLength cs
  let date ← Date.ofChars? (cs.take length)
  match cs.drop (length + 1) with
  | [] => some (midnight date)
  | cs => do
    let clock ← Clock.ofChars? cs
    some ⟨date, clock⟩

end Instant

end TableQuery
