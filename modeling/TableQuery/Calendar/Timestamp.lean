import TableQuery.Calendar.Reader
import TableQuery.Number.Double

/-! Timestamps: instants as records give them, which is the text form of the internet, a day that stands
    for its midnight, or a number of seconds since the start of 1970 in universal time. A large number
    counts thousandths of a second. -/

namespace TableQuery

namespace Timestamp

/-! ### Numbers -/

/-- The greatest number that counts seconds. -/
def secondsLimit : Nat := 20000000000

/-- The first second of 1600 and the last one of 9999, between which instants have to lie. -/
def firstSecond : Int := -11676096000

def lastSecond : Int := 253402300799

/-- The instant at a number of seconds, or of thousandths, and some microseconds. -/
def ofCount (count : Int) (micros : Nat) : Option Instant :=
  let isSmall : Bool := count.natAbs ≤ secondsLimit
  let seconds := if isSmall then count else Int.fdiv count 1000
  let micros := micros + (if isSmall then 0 else (Int.fmod count 1000).toNat * 1000)
  let seconds := seconds + (micros / 1000000 : Nat)
  if firstSecond ≤ seconds ∧ seconds ≤ lastSecond then
    let date := Date.ofOrdinal (719163 + Int.fdiv seconds 86400).toNat
    let second := (Int.fmod seconds 86400).toNat
    some ⟨date, ⟨second / 3600, second / 60 % 60, second % 60, micros % 1000000, some 0⟩⟩
  else none

/-- The greatest whole number that is not above `num / den` with its sign. -/
def floorOf (negative : Bool) (num den : Nat) : Int :=
  if negative then Int.fdiv (-(num : Int)) den else Int.fdiv num den

/-- The nearest number of millionths to `num / den`, a half going up. -/
def millionths (num den : Nat) : Nat := (num * 2000000 + den) / (2 * den)

/-- The instant of a floating-point number. The fraction counts upward from the whole number below, without
    regard to the sign. -/
def ofDouble? (x : Double) : Option Instant :=
  match x with
  | .finite negative m e =>
    let (num, den) := Double.ratio m e
    ofCount (floorOf negative num den) (millionths (num % den) den)
  | _ => none

/-- The instant that digits write, with a point between them perhaps. -/
def ofDigits? (negative : Bool) (cs : List Char) : Option Instant := do
  let whole := cs.takeWhile Char.isDigit
  let rest := cs.dropWhile Char.isDigit
  let value (ds : List Char) : Nat := ds.foldl (fun n c => n * 10 + (c.toNat - 48)) 0
  if whole.isEmpty then none
  else match rest with
    | [] => ofCount (if negative then -(value whole : Int) else value whole) 0
    | c :: ds =>
      if c = '.' ∧ ds.all Char.isDigit then
        let den := Nat.pow 10 ds.length
        let num := value (whole ++ ds)
        let den := if secondsLimit * den < num then den * 1000 else den
        let floor := floorOf negative num den
        let above := ((if negative then -(num : Int) else num) - floor * den).toNat
        ofCount floor (millionths above den)
      else none

/-- The instant of the number that text writes. -/
def ofNumeral? (cs : List Char) : Option Instant :=
  match cs with
  | '-' :: cs => ofDigits? true cs
  | '+' :: cs => ofDigits? false cs
  | cs => ofDigits? false cs

/-! ### Text -/

/-- Reads `YYYY-MM-DD` at the start of text. -/
def takeDate? (cs : List Char) : Option (Date × List Char) :=
  let day := cs.take 10
  if day[4]? = some '-' then (Date.ofChars? day).map fun date => (date, cs.drop 10) else none

/-- Reads the fraction of a second at the start of text; no fraction is zero. -/
def takeFraction (cs : List Char) : Option (Nat × List Char) :=
  match cs with
  | [] => some (0, [])
  | c :: rest =>
    if Clock.startsFraction c then
      let ds := rest.takeWhile Char.isDigit
      if ds.isEmpty then none else some (Clock.fractionOf ds, rest.dropWhile Char.isDigit)
    else some (0, cs)

/-- Reads `:SS` with an optional fraction at the start of text; no seconds are zero. -/
def takeSeconds (cs : List Char) : Option (Nat × Nat × List Char) :=
  match cs with
  | ':' :: cs => do
    let (second, cs) ← takeFixed 2 cs
    let (micro, cs) ← takeFraction cs
    some (second, micro, cs)
  | cs => some (0, 0, cs)

/-- The sign of an offset, which may be written with the minus sign of typography. -/
def isNegativeSign? (c : Char) : Option Bool :=
  if c = '+' then some false else if c = '-' ∨ c = '\u2212' then some true else none

/-- Reads an offset that fills the text: none, `Z`, `±HHMM` or `±HH:MM`. -/
def readOffset (cs : List Char) : Option (Option Int) :=
  match cs with
  | [] => some none
  | ['Z'] | ['z'] => some (some 0)
  | c :: cs => do
    let negative ← isNegativeSign? c
    let (hour, cs) ← takeFixed 2 cs
    let (minute, cs) ← takeFixed 2 (if cs.head? = some ':' then cs.drop 1 else cs)
    if cs.isEmpty ∧ hour < 24 ∧ minute < 60 then
      let micros : Nat := (hour * 60 + minute) * 60000000
      some (some (if negative then -(micros : Int) else micros))
    else none

/-- Reads `HH:MM` with optional seconds, fraction and offset, filling the text. -/
def readClock (cs : List Char) : Option Clock := do
  let (hour, cs) ← takeFixed 2 cs
  let cs ← afterSeparator ':' true cs
  let (minute, cs) ← takeFixed 2 cs
  let (second, micro, cs) ← takeSeconds cs
  let offset ← readOffset cs
  let clock : Clock := ⟨hour, minute, second, micro, offset⟩
  if clock.isValid then some clock else none

/-- Reads a day, with `T`, `t`, `_` or a space between it and a time of day if there is one. -/
def readText (cs : List Char) : Option Instant := do
  let (date, cs) ← takeDate? cs
  match cs with
  | [] => some (.midnight date)
  | c :: cs => do
    let clock ← readClock cs
    if ['T', 't', '_', ' '].contains c then some ⟨date, clock⟩ else none

/-- Reads an instant. -/
def ofText? (text : String) : Option Instant :=
  (readText text.toList).orElse fun _ => ofNumeral? text.toList

end Timestamp

end TableQuery
