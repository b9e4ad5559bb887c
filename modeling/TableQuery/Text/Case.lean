import TableQuery.Text.CaseTable
import TableQuery.Text.Ranges

/-! Upper and lower case of text in every script. One character can become several, and the capital
    sigma becomes the final small sigma at the end of a word. -/

namespace TableQuery

/-- The code point that a row list maps a code point to, if a row covers it. -/
def shiftBy (rows : List (Nat × Nat × Nat × Int)) (n : Nat) : Option Nat :=
  rows.findSome? fun (first, last, step, shift) =>
    if first ≤ n ∧ n ≤ last ∧ (n - first) % step = 0 then some ((n : Int) + shift).toNat else none

/-- The upper case of one character. -/
def upperChar (c : Char) : List Char :=
  if c.toNat < 128 then [c.toUpper]
  else match upperSpecials.lookup c.toNat with
    | some ns => ns.map Char.ofNat
    | none => match shiftBy upperRows c.toNat with
      | some n => [Char.ofNat n]
      | none => [c]

/-- The upper case of text. -/
def upper (cs : List Char) : List Char := cs.flatMap upperChar

/-- The lower case of one character, wherever it stands. -/
def lowerChar (c : Char) : List Char :=
  if c.toNat < 128 then [c.toLower]
  else match lowerSpecials.lookup c.toNat with
    | some ns => ns.map Char.ofNat
    | none => match shiftBy lowerRows c.toNat with
      | some n => [Char.ofNat n]
      | none => [c]

def isCased (c : Char) : Bool := inRanges casedRanges c.toNat

def isCaseIgnorable (c : Char) : Bool := inRanges caseIgnorableRanges c.toNat

/-- Whether the first character that is not skipped has case. -/
def meetsCased (cs : List Char) : Bool :=
  match cs.dropWhile isCaseIgnorable with
  | [] => false
  | c :: _ => isCased c

/-- The lower case of text whose reversed beginning has been read. -/
def lowerFrom (before : List Char) : List Char → List Char
  | [] => []
  | c :: cs =>
    let here :=
      if c = 'Σ' then [if meetsCased before && !meetsCased cs then 'ς' else 'σ'] else lowerChar c
    here ++ lowerFrom (c :: before) cs

/-- The lower case of text. -/
def lower (cs : List Char) : List Char := lowerFrom [] cs

def lowerText (s : String) : String := String.ofList (lower s.toList)

end TableQuery
