/-! Cutting text at separators and looking for pieces of it. -/

namespace TableQuery

/-- The pieces between the occurrences of a character. There is always one piece more than there are
    occurrences. -/
def cutAt (sep : Char) : List Char → List (List Char)
  | [] => [[]]
  | c :: cs =>
    if c = sep then [] :: cutAt sep cs
    else match cutAt sep cs with
      | [] => [[c]]
      | piece :: pieces => (c :: piece) :: pieces

/-- The pieces of a text between the occurrences of a character. -/
def cutText (sep : Char) (s : String) : List String := (cutAt sep s.toList).map String.ofList

/-- What stands in front of the first occurrence of a character, and what stands behind it. -/
def splitFirst (sep : Char) (s : String) : String × Option String :=
  match s.toList.span (· ≠ sep) with
  | (front, []) => (String.ofList front, none)
  | (front, _ :: back) => (String.ofList front, some (String.ofList back))

/-- What stands behind the last occurrence of a character, or the whole text without one. -/
def afterLast (sep : Char) (s : String) : String :=
  String.ofList (s.toList.reverse.takeWhile (· ≠ sep)).reverse

/-- What is left of text once a given beginning is taken off. -/
def stripFront? (front : List Char) (cs : List Char) : Option (List Char) :=
  match front, cs with
  | [], cs => some cs
  | _ :: _, [] => none
  | f :: front, c :: cs => if f = c then stripFront? front cs else none

/-- Whether text begins with a given piece. -/
def startsWith (front cs : List Char) : Bool := (stripFront? front cs).isSome

/-- Whether text ends with a given piece. -/
def endsWith (back cs : List Char) : Bool := startsWith back.reverse cs.reverse

/-- Whether a piece occurs in text. -/
def occursIn (piece : List Char) : List Char → Bool
  | [] => piece.isEmpty
  | c :: cs => startsWith piece (c :: cs) || occursIn piece cs

/-- Whether a piece occurs in a text. -/
def occursInText (piece text : String) : Bool := occursIn piece.toList text.toList

/-- Replaces every occurrence of a character by a piece of text. -/
def replaceChar (old : Char) (new : List Char) (cs : List Char) : List Char :=
  cs.flatMap fun c => if c = old then new else [c]

def replaceCharText (old : Char) (new : String) (s : String) : String :=
  String.ofList (replaceChar old new.toList s.toList)

/-- Pieces of text with a separator between neighbours. -/
def joinWith (sep : String) : List String → String
  | [] => ""
  | [s] => s
  | s :: rest => s ++ sep ++ joinWith sep rest

end TableQuery
