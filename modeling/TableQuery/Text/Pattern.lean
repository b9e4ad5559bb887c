import TableQuery.Text.Pieces

/-! Patterns with captures, as error messages are read. A pattern is matched from left to right and each
    part takes as much as it can; the first place where all parts match counts. -/

namespace TableQuery

/-- A part of a pattern. -/
inductive PatternPart
  /-- The given text. -/
  | exactly (piece : List Char)
  /-- The given character, or nothing. -/
  | optional (c : Char)
  /-- A captured run of characters of a class, perhaps of none. -/
  | run (isIn : Char → Bool)
  /-- A captured run of at least one character of a class. -/
  | run1 (isIn : Char → Bool)
  /-- A captured stretch of the line in front of the last occurrence of a character on it. -/
  | upToLast (c : Char)

namespace PatternPart

/-- What stands in front of the last occurrence of a character in text, and what follows that. -/
def splitLast? (c : Char) (cs : List Char) : Option (List Char × List Char) :=
  match cs.reverse.dropWhile (· ≠ c) with
  | [] => none
  | _ :: front => some (front.reverse, cs.drop (front.length + 1))

/-- What the parts capture at the start of text, if they match there. -/
def matchAt : List PatternPart → List Char → Option (List String)
  | [], _ => some []
  | .exactly piece :: ps, cs => match stripFront? piece cs with
    | some rest => matchAt ps rest
    | none => none
  | .optional c :: ps, cs => match cs with
    | d :: rest => if d = c then matchAt ps rest else matchAt ps cs
    | [] => matchAt ps []
  | .run isIn :: ps, cs =>
    (matchAt ps (cs.dropWhile isIn)).map (String.ofList (cs.takeWhile isIn) :: ·)
  | .run1 isIn :: ps, cs =>
    if (cs.takeWhile isIn).isEmpty then none
    else (matchAt ps (cs.dropWhile isIn)).map (String.ofList (cs.takeWhile isIn) :: ·)
  | .upToLast c :: ps, cs => match splitLast? c (cs.takeWhile (· ≠ '\n')) with
    | some (front, back) =>
      (matchAt ps (c :: back ++ cs.dropWhile (· ≠ '\n'))).map (String.ofList front :: ·)
    | none => none

/-- What the parts capture at the first place where they match. -/
def searchFrom (parts : List PatternPart) : List Char → Option (List String)
  | [] => matchAt parts []
  | c :: cs => match matchAt parts (c :: cs) with
    | some captures => some captures
    | none => searchFrom parts cs

/-- What the parts capture in a text. -/
def search (parts : List PatternPart) (text : String) : Option (List String) :=
  searchFrom parts text.toList

end PatternPart

end TableQuery
