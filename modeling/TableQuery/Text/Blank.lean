/-! Blank characters, trimming and the collapsing of runs of blanks. -/

namespace TableQuery

/-- Whether a character is white space: the ASCII blanks, the four separators of ASCII, the next-line
    control and the space separators of every script. -/
def isBlank (c : Char) : Bool :=
  let n := c.toNat
  (9 ≤ n && n ≤ 13) || (28 ≤ n && n ≤ 32) || n = 0x85 || n = 0xA0 || n = 0x1680 ||
    (0x2000 ≤ n && n ≤ 0x200A) || n = 0x2028 || n = 0x2029 || n = 0x202F || n = 0x205F || n = 0x3000

/-- Drops the blanks in front. -/
def trimLeft (cs : List Char) : List Char := cs.dropWhile isBlank

/-- Drops the blanks at the end. -/
def trimRight (cs : List Char) : List Char := (cs.reverse.dropWhile isBlank).reverse

/-- Drops the blanks at both ends. -/
def trim (cs : List Char) : List Char := trimRight (trimLeft cs)

/-- Drops the blanks at both ends of a text. -/
def trimText (s : String) : String := String.ofList (trim s.toList)

/-- Replaces every run of blanks by one space; the flag says whether one has been started. -/
def collapseBlanksFrom (inRun : Bool) : List Char → List Char
  | [] => []
  | c :: cs =>
    if isBlank c then
      if inRun then collapseBlanksFrom true cs else ' ' :: collapseBlanksFrom true cs
    else c :: collapseBlanksFrom false cs

/-- Replaces every run of blanks by one space. -/
def collapseBlanks (cs : List Char) : List Char := collapseBlanksFrom false cs

end TableQuery
