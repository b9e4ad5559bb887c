/-! Text from bytes: the encodings of Unicode, and telling from the first bytes which one is used. -/

namespace TableQuery

/-- The ways in which text can be stored in bytes. -/
inductive Encoding
  | utf8
  | utf16 (bigEndian : Bool)
  | utf32 (bigEndian : Bool)
  deriving DecidableEq, Repr

namespace Encoding

/-- The character of a code point; a surrogate is none. -/
def charOf? (n : Nat) : Option Char :=
  if 0xD800 ≤ n ∧ n ≤ 0xDFFF then none
  else if n < 0x110000 then some (Char.ofNat n)
  else none

/-- The character of a code point, where surrogates are shown by the replacement character. -/
def shownCharOf? (n : Nat) : Option Char :=
  if 0xD800 ≤ n ∧ n ≤ 0xDFFF then some '\uFFFD' else charOf? n

def isContinuation (b : Nat) : Bool := 0x80 ≤ b && b < 0xC0

/-- Decodes bytes in one to four of which a character is stored. Overlong forms are refused; `charOf?` says
    which code points are characters. -/
def ofUtf8By? (charOf? : Nat → Option Char) : List Nat → Option (List Char)
  | [] => some []
  | a :: rest =>
    if a < 0x80 then (ofUtf8By? charOf? rest).map (Char.ofNat a :: ·)
    else match rest with
      | b :: rest =>
        if 0xC2 ≤ a ∧ a < 0xE0 ∧ isContinuation b then do
          let c ← charOf? ((a - 0xC0) * 64 + (b - 0x80))
          (ofUtf8By? charOf? rest).map (c :: ·)
        else match rest with
          | c :: rest =>
            if 0xE0 ≤ a ∧ a < 0xF0 ∧ isContinuation b ∧ isContinuation c then
              let n := ((a - 0xE0) * 64 + (b - 0x80)) * 64 + (c - 0x80)
              if n < 0x800 then none else do
                let c ← charOf? n
                (ofUtf8By? charOf? rest).map (c :: ·)
            else match rest with
              | d :: rest =>
                if 0xF0 ≤ a ∧ a < 0xF5 ∧ isContinuation b ∧ isContinuation c ∧ isContinuation d then
                  let n := (((a - 0xF0) * 64 + (b - 0x80)) * 64 + (c - 0x80)) * 64 + (d - 0x80)
                  if n < 0x10000 then none else do
                    let c ← charOf? n
                    (ofUtf8By? charOf? rest).map (c :: ·)
                else none
              | [] => none
          | [] => none
      | [] => none

/-- Decodes bytes in one to four of which a character is stored. -/
def ofUtf8? (bs : List Nat) : Option (List Char) := ofUtf8By? charOf? bs

/-- Pairs of bytes as numbers of sixteen bits. -/
def units16? (bigEndian : Bool) : List Nat → Option (List Nat)
  | [] => some []
  | [_] => none
  | a :: b :: rest =>
    (units16? bigEndian rest).map ((if bigEndian then a * 256 + b else b * 256 + a) :: ·)

/-- Joins pairs of surrogates. -/
def ofUnits16 : List Nat → List Char
  | [] => []
  | [a] => (shownCharOf? a).toList
  | a :: b :: rest =>
    if 0xD800 ≤ a ∧ a < 0xDC00 ∧ 0xDC00 ≤ b ∧ b < 0xE000 then
      Char.ofNat (0x10000 + (a - 0xD800) * 0x400 + (b - 0xDC00)) :: ofUnits16 rest
    else (shownCharOf? a).toList ++ ofUnits16 (b :: rest)

/-- Decodes bytes in four of which a character is stored. -/
def ofUtf32? (bigEndian : Bool) : List Nat → Option (List Char)
  | [] => some []
  | a :: b :: c :: d :: rest => do
    let n := if bigEndian then ((a * 256 + b) * 256 + c) * 256 + d
      else ((d * 256 + c) * 256 + b) * 256 + a
    let here ← shownCharOf? n
    (ofUtf32? bigEndian rest).map (here :: ·)
  | _ => none

/-- Decodes bytes in an encoding. Surrogates that stand alone are let through. -/
def decode? (e : Encoding) (bs : List Nat) : Option (List Char) :=
  match e with
  | .utf8 => ofUtf8By? shownCharOf? bs
  | .utf16 bigEndian => (units16? bigEndian bs).map ofUnits16
  | .utf32 bigEndian => ofUtf32? bigEndian bs

/-- The encoding of bytes that start like JSON text, and the bytes without a byte order mark. Where
    there is no mark, the zero bytes among the first four tell. -/
def detect (bs : List Nat) : Encoding × List Nat :=
  match bs with
  | 0 :: 0 :: 0xFE :: 0xFF :: rest => (.utf32 true, rest)
  | 0xFF :: 0xFE :: 0 :: 0 :: rest => (.utf32 false, rest)
  | 0xFE :: 0xFF :: rest => (.utf16 true, rest)
  | 0xFF :: 0xFE :: rest => (.utf16 false, rest)
  | 0xEF :: 0xBB :: 0xBF :: rest => (.utf8, rest)
  | a :: b :: c :: d :: _ =>
    if a = 0 then (if b = 0 then .utf32 true else .utf16 true, bs)
    else if b = 0 then (if c = 0 ∧ d = 0 then .utf32 false else .utf16 false, bs)
    else (.utf8, bs)
  | [a, b] =>
    if a = 0 then (.utf16 true, bs)
    else if b = 0 then (.utf16 false, bs)
    else (.utf8, bs)
  | bs => (.utf8, bs)

end Encoding

/-- The text stored in bytes, if they are well formed in the encoding that they start like. -/
def textOfBytes? (bs : List UInt8) : Option String :=
  let (e, rest) := Encoding.detect (bs.map UInt8.toNat)
  (e.decode? rest).map String.ofList

end TableQuery
