import TableQuery.Proofs.JsonText
import TableQuery.Proofs.Numerals

/-! The grammar of JSON text: which text spells which value, said without the reader. Beside the standard forms there are
    three names for numbers that are not finite, a surrogate on its own stands for the replacement character, and of the
    entries of an object with one key the last counts. What is spelled is read, whatever stands behind it. -/

namespace TableQuery

namespace Json

/-! ### Numbers -/

/-- Blanks, or nothing. -/
def Blank (cs : List Char) : Prop := ∀ c ∈ cs, isSpace c = true

/-- One digit or more. -/
structure Digits (ds : List Char) : Prop where
  ne_nil : ds ≠ []
  isDigit : ∀ c ∈ ds, c.isDigit = true

/-- The whole part of a number: a zero, or digits that do not start with one. -/
structure Whole (ds : List Char) : Prop extends Digits ds where
  zero : ds.head? = some '0' → ds = ['0']

/-- The part of a number with its point, and the digits of it. -/
inductive Fraction : List Char → List Char → Prop
  | none : Fraction [] []
  | point {ds : List Char} (h : Digits ds) : Fraction ('.' :: ds) ds

/-- The part of a number with the mark of a power of ten, and the power. -/
inductive Power : List Char → Option Int → Prop
  | none : Power [] none
  | plain {mark : Char} {ds : List Char} (hmark : mark = 'e' ∨ mark = 'E') (h : Digits ds) :
    Power (mark :: ds) (some (natOf ds))
  | plus {mark : Char} {ds : List Char} (hmark : mark = 'e' ∨ mark = 'E') (h : Digits ds) :
    Power (mark :: '+' :: ds) (some (natOf ds))
  | minus {mark : Char} {ds : List Char} (hmark : mark = 'e' ∨ mark = 'E') (h : Digits ds) :
    Power (mark :: '-' :: ds) (some (-(natOf ds : Int)))

/-- The number of its parts. Without fraction and power it is a whole number. -/
def numberOf (negative : Bool) (whole fraction : List Char) (power : Option Int) : Value :=
  match fraction, power with
  | [], none => .int (if negative then -(natOf whole : Int) else natOf whole)
  | fraction, power =>
    .double (Double.ofScientific negative (natOf (whole ++ fraction)) (power.getD 0 - fraction.length))

/-! ### Strings -/

/-- Four hexadecimal digits, and the code unit that they write. -/
def CodeUnit (hs : List Char) (n : Nat) : Prop := takeUnit? hs = some (n, [])

/-- Text that starts with the escape of a low surrogate. -/
def StartsLow (cs : List Char) : Prop :=
  ∃ tail low rest, cs = '\\' :: 'u' :: tail ∧ takeUnit? tail = some (low, rest) ∧ isLowSurrogate low = true

/-- What stands between the quotes of a string, and the characters that it stands for. Two surrogates that belong
    together are one character. -/
inductive Body : List Char → List Char → Prop
  | nil : Body [] []
  | plain {c : Char} {cs s : List Char} (hquote : c ≠ '"') (hescape : c ≠ '\\') (hcontrol : 32 ≤ c.toNat)
    (h : Body cs s) : Body (c :: cs) (c :: s)
  | short {e c : Char} {cs s : List Char} (hshort : shortEscape? e = some c) (h : Body cs s) :
    Body ('\\' :: e :: cs) (c :: s)
  | unit {hs cs s : List Char} {n : Nat} (hunit : CodeUnit hs n) (halone : isHighSurrogate n = true → ¬ StartsLow cs)
    (h : Body cs s) : Body ('\\' :: 'u' :: (hs ++ cs)) (unitChar n :: s)
  | pair {hs ls cs s : List Char} {high low : Nat} (hhigh : CodeUnit hs high) (hlow : CodeUnit ls low)
    (hpair : isHighSurrogate high = true ∧ isLowSurrogate low = true) (h : Body cs s) :
    Body ('\\' :: 'u' :: (hs ++ '\\' :: 'u' :: (ls ++ cs)))
      (Char.ofNat (0x10000 + (high - 0xD800) * 0x400 + (low - 0xDC00)) :: s)

/-! ### Values -/

/-- The values that have a name. -/
def names : List (String × Value) :=
  [("null", .null), ("true", .bool true), ("false", .bool false), ("NaN", .double .nan),
   ("Infinity", .double (.infinite false)), ("-Infinity", .double (.infinite true))]

/-- A value in a text, with what stands in front of it and behind it. -/
structure Part where
  front : List Char
  inner : List Char
  back : List Char
  value : Value

namespace Part

def text (p : Part) : List Char := p.front ++ (p.inner ++ p.back)

/-- Nothing but blanks stands around the value. -/
def Padded (p : Part) : Prop := Blank p.front ∧ Blank p.back

end Part

/-- An entry of an object: the text of the key and what it stands for, and the value behind the colon. -/
structure Entry where
  front : List Char
  key : List Char
  name : List Char
  behind : List Char
  part : Part

namespace Entry

def text (e : Entry) : List Char := e.front ++ '"' :: (e.key ++ '"' :: (e.behind ++ ':' :: e.part.text))

/-- Nothing but blanks stands around key and value, and the key is a string. -/
structure WellFormed (e : Entry) : Prop where
  front : Blank e.front
  key : Body e.key e.name
  behind : Blank e.behind
  padded : e.part.Padded

def pair (e : Entry) : String × Value := (String.ofList e.name, e.part.value)

end Entry

/-- Texts with commas between them. -/
def separated (texts : List (List Char)) : List Char := List.intercalate [','] texts

/-- The text spells the value, in which whole numbers have at most so many digits if there is a limit. -/
inductive Spells (limit : Option Nat) : List Char → Value → Prop
  | name {name : String} {v : Value} (h : (name, v) ∈ names) : Spells limit name.toList v
  | number {negative : Bool} {whole point fraction mark : List Char} {power : Option Int} (hwhole : Whole whole)
    (hfraction : Fraction point fraction) (hpower : Power mark power)
    (hshort : point = [] → mark = [] → ∀ most ∈ limit, whole.length ≤ most) :
    Spells limit ((if negative then ['-'] else []) ++ (whole ++ (point ++ mark)))
      (numberOf negative whole fraction power)
  | text {cs s : List Char} (h : Body cs s) : Spells limit ('"' :: (cs ++ ['"'])) (.text (String.ofList s))
  | emptyList {bs : List Char} (h : Blank bs) : Spells limit ('[' :: (bs ++ [']'])) (.list [])
  | list {parts : List Part} (hne : parts ≠ []) (hpadded : ∀ p ∈ parts, p.Padded)
    (h : ∀ p ∈ parts, Spells limit p.inner p.value) :
    Spells limit ('[' :: (separated (parts.map Part.text) ++ [']'])) (.list (parts.map Part.value))
  | emptyDict {bs : List Char} (h : Blank bs) : Spells limit ('\x7b' :: (bs ++ ['\x7d'])) (.dict [])
  | dict {entries : List Entry} (hne : entries ≠ []) (hformed : ∀ e ∈ entries, e.WellFormed)
    (h : ∀ e ∈ entries, Spells limit e.part.inner e.part.value) :
    Spells limit ('\x7b' :: (separated (entries.map Entry.text) ++ ['\x7d'])) (.dict (Row.ofList (entries.map Entry.pair)))

/-- A text is JSON for a value if it spells the value, with nothing but blanks around. -/
def Denotes (limit : Option Nat) (text : String) (v : Value) : Prop :=
  ∃ p : Part, p.Padded ∧ p.text = text.toList ∧ p.value = v ∧ Spells limit p.inner p.value

/-! ### Numbers are read -/

/-- Text that does not go on with a number that stands in front of it. -/
def Ends (rest : List Char) : Prop := ∀ c ∈ rest.head?, c.isDigit = false ∧ c ≠ '.' ∧ c ≠ 'e' ∧ c ≠ 'E'

theorem ends_nil : Ends [] := by
  intro c hc
  cases hc

theorem ends_of_head {c : Char} (h : c.isDigit = false ∧ c ≠ '.' ∧ c ≠ 'e' ∧ c ≠ 'E') (rest : List Char) :
    Ends (c :: rest) := by
  intro d hd
  cases hd
  exact h

theorem ends_of_isSpace {c : Char} (h : isSpace c = true) : c.isDigit = false ∧ c ≠ '.' ∧ c ≠ 'e' ∧ c ≠ 'E' := by
  simp only [isSpace, Bool.or_eq_true, decide_eq_true_eq] at h
  rcases h with ((rfl | rfl) | rfl) | rfl
  all_goals decide

/-- Blanks end a number, as what stands behind them does. -/
theorem Ends.blank {bs rest : List Char} (h : Ends rest) (hblank : Blank bs) : Ends (bs ++ rest) := by
  cases bs with
  | nil => exact h
  | cons b bs => exact ends_of_head (ends_of_isSpace (hblank b List.mem_cons_self)) _

section
variable {ds rest : List Char}

theorem takeWhile_digits (h : ∀ c ∈ ds, c.isDigit = true) (hrest : ∀ c ∈ rest.head?, c.isDigit = false) :
    (ds ++ rest).takeWhile Char.isDigit = ds ∧ (ds ++ rest).dropWhile Char.isDigit = rest := by
  have hstop : rest.takeWhile Char.isDigit = [] ∧ rest.dropWhile Char.isDigit = rest := by
    cases rest with
    | nil => exact ⟨rfl, rfl⟩
    | cons c rest => simp [hrest c rfl]
  rw [List.takeWhile_append_of_pos h, List.dropWhile_append_of_pos h, hstop.1, hstop.2, List.append_nil]
  exact ⟨rfl, rfl⟩

theorem takeWhole_append (h : Whole ds) (hrest : ∀ c ∈ rest.head?, c.isDigit = false) :
    takeWhole (ds ++ rest) = (ds, rest) := by
  obtain ⟨htake, hdrop⟩ := takeWhile_digits h.isDigit hrest
  unfold takeWhole
  split
  · rename_i heq
    cases ds with
    | nil => exact absurd rfl h.ne_nil
    | cons c ds =>
      obtain ⟨rfl, rfl⟩ := List.cons.inj heq
      obtain ⟨-, rfl⟩ := List.cons.inj (h.zero rfl)
      rfl
  · rw [htake, hdrop]

theorem Digits.isEmpty (h : Digits ds) : ds.isEmpty = false := by
  cases ds with
  | nil => exact absurd rfl h.ne_nil
  | cons => rfl

variable {point fraction mark : List Char} {power : Option Int}

theorem Fraction.takeFractionDigits (h : Fraction point fraction)
    (hrest : ∀ c ∈ rest.head?, c.isDigit = false ∧ (point = [] → c ≠ '.')) :
    takeFractionDigits (point ++ rest) = (fraction, rest) := by
  cases h with
  | none =>
    rw [List.nil_append]
    unfold Json.takeFractionDigits
    split
    · exact absurd rfl ((hrest '.' rfl).2 rfl)
    · rfl
  | point hdigits =>
    obtain ⟨htake, hdrop⟩ := takeWhile_digits hdigits.isDigit fun c hc => (hrest c hc).1
    simp only [List.cons_append, Json.takeFractionDigits, htake, hdrop, hdigits.isEmpty, Bool.false_eq_true, ↓reduceIte]

theorem takeSign_of_isDigit {c : Char} (h : c.isDigit = true) (cs : List Char) : takeSign (c :: cs) = (false, c :: cs) := by
  unfold takeSign
  split
  · rename_i heq
    cases heq
    cases h
  · rename_i heq
    cases heq
    cases h
  · rfl

theorem Power.takePower (h : Power mark power)
    (hrest : ∀ c ∈ rest.head?, c.isDigit = false ∧ (mark = [] → c ≠ 'e' ∧ c ≠ 'E')) :
    takePower (mark ++ rest) = (power, rest) := by
  have hdigits {ds : List Char} (hds : Digits ds) : (ds ++ rest).takeWhile Char.isDigit = ds ∧
      (ds ++ rest).dropWhile Char.isDigit = rest := takeWhile_digits hds.isDigit fun c hc => (hrest c hc).1
  cases h with
  | none =>
    rw [List.nil_append]
    unfold Json.takePower
    split
    · rename_i c _
      rw [if_neg (not_or.mpr ((hrest c rfl).2 rfl))]
    · rfl
  | plain hmark hds =>
    obtain ⟨d, ds', rfl⟩ := List.exists_cons_of_ne_nil hds.ne_nil
    obtain ⟨htake, hdrop⟩ := hdigits hds
    rw [List.cons_append, Json.takePower, if_pos hmark, List.cons_append,
      takeSign_of_isDigit (hds.isDigit d List.mem_cons_self)]
    rw [List.cons_append] at htake hdrop
    simp only [htake, hdrop, List.isEmpty_cons, Bool.false_eq_true, ↓reduceIte]
  | plus hmark hds | minus hmark hds =>
    obtain ⟨htake, hdrop⟩ := hdigits hds
    rw [List.cons_append, Json.takePower, if_pos hmark]
    simp only [List.cons_append, takeSign, htake, hdrop, hds.isEmpty, Bool.false_eq_true, ↓reduceIte]

variable {limit : Option Nat}

theorem not_any_lt {count : Nat} (h : ∀ most ∈ limit, count ≤ most) : ¬ limit.any (· < count) = true := by
  cases limit with
  | none => exact Bool.false_ne_true
  | some most => exact fun hlong => absurd (of_decide_eq_true hlong) (Nat.not_lt.mpr (h most rfl))

theorem takeNumber_spelled {whole : List Char} (hwhole : Whole whole) (hfraction : Fraction point fraction)
    (hpower : Power mark power) (hshort : point = [] → mark = [] → ∀ most ∈ limit, whole.length ≤ most)
    (hrest : Ends rest) (negative : Bool) :
    takeNumber limit negative (whole ++ (point ++ (mark ++ rest))) =
      .ok (numberOf negative whole fraction power, rest) := by
  have hmark : ∀ c ∈ (mark ++ rest).head?, c.isDigit = false ∧ c ≠ '.' := by
    cases hpower with
    | none => exact fun c hc => ⟨(hrest c hc).1, (hrest c hc).2.1⟩
    | plain hmark | plus hmark | minus hmark =>
      intro c hc
      cases hc
      rcases hmark with rfl | rfl
      all_goals decide
  have hpoint : ∀ c ∈ (point ++ (mark ++ rest)).head?, c.isDigit = false := by
    cases hfraction with
    | none => exact fun c hc => (hmark c hc).1
    | point =>
      intro c hc
      cases hc
      rfl
  rw [takeNumber, takeWhole_append hwhole hpoint]
  dsimp only
  rw [hwhole.isEmpty, if_neg Bool.false_ne_true,
    hfraction.takeFractionDigits fun c hc => ⟨(hmark c hc).1, fun _ => (hmark c hc).2⟩]
  dsimp only
  rw [hpower.takePower fun c hc => ⟨(hrest c hc).1, fun _ => (hrest c hc).2.2⟩]
  dsimp only
  split
  · have hnone : point = [] ∧ mark = [] := by
      constructor
      · cases hfraction with
        | none => rfl
        | point h => exact absurd rfl h.ne_nil
      · cases hpower
        rfl
    rw [if_neg (not_any_lt (hshort hnone.1 hnone.2))]
    rfl
  · rename_i hparts
    rw [numberOf]
    exact hparts

theorem takeName?_of_isDigit {c : Char} (h : c.isDigit = true) (cs : List Char) :
    takeName? (c :: cs) = none ∧ takeName? ('-' :: c :: cs) = none := by
  constructor
  all_goals
    unfold takeName?
    split
    case h_7 => rfl
    all_goals
      rename_i heq
      cases heq
      try cases h

/-- Where a digit comes first, perhaps behind a sign, a number is read. -/
theorem takeValue_of_isDigit {c : Char} (h : c.isDigit = true) (tail : List Char) :
    takeValue limit 1 (c :: tail) = takeNumber limit false (c :: tail) ∧
      takeValue limit 1 ('-' :: c :: tail) = takeNumber limit true (c :: tail) := by
  obtain ⟨hname, hsigned⟩ := takeName?_of_isDigit h tail
  have hne : c ≠ '"' ∧ c ≠ '[' ∧ c ≠ '\x7b' ∧ c ≠ '-' := by
    refine ⟨?_, ?_, ?_, ?_⟩
    all_goals
      rintro rfl
      cases h
  constructor
  · simp [takeValue, hne, hname]
  · simp [takeValue, hsigned]

end

/-! ### Strings are read -/

section
variable {hs ls cs s rest : List Char} {n high low : Nat}

theorem CodeUnit.takeUnit? (h : CodeUnit hs n) (cs : List Char) : takeUnit? (hs ++ cs) = some (n, cs) := by
  unfold CodeUnit Json.takeUnit? at h
  split at h
  · simp only [Option.bind_eq_bind, Option.bind_eq_some_iff] at h
    obtain ⟨a, ha, b, hb, c, hc, d, hd, h⟩ := h
    cases h
    simp only [List.cons_append, List.nil_append, Json.takeUnit?, ha, hb, hc, hd, Option.bind_eq_bind, Option.bind_some]
  · cases h

theorem exists_codeUnit (h : takeUnit? cs = some (n, rest)) : ∃ hs, cs = hs ++ rest ∧ CodeUnit hs n := by
  unfold takeUnit? at h
  split at h
  · rename_i a b c d _
    simp only [Option.bind_eq_bind, Option.bind_eq_some_iff] at h
    obtain ⟨x, hx, y, hy, z, hz, w, hw, h⟩ := h
    cases h
    refine ⟨[a, b, c, d], rfl, ?_⟩
    simp only [CodeUnit, takeUnit?, hx, hy, hz, hw, Option.bind_eq_bind, Option.bind_some]
  · cases h

/-- A quote is no hexadecimal digit. -/
theorem CodeUnit.quote_notMem (h : CodeUnit hs n) : '"' ∉ hs := by
  have hquote : hexValue? '"' = none := rfl
  unfold CodeUnit Json.takeUnit? at h
  split at h
  · simp only [Option.bind_eq_bind, Option.bind_eq_some_iff] at h
    obtain ⟨x, hx, y, hy, z, hz, w, hw, h⟩ := h
    cases h
    intro hmem
    simp only [List.mem_cons, List.not_mem_nil, or_false] at hmem
    rcases hmem with rfl | rfl | rfl | rfl
    all_goals simp_all
  · cases h

/-- Behind the end of a string there is nothing of the escape of a surrogate. -/
theorem StartsLow.of_append (h : StartsLow (cs ++ '"' :: rest)) : StartsLow cs := by
  obtain ⟨tail, low, back, heq, htaken, hlow⟩ := h
  obtain ⟨hs, rfl, hunit⟩ := exists_codeUnit htaken
  clear htaken
  match cs, heq with
  | [], heq => cases heq
  | [_], heq => cases heq
  | a :: b :: cs, heq =>
    simp only [List.cons_append, List.cons.injEq] at heq
    obtain ⟨rfl, rfl, heq⟩ := heq
    rcases List.append_eq_append_iff.mp heq with ⟨mid, rfl, hmid⟩ | ⟨mid, rfl, -⟩
    · cases mid with
      | nil => exact ⟨cs, low, [], rfl, by rw [List.append_nil] at hunit; exact hunit, hlow⟩
      | cons m mid =>
        cases hmid
        exact absurd (by simp) hunit.quote_notMem
    · exact ⟨hs ++ mid, low, mid, rfl, hunit.takeUnit? mid, hlow⟩

theorem takeEscape?_unit (h : CodeUnit hs n) (halone : isHighSurrogate n = true → ¬ StartsLow cs) :
    takeEscape? (hs ++ cs) = some (unitChar n, cs) := by
  simp only [takeEscape?, h.takeUnit?, Option.bind_eq_bind, Option.bind_some]
  split
  · rename_i hhigh
    split
    · rename_i tail
      split
      · rename_i low back hlow
        split
        · rename_i hisLow
          exact absurd ⟨tail, low, back, rfl, hlow, hisLow⟩ (halone hhigh)
        · rfl
      · rfl
    · rfl
  · rfl

theorem takeEscape?_pair (hhigh : CodeUnit hs high) (hlow : CodeUnit ls low)
    (hpair : isHighSurrogate high = true ∧ isLowSurrogate low = true) (cs : List Char) :
    takeEscape? (hs ++ '\\' :: 'u' :: (ls ++ cs)) =
      some (Char.ofNat (0x10000 + (high - 0xD800) * 0x400 + (low - 0xDC00)), cs) := by
  simp only [takeEscape?, hhigh.takeUnit?, hlow.takeUnit?, hpair.1, hpair.2, Option.bind_eq_bind, Option.bind_some,
    ↓reduceIte]

variable (steps : Nat) (c : Char)

theorem takeString_short {e : Char} (hshort : shortEscape? e = some c) (cs : List Char) :
    takeString (steps + 1) ('\\' :: e :: cs) = (takeString steps cs).bind fun read => some (c :: read.1, read.2) := by
  have hunit : e ≠ 'u' := by
    rintro rfl
    cases hshort
  simp only [takeString, hunit, hshort, Option.bind_eq_bind, Option.bind_some, ↓reduceIte]
  rfl

theorem takeString_unit {tail : List Char} (hescape : takeEscape? tail = some (c, cs)) :
    takeString (steps + 1) ('\\' :: 'u' :: tail) = (takeString steps cs).bind fun read => some (c :: read.1, read.2) := by
  simp only [takeString, hescape, Option.bind_eq_bind, Option.bind_some]
  rfl

theorem takeString_plain (hquote : c ≠ '"') (hescape : c ≠ '\\') (hcontrol : 32 ≤ c.toNat) (cs : List Char) :
    takeString (steps + 1) (c :: cs) = (takeString steps cs).bind fun read => some (c :: read.1, read.2) := by
  conv_lhs => unfold takeString
  rw [if_neg hquote, if_neg hescape, if_neg (Nat.not_lt.mpr hcontrol)]
  rfl

/-- One character is read in one step. -/
theorem Body.takeString (h : Body cs s) (rest : List Char) : ∀ {steps : Nat}, s.length < steps →
    takeString steps (cs ++ '"' :: rest) = some (s, rest) := by
  induction h with
  | nil =>
    intro steps hsteps
    obtain ⟨n, rfl⟩ := Nat.exists_eq_add_one_of_ne_zero (Nat.ne_of_gt hsteps)
    simp [Json.takeString]
  | plain hquote hescape hcontrol _ ih =>
    intro steps hsteps
    obtain ⟨n, rfl⟩ := Nat.exists_eq_add_one_of_ne_zero (Nat.ne_of_gt (Nat.zero_lt_of_lt hsteps))
    rw [List.cons_append, takeString_plain n _ hquote hescape hcontrol, ih (Nat.lt_of_succ_lt_succ hsteps)]
    rfl
  | short hshort _ ih =>
    intro steps hsteps
    obtain ⟨n, rfl⟩ := Nat.exists_eq_add_one_of_ne_zero (Nat.ne_of_gt (Nat.zero_lt_of_lt hsteps))
    rw [List.cons_append, List.cons_append, takeString_short n _ hshort, ih (Nat.lt_of_succ_lt_succ hsteps)]
    rfl
  | unit hunit halone _ ih =>
    intro steps hsteps
    obtain ⟨n, rfl⟩ := Nat.exists_eq_add_one_of_ne_zero (Nat.ne_of_gt (Nat.zero_lt_of_lt hsteps))
    have hescape := takeEscape?_unit hunit fun hhigh (hlow : StartsLow (_ ++ '"' :: rest)) =>
      halone hhigh hlow.of_append
    rw [List.cons_append, List.cons_append, List.append_assoc, takeString_unit n _ hescape,
      ih (Nat.lt_of_succ_lt_succ hsteps)]
    rfl
  | pair hhigh hlow hpair _ ih =>
    intro steps hsteps
    obtain ⟨n, rfl⟩ := Nat.exists_eq_add_one_of_ne_zero (Nat.ne_of_gt (Nat.zero_lt_of_lt hsteps))
    simp only [List.cons_append, List.append_assoc]
    rw [takeString_unit n _ (takeEscape?_pair hhigh hlow hpair _), ih (Nat.lt_of_succ_lt_succ hsteps)]
    rfl

theorem Body.length_le (h : Body cs s) : s.length ≤ cs.length := by
  induction h with
  | nil => exact Nat.le_refl 0
  | _ =>
    simp only [List.length_cons, List.length_append]
    omega

/-- The steps that are allowed for a string are enough. -/
theorem Body.takeString_allowed (h : Body cs s) (rest : List Char) :
    Json.takeString ((cs ++ '"' :: rest).length + 1) (cs ++ '"' :: rest) = some (s, rest) := by
  have hlength := h.length_le
  exact h.takeString rest (by simp only [List.length_append, List.length_cons]; omega)

end

/-! ### Values are read -/

/-- The text of a value begins neither with a blank nor with the end of a list. -/
def Starts (cs : List Char) : Prop := ∃ c tail, cs = c :: tail ∧ isSpace c = false ∧ c ≠ ']'

theorem skipSpace_blank {bs : List Char} (h : Blank bs) (cs : List Char) : skipSpace (bs ++ cs) = skipSpace cs :=
  List.dropWhile_append_of_pos h

section
variable {limit : Option Nat} {v : Value} {cs : List Char}

theorem Starts.skipSpace (h : Starts cs) (rest : List Char) : skipSpace (cs ++ rest) = cs ++ rest := by
  obtain ⟨c, tail, rfl, hc, -⟩ := h
  simp [Json.skipSpace, hc]

/-- Text at whose front a value is read, whatever stands behind it. -/
structure Tells (limit : Option Nat) (cs : List Char) (v : Value) : Prop where
  starts : Starts cs
  taken : ∀ rest, Ends rest → ∃ steps, takeValue limit steps (cs ++ rest) = .ok (v, rest)

theorem takeValue_mono {steps more : Nat} {rest : List Char} (h : takeValue limit steps cs = .ok (v, rest))
    (hle : steps ≤ more) : takeValue limit more cs = .ok (v, rest) :=
  ((steady steps).1 cs v rest h).2 more (Nat.le_trans (Nat.min_le_left _ _) hle)

theorem takeItems_mono {steps more : Nat} {xs : List Value} {rest : List Char}
    (h : takeItems limit steps cs = .ok (xs, rest)) (hle : steps ≤ more) : takeItems limit more cs = .ok (xs, rest) :=
  ((steady steps).2.1 cs xs rest h).2 more (Nat.le_trans (Nat.min_le_left _ _) hle)

theorem takeEntries_mono {steps more : Nat} {es : List (String × Value)} {rest : List Char}
    (h : takeEntries limit steps cs = .ok (es, rest)) (hle : steps ≤ more) :
    takeEntries limit more cs = .ok (es, rest) :=
  ((steady steps).2.2 cs es rest h).2 more (Nat.le_trans (Nat.min_le_left _ _) hle)

theorem takeName?_eq_some {rest : List Char} : takeName? cs = some (v, rest) ↔
    ∃ name, (name, v) ∈ names ∧ cs = name.toList ++ rest := by
  constructor
  · intro h
    unfold takeName? at h
    split at h
    case h_7 => cases h
    all_goals
      obtain ⟨rfl, rfl⟩ := Prod.mk.inj (Option.some.inj h)
      exact ⟨_, by simp only [names, List.mem_cons]; tauto, rfl⟩
  · rintro ⟨name, hname, rfl⟩
    simp only [names, List.mem_cons, Prod.mk.injEq, List.not_mem_nil, or_false] at hname
    rcases hname with ⟨rfl, rfl⟩ | ⟨rfl, rfl⟩ | ⟨rfl, rfl⟩ | ⟨rfl, rfl⟩ | ⟨rfl, rfl⟩ | ⟨rfl, rfl⟩
    all_goals rfl

theorem tells_name {name : String} (h : (name, v) ∈ names) : Tells limit name.toList v := by
  simp only [names, List.mem_cons, Prod.mk.injEq, List.not_mem_nil, or_false] at h
  rcases h with ⟨rfl, rfl⟩ | ⟨rfl, rfl⟩ | ⟨rfl, rfl⟩ | ⟨rfl, rfl⟩ | ⟨rfl, rfl⟩ | ⟨rfl, rfl⟩
  all_goals exact ⟨⟨_, _, rfl, by decide, by decide⟩, fun _ _ => ⟨1, rfl⟩⟩

theorem starts_of_isDigit {c : Char} (h : c.isDigit = true) (tail : List Char) : Starts (c :: tail) := by
  refine ⟨c, tail, rfl, ?_, fun heq => ?_⟩
  · rw [← Bool.not_eq_true]
    intro hspace
    rw [(ends_of_isSpace hspace).1] at h
    cases h
  · rw [heq] at h
    cases h

theorem tells_number {negative : Bool} {whole point fraction mark : List Char} {power : Option Int} (hwhole : Whole whole)
    (hfraction : Fraction point fraction) (hpower : Power mark power)
    (hshort : point = [] → mark = [] → ∀ most ∈ limit, whole.length ≤ most) :
    Tells limit ((if negative then ['-'] else []) ++ (whole ++ (point ++ mark)))
      (numberOf negative whole fraction power) := by
  have htaken := fun (rest : List Char) (hrest : Ends rest) =>
    takeNumber_spelled hwhole hfraction hpower hshort hrest negative
  obtain ⟨c, tail, rfl⟩ := List.exists_cons_of_ne_nil hwhole.ne_nil
  have hc := hwhole.isDigit c List.mem_cons_self
  simp only [List.cons_append] at htaken ⊢
  cases negative with
  | false =>
    refine ⟨starts_of_isDigit hc _, fun rest hrest => ⟨1, ?_⟩⟩
    simp only [Bool.false_eq_true, ↓reduceIte, List.nil_append, List.cons_append, List.append_assoc]
    exact (takeValue_of_isDigit hc _).1.trans (htaken rest hrest)
  | true =>
    refine ⟨⟨'-', _, rfl, by decide, by decide⟩, fun rest hrest => ⟨1, ?_⟩⟩
    simp only [↓reduceIte, List.cons_append, List.nil_append, List.append_assoc]
    exact (takeValue_of_isDigit hc _).2.trans (htaken rest hrest)

theorem tells_text {s : List Char} (h : Body cs s) : Tells limit ('"' :: (cs ++ ['"'])) (.text (String.ofList s)) := by
  refine ⟨⟨'"', _, rfl, by decide, by decide⟩, fun rest _ => ⟨1, ?_⟩⟩
  rw [List.cons_append, List.append_assoc, List.singleton_append, takeValue]
  simp only [h.takeString_allowed]

/-! ### Lists and objects are read -/

theorem separated_cons_cons {α : Type} (text : α → List Char) (a b : α) (as : List α) (rest : List Char) :
    separated ((a :: b :: as).map text) ++ rest = text a ++ ',' :: (separated ((b :: as).map text) ++ rest) := by
  rw [List.map_cons, List.map_cons, separated, List.intercalate_cons_cons, List.append_assoc, List.append_assoc]
  rfl

theorem separated_singleton (t : List Char) : separated [t] = t := List.intercalate_singleton

/-- What stands behind the blanks in front of a value. -/
theorem Part.skipSpace {p : Part} (h : p.Padded) (hstarts : Starts p.inner) (rest : List Char) :
    skipSpace (p.text ++ rest) = p.inner ++ (p.back ++ rest) := by
  rw [Part.text, List.append_assoc, List.append_assoc, skipSpace_blank h.1, hstarts.skipSpace]

/-- An item is read, and then what stands behind it decides. -/
theorem takeItems_part {p : Part} (h : p.Padded) (htells : Tells limit p.inner p.value) {rest : List Char}
    (hrest : Ends rest) : ∃ steps, ∀ more, steps ≤ more →
      takeItems limit (more + 1) (skipSpace (p.text ++ rest)) = match skipSpace rest with
        | ']' :: rest => .ok ([p.value], rest)
        | ',' :: rest => do
          let (items, rest) ← takeItems limit more (skipSpace rest)
          .ok (p.value :: items, rest)
        | _ => .error .malformed := by
  obtain ⟨steps, hsteps⟩ := htells.taken (p.back ++ rest) (hrest.blank h.2)
  refine ⟨steps, fun more hmore => ?_⟩
  rw [p.skipSpace h htells.starts, takeItems, takeValue_mono hsteps hmore]
  show (match skipSpace (p.back ++ rest) with
    | ']' :: rest => _
    | ',' :: rest => _
    | _ => _) = _
  rw [skipSpace_blank h.2]

theorem takeItems_separated : ∀ {parts : List Part}, parts ≠ [] → (∀ p ∈ parts, p.Padded) →
    (∀ p ∈ parts, Tells limit p.inner p.value) → ∀ rest, ∃ steps,
      takeItems limit steps (skipSpace (separated (parts.map Part.text) ++ ']' :: rest)) =
        .ok (parts.map Part.value, rest)
  | [], hne, _, _, _ => absurd rfl hne
  | [p], _, hpadded, htells, rest => by
    obtain ⟨steps, hsteps⟩ := takeItems_part (hpadded p List.mem_cons_self) (htells p List.mem_cons_self)
      (ends_of_head (c := ']') (by decide) rest)
    exact ⟨steps + 1, by rw [List.map_singleton, separated_singleton]; exact hsteps steps (Nat.le_refl _)⟩
  | p :: q :: parts, _, hpadded, htells, rest => by
    obtain ⟨hp, hpadded⟩ := List.forall_mem_cons.mp hpadded
    obtain ⟨hptells, htells⟩ := List.forall_mem_cons.mp htells
    obtain ⟨more, hmore⟩ := takeItems_separated (List.cons_ne_nil q parts) hpadded htells rest
    obtain ⟨steps, hsteps⟩ := takeItems_part hp hptells
      (ends_of_head (c := ',') (by decide) (separated ((q :: parts).map Part.text) ++ ']' :: rest))
    -- The first item and the others are read with the greater of their numbers of steps.
    refine ⟨max steps more + 1, ?_⟩
    rw [separated_cons_cons, hsteps _ (Nat.le_max_left steps more)]
    exact bind_eq_ok.mpr ⟨_, takeItems_mono hmore (Nat.le_max_right steps more), rfl⟩

theorem tells_list {parts : List Part} (hne : parts ≠ []) (hpadded : ∀ p ∈ parts, p.Padded)
    (htells : ∀ p ∈ parts, Tells limit p.inner p.value) :
    Tells limit ('[' :: (separated (parts.map Part.text) ++ [']'])) (.list (parts.map Part.value)) := by
  refine ⟨⟨'[', _, rfl, by decide, by decide⟩, fun rest _ => ?_⟩
  obtain ⟨steps, hsteps⟩ := takeItems_separated hne hpadded htells rest
  obtain ⟨p, parts, rfl⟩ := List.exists_cons_of_ne_nil hne
  have hnotEnd : ∀ back, skipSpace (separated ((p :: parts).map Part.text) ++ ']' :: rest) ≠ ']' :: back := by
    obtain ⟨c, tail, hc, -, hend⟩ := (htells p List.mem_cons_self).starts
    have hfront : ∃ behind, separated ((p :: parts).map Part.text) ++ ']' :: rest = p.text ++ behind := by
      cases parts with
      | nil => exact ⟨_, by rw [List.map_singleton, separated_singleton]⟩
      | cons q parts => exact ⟨_, separated_cons_cons Part.text p q parts _⟩
    obtain ⟨behind, hbehind⟩ := hfront
    intro back heq
    rw [hbehind, p.skipSpace (hpadded p List.mem_cons_self) (htells p List.mem_cons_self).starts, hc] at heq
    exact hend (List.cons.inj heq).1
  refine ⟨steps + 1, ?_⟩
  rw [List.cons_append, List.append_assoc, List.singleton_append, takeValue_of_items hnotEnd, hsteps]
  rfl

/-- An entry is read, and then what stands behind it decides. -/
theorem takeEntries_entry {e : Entry} (h : e.WellFormed) (htells : Tells limit e.part.inner e.part.value)
    {rest : List Char} (hrest : Ends rest) : ∃ steps, ∀ more, steps ≤ more →
      takeEntries limit (more + 1) (skipSpace (e.text ++ rest)) = match skipSpace rest with
        | '\x7d' :: rest => .ok ([e.pair], rest)
        | ',' :: rest => do
          let (entries, rest) ← takeEntries limit more (skipSpace rest)
          .ok (e.pair :: entries, rest)
        | _ => .error .malformed := by
  obtain ⟨steps, hsteps⟩ := htells.taken (e.part.back ++ rest) (hrest.blank h.padded.2)
  refine ⟨steps, fun more hmore => ?_⟩
  have hquote (tail : List Char) : skipSpace ('"' :: tail) = '"' :: tail := rfl
  have hcolon (tail : List Char) : skipSpace (':' :: tail) = ':' :: tail := rfl
  have hvalue : skipSpace (e.part.text ++ rest) = e.part.inner ++ (e.part.back ++ rest) :=
    e.part.skipSpace h.padded htells.starts rest
  simp only [Entry.text, List.append_assoc, List.cons_append]
  rw [skipSpace_blank h.front, hquote, takeEntries]
  simp only [h.key.takeString_allowed, skipSpace_blank h.behind, hcolon, hvalue, takeValue_mono hsteps hmore]
  show (match skipSpace (e.part.back ++ rest) with
    | '\x7d' :: rest => _
    | ',' :: rest => _
    | _ => _) = _
  rw [skipSpace_blank h.padded.2]
  rfl

theorem takeEntries_separated : ∀ {entries : List Entry}, entries ≠ [] → (∀ e ∈ entries, e.WellFormed) →
    (∀ e ∈ entries, Tells limit e.part.inner e.part.value) → ∀ rest, ∃ steps,
      takeEntries limit steps (skipSpace (separated (entries.map Entry.text) ++ '\x7d' :: rest)) =
        .ok (entries.map Entry.pair, rest)
  | [], hne, _, _, _ => absurd rfl hne
  | [e], _, hformed, htells, rest => by
    obtain ⟨steps, hsteps⟩ := takeEntries_entry (hformed e List.mem_cons_self) (htells e List.mem_cons_self)
      (ends_of_head (c := '\x7d') (by decide) rest)
    exact ⟨steps + 1, by rw [List.map_singleton, separated_singleton]; exact hsteps steps (Nat.le_refl _)⟩
  | e :: f :: entries, _, hformed, htells, rest => by
    obtain ⟨he, hformed⟩ := List.forall_mem_cons.mp hformed
    obtain ⟨hetells, htells⟩ := List.forall_mem_cons.mp htells
    obtain ⟨more, hmore⟩ := takeEntries_separated (List.cons_ne_nil f entries) hformed htells rest
    obtain ⟨steps, hsteps⟩ := takeEntries_entry he hetells
      (ends_of_head (c := ',') (by decide) (separated ((f :: entries).map Entry.text) ++ '\x7d' :: rest))
    refine ⟨max steps more + 1, ?_⟩
    rw [separated_cons_cons, hsteps _ (Nat.le_max_left steps more)]
    exact bind_eq_ok.mpr ⟨_, takeEntries_mono hmore (Nat.le_max_right steps more), rfl⟩

theorem tells_dict {entries : List Entry} (hne : entries ≠ []) (hformed : ∀ e ∈ entries, e.WellFormed)
    (htells : ∀ e ∈ entries, Tells limit e.part.inner e.part.value) :
    Tells limit ('\x7b' :: (separated (entries.map Entry.text) ++ ['\x7d']))
      (.dict (Row.ofList (entries.map Entry.pair))) := by
  refine ⟨⟨'\x7b', _, rfl, by decide, by decide⟩, fun rest _ => ?_⟩
  obtain ⟨steps, hsteps⟩ := takeEntries_separated hne hformed htells rest
  obtain ⟨e, entries, rfl⟩ := List.exists_cons_of_ne_nil hne
  have hnotEnd : ∀ back, skipSpace (separated ((e :: entries).map Entry.text) ++ '\x7d' :: rest) ≠ '\x7d' :: back := by
    have hfront : ∃ behind, separated ((e :: entries).map Entry.text) ++ '\x7d' :: rest = e.front ++ '"' :: behind := by
      cases entries with
      | nil => exact ⟨_, by rw [List.map_singleton, separated_singleton, Entry.text, List.append_assoc]; rfl⟩
      | cons f entries => exact ⟨_, by rw [separated_cons_cons, Entry.text, List.append_assoc]; rfl⟩
    obtain ⟨behind, hbehind⟩ := hfront
    intro back heq
    rw [hbehind, skipSpace_blank (hformed e List.mem_cons_self).front] at heq
    cases heq
  refine ⟨steps + 1, ?_⟩
  rw [List.cons_append, List.append_assoc, List.singleton_append, takeValue_of_entries hnotEnd, hsteps]
  rfl

/-- What spells a value is read as the value, whatever stands behind it that does not go on with a number. -/
theorem Spells.tells (h : Spells limit cs v) : Tells limit cs v := by
  induction h with
  | name h => exact tells_name h
  | number hwhole hfraction hpower hshort => exact tells_number hwhole hfraction hpower hshort
  | text h => exact tells_text h
  | emptyList h =>
    refine ⟨⟨'[', _, rfl, by decide, by decide⟩, fun rest _ => ⟨1, ?_⟩⟩
    have hend : skipSpace (']' :: rest) = ']' :: rest := rfl
    rw [List.cons_append, List.append_assoc, List.singleton_append, takeValue]
    simp only [skipSpace_blank h, hend]
  | emptyDict h =>
    refine ⟨⟨'\x7b', _, rfl, by decide, by decide⟩, fun rest _ => ⟨1, ?_⟩⟩
    have hend : skipSpace ('\x7d' :: rest) = '\x7d' :: rest := rfl
    rw [List.cons_append, List.append_assoc, List.singleton_append, takeValue]
    simp only [skipSpace_blank h, hend]
  | list hne hpadded _ ih => exact tells_list hne hpadded ih
  | dict hne hformed _ ih => exact tells_dict hne hformed ih

end

end Json
end TableQuery
