import Mathlib.Data.List.DropRight
import TableQuery.Proofs.Marks

/-! Reading a condition in statement text the way a store does. Text falls into words, quoted pieces and signs;
    parentheses bind strongest, then `BETWEEN` with the `AND` that belongs to it, then `AND`, then `OR`. The
    reading of texts that are put next to each other or into parentheses is that of their parts. -/

namespace TableQuery

/-- What a condition means: a single test, a condition in parentheses, and conditions that all, or of which one,
    has to hold. -/
inductive Reading
  | test (text : String)
  | parens (inside : Reading)
  | and (rs : List Reading)
  | or (rs : List Reading)

namespace Reading

/-- The reading that all of some conditions hold. -/
def conj : List Reading → Reading
  | [r] => r
  | rs => .and rs

/-- The reading that one of some conditions holds. -/
def disj : List Reading → Reading
  | [r] => r
  | rs => .or rs

end Reading

/-! ### Lexemes -/

/-- A piece of statement text. Quoted text falls into single characters, since nothing in it has a meaning. -/
inductive Lexeme
  | blank (c : Char)
  | word (w : List Char)
  | quoted (c : Char)
  | sign (c : Char)
  | opening
  | closing

namespace Lexeme

def text : Lexeme → List Char
  | blank c | quoted c | sign c => [c]
  | word w => w
  | opening => ['(']
  | closing => [')']

def isSpace (c : Char) : Bool := c = ' ' || (9 ≤ c.toNat && c.toNat ≤ 13)

/-- Whether a character can be part of a word. -/
def isWordPart (c : Char) : Bool := c.isAlphanum || c = '_' || c = '$' || 127 < c.toNat

/-- A character in front of lexemes. Characters of a word become one. -/
def attach (c : Char) (ls : List Lexeme) : List Lexeme :=
  if isQuoteMark c then .quoted c :: ls
  else if isSpace c then .blank c :: ls
  else if c = '(' then .opening :: ls
  else if c = ')' then .closing :: ls
  else if isWordPart c then
    match ls with
    | .word w :: ls => .word (c :: w) :: ls
    | ls => .word [c] :: ls
  else .sign c :: ls

/-- Whether a comment starts with text. -/
def startsComment (d : Dialect) : List Char → Bool
  | '-' :: '-' :: _ => true
  | '/' :: '*' :: _ => true
  | '#' :: _ => d = .mysql
  | _ => false

/-- The lexemes of text that starts inside the given quote; none if there is a comment in it or a quote that is
    left open. -/
def cut (d : Dialect) : Option Char → List Char → Option (List Lexeme)
  | none, [] => some []
  | some _, [] => none
  | some q, c :: cs => (cut d (quoteAfter (some q) c) cs).map (.quoted c :: ·)
  | none, c :: cs =>
    if startsComment d (c :: cs) then none else (cut d (quoteAfter none c) cs).map (attach c)

/-- Two characters that mean the same next to each other as apart. -/
def Apart (c c' : Char) : Prop :=
  ¬ (isWordPart c = true ∧ isWordPart c' = true) ∧ ¬ (c = '-' ∧ c' = '-') ∧ ¬ (c = '/' ∧ c' = '*')

/-- A character that is apart from every other. -/
def isApart (c : Char) : Bool := !isWordPart c && c ≠ '-' && c ≠ '/' && c ≠ '*'

section
variable {d : Dialect} {inside : Option Char} {c : Char} {cs ds : List Char} {ls ms : List Lexeme}

theorem text_attach : (attach c ls).flatMap text = c :: ls.flatMap text := by
  unfold attach
  split
  · rfl
  split
  · rfl
  split
  · rename_i h
    subst h
    rfl
  split
  · rename_i h
    subst h
    rfl
  split
  · split <;> rfl
  · rfl

/-- Nothing of the text is lost. -/
theorem text_cut (h : cut d inside cs = some ls) : ls.flatMap text = cs := by
  induction cs generalizing inside ls with
  | nil =>
    cases inside with
    | none =>
      cases h
      rfl
    | some q => cases h
  | cons c cs ih =>
    cases inside with
    | none =>
      rw [cut] at h
      split at h
      · cases h
      · obtain ⟨ls, hls, rfl⟩ := Option.map_eq_some_iff.mp h
        rw [text_attach, ih hls]
    | some q =>
      rw [cut] at h
      obtain ⟨ls, hls, rfl⟩ := Option.map_eq_some_iff.mp h
      rw [List.flatMap_cons, ih hls]
      rfl

/-- A word stands where the text has a character of a word. -/
theorem isWordPart_of_cut {w : List Char} (h : cut d none ds = some (.word w :: ms)) :
    ∃ c ∈ ds.head?, isWordPart c = true := by
  cases ds with
  | nil => cases h
  | cons c ds =>
    refine ⟨c, rfl, ?_⟩
    rw [cut] at h
    split at h
    · cases h
    obtain ⟨ls, -, h⟩ := Option.map_eq_some_iff.mp h
    unfold attach at h
    split at h
    · cases h
    split at h
    · cases h
    split at h
    · cases h
    split at h
    · cases h
    split at h
    · assumption
    · cases h

theorem attach_append (h : ls ≠ []) : attach c (ls ++ ms) = attach c ls ++ ms := by
  unfold attach
  cases ls with
  | nil => exact absurd rfl h
  | cons l ls =>
    rw [List.cons_append]
    repeat' split
    all_goals first | rfl | simp_all

theorem attach_nil (h : ∀ w ms', ms = .word w :: ms' → isWordPart c = false) : attach c ms = attach c [] ++ ms := by
  unfold attach
  repeat' split
  all_goals first | rfl | simp_all

/-- Whether a comment starts is seen from the first two characters. -/
theorem startsComment_cons_cons {c' : Char} : startsComment d (c :: c' :: cs) = startsComment d (c :: c' :: ds) := by
  unfold startsComment
  repeat' split
  all_goals simp_all

theorem startsComment_of_append (h : startsComment d (cs ++ ds) = false) : startsComment d cs = false := by
  cases cs with
  | nil => rfl
  | cons c cs =>
    cases cs with
    | nil =>
      unfold startsComment
      split
      · rename_i heq
        cases heq
      · rename_i heq
        cases heq
      · rename_i heq
        cases heq
        exact h
      · rfl
    | cons c' cs => exact startsComment_cons_cons.trans h

theorem startsComment_append (h : startsComment d (c :: cs) = false)
    (hapart : cs = [] → ∀ c' ∈ ds.head?, Apart c c') : startsComment d (c :: (cs ++ ds)) = false := by
  cases cs with
  | nil =>
    cases ds with
    | nil => exact h
    | cons c' ds =>
      obtain ⟨-, hdash, hslash⟩ := hapart rfl c' rfl
      unfold startsComment
      split
      · rename_i heq
        cases heq
        exact absurd ⟨rfl, rfl⟩ hdash
      · rename_i heq
        cases heq
        exact absurd ⟨rfl, rfl⟩ hslash
      · rename_i heq
        cases heq
        exact h
      · rfl
  | cons c' cs => exact startsComment_cons_cons.trans h

/-- Texts next to each other have the lexemes of both, unless characters at their border go together. -/
theorem cut_append (ha : cut d inside cs = some ls) (hb : cut d none ds = some ms)
    (hapart : ∀ c ∈ cs.getLast?, ∀ c' ∈ ds.head?, Apart c c') : cut d inside (cs ++ ds) = some (ls ++ ms) := by
  induction cs generalizing inside ls with
  | nil =>
    cases inside with
    | none =>
      cases ha
      exact hb
    | some q => cases ha
  | cons c cs ih =>
    have hlast : ∀ x ∈ cs.getLast?, ∀ c' ∈ ds.head?, Apart x c' := by
      intro x hx
      refine hapart x ?_
      cases cs with
      | nil => cases hx
      | cons c' cs => simpa using hx
    cases inside with
    | some q =>
      rw [cut] at ha
      obtain ⟨ls, hls, rfl⟩ := Option.map_eq_some_iff.mp ha
      rw [List.cons_append, cut, ih hls hlast]
      rfl
    | none =>
      rw [cut] at ha
      split at ha
      · cases ha
      rename_i hcomment
      obtain ⟨ls, hls, rfl⟩ := Option.map_eq_some_iff.mp ha
      have hborder : cs = [] → ∀ c' ∈ ds.head?, Apart c c' := by
        rintro rfl
        exact hapart c rfl
      have hcomment' := startsComment_append (Bool.eq_false_iff.mpr hcomment) hborder
      rw [List.cons_append, cut, hcomment', ih hls hlast]
      refine congrArg some ?_
      by_cases hcs : cs = []
      · have hnil : ls = [] := by
          subst hcs
          cases hq : quoteAfter none c with
          | none =>
            rw [hq] at hls
            cases hls
            rfl
          | some q =>
            rw [hq] at hls
            cases hls
        rw [hnil, List.nil_append]
        refine attach_nil fun w ms' hms => ?_
        obtain ⟨c', hc', hword⟩ := isWordPart_of_cut (hms ▸ hb)
        exact Bool.eq_false_iff.mpr fun hc => (hborder hcs c' hc').1 ⟨hc, hword⟩
      · refine attach_append fun hnil => hcs ?_
        rw [← text_cut hls, hnil]
        rfl

end
end Lexeme

/-! ### Elements -/

/-- What a condition is made of at one level of parentheses. -/
inductive Element
  | lexeme (l : Lexeme)
  /-- An `AND` that belongs to a range. -/
  | held (w : List Char)
  | parens (inside : Reading) (text : List Char)

namespace Element

def text : Element → List Char
  | lexeme l => l.text
  | held w => w
  | parens _ cs => cs

def isBlank : Element → Bool
  | lexeme (.blank _) => true
  | _ => false

/-- Whether an element is a keyword, in capitals or not. -/
def isWord (keyword : String) : Element → Bool
  | lexeme (.word w) => w.map Char.toUpper = keyword.toList
  | _ => false

/-- Gives each range its `AND`; the number says how many ranges still have none. -/
def bindRanges : Nat → List Element → List Element
  | _, [] => []
  | owed, e :: es =>
    if e.isWord "BETWEEN" then e :: bindRanges (owed + 1) es
    else if e.isWord "AND" && 0 < owed then .held e.text :: bindRanges (owed - 1) es
    else e :: bindRanges owed es

/-- The reading of elements between connectives: what is in parentheses, if it is nothing else, or a test. -/
def unit (es : List Element) : Reading :=
  match (es.dropWhile isBlank).rdropWhile isBlank with
  | [.parens inside _] => .parens inside
  | es => .test (String.ofList (es.flatMap text))

/-- The reading of elements of which all between the `AND`s have to hold. -/
def conjunction (es : List Element) : Reading := .conj ((es.splitOnP (isWord "AND")).map unit)

/-- The reading of the elements at one level. Without any, nothing has to hold. -/
def read (es : List Element) : Reading :=
  if es.all isBlank then .and []
  else .disj (((bindRanges 0 es).splitOnP (isWord "OR")).map conjunction)

/-- The elements of the levels of parentheses that are open, with a lexeme more. -/
def push : List (List Element) → Lexeme → Option (List (List Element))
  | levels, .opening => some ([] :: levels)
  | inner :: outer :: levels, .closing =>
    some ((outer ++ [.parens (read inner) ('(' :: inner.flatMap text ++ [')'])]) :: levels)
  | _, .closing => none
  | level :: levels, l => some ((level ++ [.lexeme l]) :: levels)
  | [], _ => none

/-- The elements of lexemes; none if the parentheses are not nested. -/
def nest (ls : List Lexeme) : Option (List Element) :=
  match ls.foldlM push [[]] with
  | some [es] => some es
  | _ => none

/-- The elements of statement text. -/
def ofText? (d : Dialect) (s : String) : Option (List Element) := (Lexeme.cut d none s.toList).bind nest

end Element

/-- The reading of statement text; none if a quote is left open, parentheses are not nested, or there is a
    comment. -/
def Reading.ofText? (d : Dialect) (s : String) : Option Reading := (Element.ofText? d s).map Element.read

example : Reading.ofText? .sqlite "a between ? and ? AND b = ' OR ' OR (c OR d)" =
    some (.or [.and [.test "a between ? and ?", .test "b = ' OR '"], .parens (.or [.test "c", .test "d"])]) := rfl

namespace Element
variable {d : Dialect} {s t : String} {es fs : List Element} {ls ms : List Lexeme}

/-! ### Nesting -/

/-- A level that has more in front, and levels below it, are left as they are. -/
theorem push_frame {init levels : List (List Element)} {last : List Element} {l : Lexeme}
    (h : push (init ++ [last]) l = some levels) (front : List Element) (below : List (List Element)) :
    ∃ init' last', levels = init' ++ [last'] ∧
      push (init ++ (front ++ last) :: below) l = some (init' ++ (front ++ last') :: below) := by
  cases l with
  | opening =>
    cases h
    exact ⟨[] :: init, last, rfl, rfl⟩
  | closing =>
    cases init with
    | nil => cases h
    | cons inner init =>
      cases init with
      | nil =>
        cases h
        exact ⟨[], _, rfl, by simp [push]⟩
      | cons outer init =>
        cases h
        exact ⟨_ :: init, last, rfl, rfl⟩
  | _ =>
    cases init with
    | nil =>
      cases h
      exact ⟨[], _, rfl, by simp [push]⟩
    | cons level init =>
      cases h
      exact ⟨_ :: init, last, rfl, rfl⟩

theorem foldlM_push_frame (front : List Element) (below : List (List Element)) :
    ∀ {ls : List Lexeme} {init levels : List (List Element)} {last : List Element},
      ls.foldlM push (init ++ [last]) = some levels → ∃ init' last', levels = init' ++ [last'] ∧
        ls.foldlM push (init ++ (front ++ last) :: below) = some (init' ++ (front ++ last') :: below)
  | [], init, levels, last, h => by
    cases h
    exact ⟨init, last, rfl, rfl⟩
  | l :: ls, init, levels, last, h => by
    rw [List.foldlM_cons] at h
    obtain ⟨next, hnext, h⟩ := Option.bind_eq_some_iff.mp h
    obtain ⟨init', last', rfl, hpush⟩ := push_frame hnext front below
    obtain ⟨init'', last'', rfl, hrest⟩ := foldlM_push_frame front below h
    refine ⟨init'', last'', rfl, ?_⟩
    rw [List.foldlM_cons, hpush]
    exact hrest

/-- Lexemes that are nested add their elements to the level that they stand on. -/
theorem foldlM_push_of_nest (h : nest ls = some es) (front : List Element) (below : List (List Element)) :
    ls.foldlM push (front :: below) = some ((front ++ es) :: below) := by
  unfold nest at h
  split at h
  · rename_i heq
    cases h
    have hopen : ls.foldlM push ([] ++ [[]]) = some [es] := heq
    obtain ⟨init, last, hsplit, hframe⟩ := foldlM_push_frame front below hopen
    obtain ⟨rfl, rfl⟩ : init = [] ∧ last = es := by
      cases init with
      | nil =>
        cases hsplit
        exact ⟨rfl, rfl⟩
      | cons level init => simp at hsplit
    rw [List.nil_append, List.append_nil] at hframe
    exact hframe
  · cases h

theorem nest_append (ha : nest ls = some es) (hb : nest ms = some fs) : nest (ls ++ ms) = some (es ++ fs) := by
  unfold nest
  rw [List.foldlM_append, foldlM_push_of_nest ha [] []]
  show (match ms.foldlM push ([] ++ es :: []) with | some [es] => some es | _ => none) = _
  rw [List.nil_append, foldlM_push_of_nest hb es []]

theorem nest_parens (h : nest ls = some es) : nest (.opening :: ls ++ [.closing]) =
    some [.parens (read es) ('(' :: es.flatMap text ++ [')'])] := by
  unfold nest
  rw [List.cons_append, List.foldlM_cons]
  show (match (ls ++ [Lexeme.closing]).foldlM push ([] :: [[]]) with | some [es] => some es | _ => none) = _
  rw [List.foldlM_append, foldlM_push_of_nest h [] [[]]]
  rfl

/-- What the open levels hold, with the parentheses between them. -/
def heldText : List (List Element) → List Char
  | [] => []
  | [level] => level.flatMap text
  | level :: levels => heldText levels ++ '(' :: level.flatMap text

theorem heldText_append {level : List Element} {levels : List (List Element)} :
    heldText ((level ++ es) :: levels) = heldText (level :: levels) ++ es.flatMap text := by
  cases levels with
  | nil => simp [heldText]
  | cons outer levels => simp [heldText]

theorem heldText_push {level : List Element} {levels levels' : List (List Element)} {l : Lexeme}
    (h : push (level :: levels) l = some levels') :
    levels' ≠ [] ∧ heldText levels' = heldText (level :: levels) ++ l.text := by
  cases l with
  | opening =>
    cases h
    exact ⟨List.cons_ne_nil _ _, rfl⟩
  | closing =>
    cases levels with
    | nil => cases h
    | cons outer levels =>
      cases h
      refine ⟨List.cons_ne_nil _ _, ?_⟩
      rw [heldText_append]
      simp [heldText, text, Lexeme.text]
  | _ =>
    cases h
    refine ⟨List.cons_ne_nil _ _, ?_⟩
    rw [heldText_append]
    simp [text]

theorem heldText_foldlM : ∀ {ls : List Lexeme} {levels levels' : List (List Element)}, levels ≠ [] →
    ls.foldlM push levels = some levels' → heldText levels' = heldText levels ++ ls.flatMap Lexeme.text
  | [], _, _, _, h => by
    cases h
    simp
  | _ :: _, [], _, hne, _ => absurd rfl hne
  | l :: ls, level :: levels, _, _, h => by
    rw [List.foldlM_cons] at h
    obtain ⟨next, hnext, h⟩ := Option.bind_eq_some_iff.mp h
    obtain ⟨hne, htext⟩ := heldText_push hnext
    rw [heldText_foldlM hne h, htext, List.append_assoc, List.flatMap_cons]

/-- Nothing of the text is lost. -/
theorem text_ofText? (h : ofText? d s = some es) : es.flatMap text = s.toList := by
  obtain ⟨ls, hcut, h⟩ := Option.bind_eq_some_iff.mp h
  unfold nest at h
  split at h
  · rename_i heq
    cases h
    have := heldText_foldlM (List.cons_ne_nil _ _) heq
    rw [Lexeme.text_cut hcut] at this
    exact this
  · cases h

/-! ### Text put together -/

/-- Texts that may stand next to each other. -/
def Separate (s t : String) : Prop := ∀ c ∈ s.toList.getLast?, ∀ c' ∈ t.toList.head?, Lexeme.Apart c c'

theorem separate_of_left (h : s.toList.getLast?.all Lexeme.isApart = true) : Separate s t := by
  intro c hc c' _
  have hc := (Option.all_eq_true _ _).mp h c hc
  simp only [Lexeme.isApart, Bool.and_eq_true, Bool.not_eq_true', decide_eq_true_eq] at hc
  obtain ⟨⟨⟨hword, hdash⟩, hslash⟩, -⟩ := hc
  exact ⟨fun hboth => by simp [hword] at hboth, fun hboth => hdash hboth.1, fun hboth => hslash hboth.1⟩

theorem separate_of_right (h : t.toList.head?.all Lexeme.isApart = true) : Separate s t := by
  intro c _ c' hc'
  have hc := (Option.all_eq_true _ _).mp h c' hc'
  simp only [Lexeme.isApart, Bool.and_eq_true, Bool.not_eq_true', decide_eq_true_eq] at hc
  obtain ⟨⟨⟨hword, hdash⟩, -⟩, hstar⟩ := hc
  exact ⟨fun hboth => by simp [hword] at hboth, fun hboth => hdash hboth.2, fun hboth => hstar hboth.2⟩

theorem ofText?_append (hs : ofText? d s = some es) (ht : ofText? d t = some fs) (h : Separate s t) :
    ofText? d (s ++ t) = some (es ++ fs) := by
  obtain ⟨ls, hls, hes⟩ := Option.bind_eq_some_iff.mp hs
  obtain ⟨ms, hms, hfs⟩ := Option.bind_eq_some_iff.mp ht
  refine Option.bind_eq_some_iff.mpr ⟨ls ++ ms, ?_, nest_append hes hfs⟩
  rw [String.toList_append]
  exact Lexeme.cut_append hls hms h

theorem ofText?_parens (h : ofText? d s = some es) :
    ofText? d ("(" ++ s ++ ")") = some [.parens (read es) ('(' :: es.flatMap text ++ [')'])] := by
  obtain ⟨ls, hls, hes⟩ := Option.bind_eq_some_iff.mp h
  refine Option.bind_eq_some_iff.mpr ⟨_, ?_, nest_parens hes⟩
  rw [String.toList_append, String.toList_append]
  have hopening : Lexeme.cut d none "(".toList = some [.opening] := rfl
  have hclosing : Lexeme.cut d none ")".toList = some [.closing] := rfl
  have hborder : Separate ("(" ++ s) ")" := separate_of_right rfl
  have hfront := Lexeme.cut_append hopening hls (separate_of_left rfl : Separate "(" s)
  rw [Separate, String.toList_append] at hborder
  exact Lexeme.cut_append hfront hclosing hborder

theorem separate_parens : Separate t ("(" ++ s ++ ")") := by
  refine separate_of_right ?_
  rw [String.toList_append, String.toList_append]
  rfl

end Element
end TableQuery
