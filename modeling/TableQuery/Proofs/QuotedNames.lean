import TableQuery.Proofs.Substitution

/-! Quoted names, read the way a store reads identifiers: a quote ends an identifier unless it is written twice. What is
    read is the name that was quoted, segment by segment, whatever characters it has; so different names stay different,
    and text behind a quoted name is rendered as if the name were not there. -/

namespace TableQuery

/-- A part of a name as it stands in statement text. -/
inductive NameToken
  | identifier (s : String)
  | star
  | dot
  deriving DecidableEq, Repr

namespace NameToken

def text : NameToken → String
  | identifier s => s
  | star => "*"
  | dot => "."

/-- The part that a segment of a name is to be read as. -/
def ofSegment (s : String) : NameToken := if s = "*" then star else identifier s

/-- Segments with dots between them. -/
def ofSegments (ss : List String) : List NameToken := (ss.map ofSegment).intersperse dot

/-- Reads statement text as parts of a name, where `q` is the quote of identifiers. Inside an identifier, of which
    `inside` is what has been read, a quote is the end unless another one follows, and then both stand for one. There
    is no reading of text that holds anything else, or that ends inside an identifier. -/
def read (q : Char) : Option (List Char) → List Char → Option (List NameToken)
  | none, [] => some []
  | none, c :: cs =>
    if c = q then read q (some []) cs
    else if c = '.' then (read q none cs).map (dot :: ·)
    else if c = '*' then (read q none cs).map (star :: ·)
    else none
  | some _, [] => none
  | some inside, [c] => if c = q then some [identifier (String.ofList inside)] else none
  | some inside, c :: d :: cs =>
    if c ≠ q then read q (some (inside ++ [c])) (d :: cs)
    else if d = q then read q (some (inside ++ [q])) cs
    else (read q none (d :: cs)).map (identifier (String.ofList inside) :: ·)

end NameToken

/-- The quote of identifiers; the generic dialect has none. -/
def Dialect.quoteMark? : Dialect → Option Char
  | generic => none
  | mysql => some '\x60'
  | sqlite | postgresql => some '"'

namespace NameToken
variable {q : Char} {inside cs rest : List Char} {s : String} {ss : List String}

/-! ### Parts and their text -/

theorem text_ofSegment (s : String) : (ofSegment s).text = s := by
  unfold ofSegment
  split
  · rename_i hstar
    exact hstar.symm
  · rfl

/-- Nothing of a name is lost in its parts. -/
theorem joinWith_text_ofSegments : joinWith "" ((ofSegments ss).map text) = joinWith "." ss := by
  induction ss with
  | nil => rfl
  | cons s ss ih =>
    cases ss with
    | nil => exact text_ofSegment s
    | cons t ss =>
      have hparts : ofSegments (s :: t :: ss) = ofSegment s :: dot :: ofSegments (t :: ss) := rfl
      have hne : (ofSegments (t :: ss)).map text ≠ [] := by
        cases ss <;> exact List.cons_ne_nil _ _
      rw [hparts, List.map_cons, List.map_cons, joinWith_cons (List.cons_ne_nil _ _), joinWith_cons hne, ih,
        text_ofSegment, joinWith_cons_cons]
      simp [text, String.append_assoc]

/-! ### Reading what is quoted -/

theorem read_closing (hrest : rest.head? ≠ some q) :
    read q (some inside) (q :: rest) = (read q none rest).map (identifier (String.ofList inside) :: ·) := by
  cases rest with
  | nil => simp [read]
  | cons d rest =>
    have hd : d ≠ q := fun heq => hrest (congrArg some heq)
    simp [read, hd]

theorem read_doubled : read q (some inside) (q :: q :: cs) = read q (some (inside ++ [q])) cs := by
  simp [read]

/-- Only the quote that ends an identifier can be the last character of one. -/
theorem read_char {c : Char} (hc : c ≠ q) (hcs : cs ≠ []) :
    read q (some inside) (c :: cs) = read q (some (inside ++ [c])) cs := by
  obtain ⟨d, ds, rfl⟩ := List.exists_cons_of_ne_nil hcs
  simp [read, hc]

theorem read_dot (hq : '.' ≠ q) : read q none ('.' :: rest) = (read q none rest).map (dot :: ·) := by
  simp [read, hq]

theorem read_star (hq : '*' ≠ q) : read q none ('*' :: rest) = (read q none rest).map (star :: ·) := by
  simp [read, hq]

/-- An identifier ends with the quote behind its doubled quotes, if none follows, and spells what was enclosed. -/
theorem read_body (hrest : rest.head? ≠ some q) : read q (some inside) (replaceChar q [q, q] cs ++ q :: rest) =
    (read q none rest).map (identifier (String.ofList (inside ++ cs)) :: ·) := by
  induction cs generalizing inside with
  | nil =>
    rw [List.append_nil]
    exact read_closing hrest
  | cons c cs ih =>
    have hcons : replaceChar q [q, q] (c :: cs) = (if c = q then [q, q] else [c]) ++ replaceChar q [q, q] cs := rfl
    rw [hcons]
    by_cases hc : c = q
    · rw [if_pos hc, List.append_assoc]
      show read q (some inside) (q :: q :: (replaceChar q [q, q] cs ++ q :: rest)) = _
      rw [read_doubled, ih, hc, List.append_assoc, List.singleton_append]
    · have hne : replaceChar q [q, q] cs ++ q :: rest ≠ [] :=
        List.append_ne_nil_of_right_ne_nil _ (List.cons_ne_nil q rest)
      rw [if_neg hc, List.append_assoc, List.singleton_append, read_char hc hne, ih, List.append_assoc,
        List.singleton_append]

theorem read_enclose (hrest : rest.head? ≠ some q) : read q none ((Dialect.enclose q s).toList ++ rest) =
    (read q none rest).map (identifier s :: ·) := by
  have hchars : (Dialect.enclose q s).toList ++ rest = q :: (replaceChar q [q, q] s.toList ++ q :: rest) := by
    simp [Dialect.enclose]
  rw [hchars, read, if_pos rfl, read_body hrest, List.nil_append, String.ofList_toList]

end NameToken

namespace Dialect
variable {d : Dialect} {q : Char} {rest : List Char} {ss : List String}
open NameToken

theorem quoteName_eq_enclose (hq : d.quoteMark? = some q) (s : String) : d.quoteName s = enclose q s := by
  cases d <;> cases hq <;> rfl

theorem isQuoteMark_of_quoteMark? (hq : d.quoteMark? = some q) : isQuoteMark q = true := by
  cases d <;> cases hq <;> rfl

theorem quote_eq_joinWith (d : Dialect) (name : String) :
    d.quote name = joinWith "." ((cutText '.' name).map d.quoteSegment) := by
  unfold quote
  split
  · rename_i hstar
    rw [hstar]
    rfl
  · rfl

theorem read_quoteSegment (hq : d.quoteMark? = some q) (hrest : rest.head? ≠ some q) (s : String) :
    read q none ((d.quoteSegment s).toList ++ rest) = (read q none rest).map (ofSegment s :: ·) := by
  unfold quoteSegment ofSegment
  split
  · rename_i hstar
    have hmark : '*' ≠ q := by
      rintro rfl
      exact absurd (isQuoteMark_of_quoteMark? hq) (by decide)
    subst hstar
    exact read_star hmark
  · rw [quoteName_eq_enclose hq, read_enclose hrest]

theorem read_quoteSegments (hq : d.quoteMark? = some q) :
    read q none (joinWith "." (ss.map d.quoteSegment)).toList = some (ofSegments ss) := by
  have hdot : '.' ≠ q := by
    rintro rfl
    exact absurd (isQuoteMark_of_quoteMark? hq) (by decide)
  induction ss with
  | nil => rfl
  | cons s ss ih =>
    cases ss with
    | nil =>
      rw [List.map_singleton, joinWith_singleton, ← List.append_nil (d.quoteSegment s).toList,
        read_quoteSegment hq (by simp) s]
      rfl
    | cons t ss =>
      -- A segment that others follow has a dot behind it, which is no quote.
      have hchars : (joinWith "." ((s :: t :: ss).map d.quoteSegment)).toList =
          (d.quoteSegment s).toList ++ '.' :: (joinWith "." ((t :: ss).map d.quoteSegment)).toList := by
        simp [joinWith_cons_cons]
      rw [hchars, read_quoteSegment hq (by simpa using hdot), read_dot hdot, ih]
      rfl

/-- In the dialects that quote, a quoted name reads as one part for each segment of the name, a star for a segment that
    is one and else an identifier that spells the segment, with dots between them and nothing left over. Their text is
    the name again, so that no other name has the same quotation. Behind it no quote is open and no placeholder has
    been met: text behind it falls into its own pieces, to the first of which the quoted name belongs. -/
theorem quote_reads_back (hq : d.quoteMark? = some q) (name : String) :
    read q none (d.quote name).toList = some (ofSegments (cutText '.' name)) ∧
    (read q none (d.quote name).toList).map (fun parts => joinWith "" (parts.map NameToken.text)) = some name ∧
    (∀ other, d.quote other = d.quote name → other = name) ∧
    ∀ rest piece pieces, placeholderPieces none rest = piece :: pieces →
      placeholderPieces none ((d.quote name).toList ++ rest) = ((d.quote name).toList ++ piece) :: pieces := by
  have hread (name : String) : read q none (d.quote name).toList = some (ofSegments (cutText '.' name)) := by
    rw [quote_eq_joinWith, read_quoteSegments hq]
  have htext (name : String) :
      (read q none (d.quote name).toList).map (fun parts => joinWith "" (parts.map NameToken.text)) = some name := by
    rw [hread, Option.map_some, joinWith_text_ofSegments]
    exact congrArg some (joinWith_cutText '.' name)
  refine ⟨hread name, htext name, fun other hother => ?_, fun rest piece pieces hrest => ?_⟩
  · have hsame := htext other
    rw [hother, htext name] at hsame
    exact (Option.some.inj hsame).symm
  · have hgeneric : d ≠ .generic := by
      rintro rfl
      cases hq
    obtain ⟨hopen, hcount⟩ : Marked (d.quote name) 0 := marked_quote fun h => absurd h hgeneric
    rw [placeholderPieces_append hcount, hopen, hrest, foldr_prependChar]

/-- A name with quotes at the borders of its segments, question marks, an empty segment and a star. -/
theorem quote_reads_back_stray :
    Dialect.mysql.quoteMark? = some '\x60' ∧
      read '\x60' none (Dialect.mysql.quote "a\x60.\x60?..*").toList =
        some [.identifier "a\x60", .dot, .identifier "\x60?", .dot, .identifier "", .dot, .star] ∧
      placeholderPieces none ((Dialect.mysql.quote "a\x60.\x60?..*").toList ++ " = ?".toList) =
        [(Dialect.mysql.quote "a\x60.\x60?..*").toList ++ " = ".toList, []] := by
  obtain ⟨hread, -, -, hpieces⟩ := quote_reads_back (d := .mysql) (q := '\x60') rfl "a\x60.\x60?..*"
  exact ⟨rfl, hread, hpieces " = ?".toList " = ".toList [[]] rfl⟩

end Dialect
end TableQuery
