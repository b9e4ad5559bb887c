import TableQuery.Proofs.TestReading

/-! The condition of a statement, read the way a store reads it: what stands behind `WHERE`, up to the clauses for
    order and bounds. Text in which no clause starts outside of quotes and parentheses may stand in front of the
    condition and inside of it without a change to what is read. -/

namespace TableQuery

namespace Element

/-- A word with which a clause of a statement starts. -/
def opensClause (e : Element) : Bool := e.isWord "WHERE" || e.isWord "ORDER" || e.isWord "LIMIT"

/-- The elements behind the first `WHERE`, up to the next clause. -/
def clause (es : List Element) : List Element :=
  ((es.dropWhile fun e => !e.isWord "WHERE").drop 1).takeWhile fun e => !e.opensClause

end Element

/-- The reading of the condition of a statement; without a `WHERE` nothing has to hold. -/
def Reading.ofStatement? (d : Dialect) (sql : String) : Option Reading :=
  (Element.ofText? d sql).map fun es => Element.read (Element.clause es)

example : Reading.ofStatement? .sqlite "SELECT \"where\" FROM \"posts\" WHERE (a OR b) AND c IS NULL ORDER BY \"d\" ASC LIMIT ?" =
    some (.and [.parens (.or [.test "a", .test "b"]), .test "c IS NULL"]) := rfl

/-- Text that can be read, and in which no clause starts. -/
def Silent (d : Dialect) (s : String) : Prop :=
  ∃ es, Element.ofText? d s = some es ∧ es.all (fun e => !e.opensClause) = true

instance (d : Dialect) (s : String) : Decidable (Silent d s) :=
  decidable_of_iff ((Element.ofText? d s).any fun es => es.all fun e => !e.opensClause) (Option.any_eq_true _ _)

/-- Text that may stand behind a condition: a clause, or nothing. -/
def Trailing (d : Dialect) (s : String) : Prop :=
  s = "" ∨ ∃ e es, Element.ofText? d s = some (Element.blank :: e :: es) ∧ e.opensClause = true

/-! ### Text that is the same in every dialect -/

namespace Lexeme
variable {d d' : Dialect} {inside : Option Char} {c : Char} {cs : List Char}

theorem startsComment_congr (h : c ≠ '#') : startsComment d (c :: cs) = startsComment d' (c :: cs) := by
  unfold startsComment
  repeat' split
  all_goals simp_all

/-- Dialects only differ in what a hash means. -/
theorem cut_congr (h : '#' ∉ cs) : cut d inside cs = cut d' inside cs := by
  induction cs generalizing inside with
  | nil => cases inside <;> rfl
  | cons c cs ih =>
    obtain ⟨hc, hcs⟩ := not_or.mp (mt List.mem_cons.mpr h)
    cases inside with
    | none => rw [cut, cut, startsComment_congr (Ne.symm hc), ih hcs]
    | some q => rw [cut, cut, ih hcs]

end Lexeme

theorem Element.ofText?_congr {s : String} (h : '#' ∉ s.toList) (d d' : Dialect) :
    Element.ofText? d s = Element.ofText? d' s := by
  unfold Element.ofText?
  rw [Lexeme.cut_congr h]

theorem silent_words {s : String} (h : '#' ∉ s.toList ∧ Silent .generic s) (d : Dialect) : Silent d s := by
  obtain ⟨hhash, es, hes, hsilent⟩ := h
  exact ⟨es, (Element.ofText?_congr hhash d .generic).trans hes, hsilent⟩

theorem trailing_words {s : String} (hhash : '#' ∉ s.toList) (h : Trailing .generic s) (d : Dialect) : Trailing d s := by
  rcases h with hs | ⟨e, es, hes, he⟩
  · exact .inl hs
  · exact .inr ⟨e, es, (Element.ofText?_congr hhash d .generic).trans hes, he⟩

open Element

section
variable {d : Dialect} {s t : String} {es : List Element} {rs : List Reading}

/-! ### Text without clauses -/

theorem Silent.append (hs : Silent d s) (ht : Silent d t) (h : Separate s t) : Silent d (s ++ t) := by
  obtain ⟨es, hes, hsilent⟩ := hs
  obtain ⟨fs, hfs, hsilent'⟩ := ht
  refine ⟨es ++ fs, ofText?_append hes hfs h, ?_⟩
  rw [List.all_append, hsilent, hsilent']
  rfl

theorem Silent.behind (hs : Silent d s) (ht : Silent d t) (h : s.toList.getLast?.all Lexeme.isApart = true) :
    Silent d (s ++ t) := hs.append ht (separate_of_left h)

theorem Silent.before (hs : Silent d s) (ht : Silent d t) (h : t.toList.head?.all Lexeme.isApart = true) :
    Silent d (s ++ t) := hs.append ht (separate_of_right h)

theorem silent_empty : Silent d "" := ⟨[], rfl, rfl⟩

/-- What is in parentheses starts no clause around them. -/
theorem silent_parens (h : Element.ofText? d s = some es) : Silent d ("(" ++ s ++ ")") :=
  ⟨_, ofText?_parens h, rfl⟩

theorem Silent.parens (h : Silent d s) : Silent d ("(" ++ s ++ ")") := by
  obtain ⟨es, hes, -⟩ := h
  exact silent_parens hes

theorem Plain.silent (h : Plain d s) : Silent d s := by
  obtain ⟨es, hes, -, hplain⟩ := h
  refine ⟨es, hes, List.all_eq_true.mpr fun e he => ?_⟩
  have hplain := List.all_eq_true.mp hplain e he
  cases e with
  | lexeme l =>
    cases l with
    | quoted c => rfl
    | sign c => rfl
    | _ => cases hplain
  | _ => cases hplain

theorem silent_quote (hd : d ≠ .generic) (name : String) : Silent d (d.quote name) := (plain_quote hd name).silent

theorem endsApart_append (s : String) (hne : t.toList ≠ []) (h : t.toList.getLast?.all Lexeme.isApart = true) :
    (s ++ t).toList.getLast?.all Lexeme.isApart = true := by
  rw [String.toList_append, List.getLast?_append, List.getLast?_eq_some_getLast hne, Option.some_or,
    ← List.getLast?_eq_some_getLast hne]
  exact h

/-- Pieces with text between them that goes together with nothing. -/
theorem Silent.joinWith {sep : String} (hsep : Silent d sep) (hne : sep.toList ≠ [])
    (hfirst : sep.toList.head?.all Lexeme.isApart = true) (hlast : sep.toList.getLast?.all Lexeme.isApart = true) :
    ∀ {ss : List String}, (∀ s ∈ ss, Silent d s) → Silent d (joinWith sep ss)
  | [], _ => silent_empty
  | [s], h => h s List.mem_cons_self
  | s :: t :: ss, h => by
    have hrest := Silent.joinWith hsep hne hfirst hlast fun r hr => h r (List.mem_cons_of_mem s hr)
    have hfront := (h s List.mem_cons_self).before hsep hfirst
    exact hfront.behind hrest (endsApart_append s hne hlast)

theorem Silent.joinWith_comma {ss : List String} (h : ∀ s ∈ ss, Silent d s) : Silent d (TableQuery.joinWith ", " ss) :=
  Silent.joinWith (silent_words (by decide) d) (by decide) rfl rfl h

/-! ### Text behind a condition -/

theorem Trailing.append (hs : Trailing d s) (ht : Trailing d t) : Trailing d (s ++ t) := by
  rcases hs with rfl | ⟨e, es, hes, he⟩
  · rwa [String.empty_append]
  rcases ht with rfl | ⟨e', fs, hfs, -⟩
  · rw [String.append_empty]
    exact .inr ⟨e, es, hes, he⟩
  refine .inr ⟨e, es ++ Element.blank :: e' :: fs, ofText?_append hes hfs (separate_of_right ?_), he⟩
  rw [← text_ofText? hfs]
  rfl

theorem Trailing.extend (hs : Trailing d s) (hne : s ≠ "") (hlast : s.toList.getLast?.all Lexeme.isApart = true)
    (ht : Silent d t) : Trailing d (s ++ t) := by
  rcases hs with hs | ⟨e, es, hes, he⟩
  · exact absurd hs hne
  obtain ⟨fs, hfs, -⟩ := ht
  exact .inr ⟨e, es ++ fs, ofText?_append hes hfs (separate_of_left hlast), he⟩

/-! ### Conditions in statements -/

theorem isWord_of_opensClause (h : ∀ e ∈ es, e.opensClause = false) : ∀ e ∈ es, (!e.isWord "WHERE") = true := by
  intro e he
  have hquiet := h e he
  simp only [opensClause, Bool.or_eq_false_iff] at hquiet
  simp [hquiet]

/-- The clause of elements around a condition is the condition, with the blanks at its ends. -/
theorem clause_where {front cond back : List Element} {e : Element} (hfront : front.all (fun e => !e.opensClause) = true)
    (hcond : cond.all (fun e => !e.opensClause) = true) (he : e.isWord "WHERE" = true)
    (hback : back = [] ∨ ∃ e rest, back = Element.blank :: e :: rest ∧ e.opensClause = true) :
    ∃ ends, (ends = [] ∨ ends = [Element.blank]) ∧
      clause (front ++ Element.blank :: e :: Element.blank :: (cond ++ back)) = Element.blank :: (cond ++ ends) := by
  have hquiet : ∀ e ∈ front, (!e.isWord "WHERE") = true := by
    refine isWord_of_opensClause fun e he => ?_
    simpa using List.all_eq_true.mp hfront e he
  have hwhere : (front ++ Element.blank :: e :: Element.blank :: (cond ++ back)).dropWhile
      (fun e => !e.isWord "WHERE") = e :: Element.blank :: (cond ++ back) := by
    rw [List.dropWhile_append_of_pos hquiet, List.dropWhile_cons_of_pos rfl, List.dropWhile_cons_of_neg (by simp [he])]
  have hcond' : ∀ e ∈ cond, (!e.opensClause) = true := List.all_eq_true.mp hcond
  unfold clause
  rw [hwhere, List.drop_one, List.tail_cons, List.takeWhile_cons_of_pos rfl, List.takeWhile_append_of_pos hcond']
  rcases hback with rfl | ⟨e', rest, rfl, he'⟩
  · exact ⟨[], .inl rfl, rfl⟩
  · refine ⟨[Element.blank], .inr rfl, ?_⟩
    rw [List.takeWhile_cons_of_pos rfl, List.takeWhile_cons_of_neg (by simp [he'])]

/-- Blanks at the ends of conditions do not matter. -/
theorem read_between {cond ends : List Element} (hfull : cond.all Element.isBlank = false) (howed : owedAfter 0 cond = 0)
    (hor : ∀ e ∈ bindRanges 0 cond, e.isWord "OR" = false) (hunits : units (bindRanges 0 cond) = rs)
    (hends : ends = [] ∨ ends = [Element.blank]) : Element.read (Element.blank :: (cond ++ ends)) = .conj rs := by
  have hblank : (Element.blank :: (cond ++ ends)).all Element.isBlank = false := by
    rw [List.all_cons, List.all_append, hfull, Bool.false_and, Bool.and_false]
  have hbound : bindRanges 0 (Element.blank :: (cond ++ ends)) = Element.blank :: (bindRanges 0 cond ++ ends) := by
    have hcons : bindRanges 0 (Element.blank :: (cond ++ ends)) = Element.blank :: bindRanges 0 (cond ++ ends) := rfl
    rw [hcons, bindRanges_append, howed]
    rcases hends with rfl | rfl <;> rfl
  have hsplit : ∀ e ∈ Element.blank :: (bindRanges 0 cond ++ ends), e.isWord "OR" = false := by
    intro e he
    rcases List.mem_cons.mp he with rfl | he
    · rfl
    rcases List.mem_append.mp he with he | he
    · exact hor e he
    · rcases hends with rfl | rfl
      · cases he
      · rw [List.mem_singleton.mp he]
        rfl
  have hconj : conjunction (Element.blank :: (bindRanges 0 cond ++ ends)) = .conj rs := by
    rw [conjunction_cons_blank rfl]
    rcases hends with rfl | rfl
    · rw [List.append_nil]
      exact congrArg Reading.conj hunits
    · rw [conjunction_concat_blank rfl]
      exact congrArg Reading.conj hunits
  unfold Element.read
  rw [hblank, hbound, List.splitOnP_eq_singleton hsplit, List.map_singleton, hconj]
  rfl

/-- A statement with a condition is read as what the condition is read as. -/
theorem ofStatement?_where {front p back : String} (hfront : Silent d front) (hp : Conjoined d p rs) (hsilent : Silent d p)
    (hback : Trailing d back) : Reading.ofStatement? d (front ++ " WHERE " ++ p ++ back) = some (.conj rs) := by
  obtain ⟨fs, hfs, hquiet⟩ := hfront
  obtain ⟨cond, hcond, hfull, howed, hor, hunits⟩ := hp
  obtain ⟨cond', hcond', hquiet'⟩ := hsilent
  rw [hcond] at hcond'
  cases hcond'
  have hwhere : Element.ofText? d " WHERE " = some [Element.blank, .lexeme (.word "WHERE".toList), Element.blank] := by
    cases d <;> rfl
  -- Each border has a blank on one side, so no lexeme goes across it and the pieces are cut on their own.
  have hhead := ofText?_append hfs hwhere (separate_of_right rfl)
  have hborder := endsApart_append front (t := " WHERE ") (by decide) rfl
  have hbody := ofText?_append hhead hcond (separate_of_left hborder)
  obtain ⟨bs, hbs, hshape⟩ : ∃ bs, Element.ofText? d (front ++ " WHERE " ++ p ++ back) =
      some (fs ++ [Element.blank, .lexeme (.word "WHERE".toList), Element.blank] ++ cond ++ bs) ∧
      (bs = [] ∨ ∃ e rest, bs = Element.blank :: e :: rest ∧ e.opensClause = true) := by
    rcases hback with rfl | ⟨e, rest, hrest, he⟩
    · refine ⟨[], ?_, .inl rfl⟩
      rw [String.append_empty, List.append_nil]
      exact hbody
    · refine ⟨_, ofText?_append hbody hrest (separate_of_right ?_), .inr ⟨e, rest, rfl, he⟩⟩
      rw [← text_ofText? hrest]
      rfl
  obtain ⟨ends, hends, hclause⟩ := clause_where hquiet hquiet' (e := .lexeme (.word "WHERE".toList)) rfl hshape
  have hread := read_between hfull howed hor hunits hends
  rw [Reading.ofStatement?, hbs, Option.map_some]
  refine congrArg some ?_
  rw [← hread, ← hclause]
  simp only [List.append_assoc, List.cons_append, List.nil_append]

end
end TableQuery
