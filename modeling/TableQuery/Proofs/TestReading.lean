import TableQuery.Proofs.Compilation
import TableQuery.Proofs.Connectives
import TableQuery.Proofs.Cutting

/-! The tests that compilation writes, read back. A quoted name is made of quoted pieces and signs only, whatever
    it is a name of, so that a test is read as one test: its column, and what its operator has behind it. -/

namespace TableQuery

/-! ### Quoted names -/

def Lexeme.isPlain : Lexeme → Bool
  | quoted _ | sign _ => true
  | _ => false

def Element.isPlain : Element → Bool
  | lexeme l => l.isPlain
  | _ => false

/-- Text of quoted pieces and signs. -/
def Plain (d : Dialect) (s : String) : Prop := ∃ es,
  Element.ofText? d s = some es ∧ es ≠ [] ∧ es.all Element.isPlain = true

section
variable {d : Dialect} {s : String} {q : Char}

theorem Lexeme.startsComment_quote (hq : isQuoteMark q = true) (cs : List Char) :
    startsComment d (q :: cs) = false := by
  unfold startsComment
  split
  · rename_i heq
    cases heq
    cases hq
  · rename_i heq
    cases heq
    cases hq
  · rename_i heq
    cases heq
    cases hq
  · rfl

theorem Lexeme.cut_enclosed (hq : isQuoteMark q = true) (cs : List Char) :
    ∃ ls, cut d (some q) (replaceChar q [q, q] cs ++ [q]) = some ls ∧ ls.all isPlain = true := by
  have hclose : quoteAfter (some q) q = none := by simp [quoteAfter]
  have hopen : quoteAfter none q = some q := by simp [quoteAfter, hq]
  induction cs with
  | nil => exact ⟨[.quoted q], by simp [replaceChar, cut, hclose], rfl⟩
  | cons c cs ih =>
    obtain ⟨ls, hls, hplain⟩ := ih
    have hcons : replaceChar q [q, q] (c :: cs) ++ [q] =
        (if c = q then [q, q] else [c]) ++ (replaceChar q [q, q] cs ++ [q]) := by
      rw [← List.append_assoc]
      rfl
    rw [hcons]
    by_cases hc : c = q
    · refine ⟨.quoted q :: .quoted q :: ls, ?_, by simpa [isPlain] using hplain⟩
      rw [if_pos hc]
      show cut d (some q) (q :: q :: (replaceChar q [q, q] cs ++ [q])) = _
      rw [cut, hclose, cut, startsComment_quote hq, hopen, hls]
      simp [attach, hq]
    · have hstay : quoteAfter (some q) c = some q := by simp [quoteAfter, hc]
      refine ⟨.quoted c :: ls, ?_, by simpa [isPlain] using hplain⟩
      rw [if_neg hc]
      show cut d (some q) (c :: (replaceChar q [q, q] cs ++ [q])) = _
      rw [cut, hstay, hls]
      rfl

theorem Element.nest_of_plain {ls : List Lexeme} (h : ls.all Lexeme.isPlain = true) :
    nest ls = some (ls.map .lexeme) := by
  have hpush : ∀ {ls : List Lexeme} {level : List Element}, ls.all Lexeme.isPlain = true →
      ls.foldlM push [level] = some [level ++ ls.map .lexeme] := by
    intro ls
    induction ls with
    | nil => exact fun _ => by simp
    | cons l ls ih =>
      intro level hplain
      obtain ⟨hl, hls⟩ := Bool.and_eq_true_iff.mp hplain
      have hstep : push [level] l = some [level ++ [.lexeme l]] := by
        cases l with
        | quoted c => rfl
        | sign c => rfl
        | _ => cases hl
      rw [List.foldlM_cons, hstep]
      show ls.foldlM push [level ++ [.lexeme l]] = _
      rw [ih hls, List.map_cons, List.append_assoc, List.singleton_append]
  unfold nest
  rw [hpush h, List.nil_append]

theorem plain_of_cut {ls : List Lexeme} (h : Lexeme.cut d none s.toList = some ls) (hne : ls ≠ [])
    (hplain : ls.all Lexeme.isPlain = true) : Plain d s := by
  refine ⟨ls.map .lexeme, Option.bind_eq_some_iff.mpr ⟨ls, h, Element.nest_of_plain hplain⟩, by simpa using hne, ?_⟩
  rw [List.all_map]
  exact hplain

theorem plain_enclose (hq : isQuoteMark q = true) (s : String) : Plain d (Dialect.enclose q s) := by
  obtain ⟨ls, hls, hplain⟩ := Lexeme.cut_enclosed (d := d) hq s.toList
  have hopen : quoteAfter none q = some q := by simp [quoteAfter, hq]
  have hcut : Lexeme.cut d none (Dialect.enclose q s).toList = some (.quoted q :: ls) := by
    unfold Dialect.enclose
    rw [String.toList_ofList, List.cons_append, Lexeme.cut, Lexeme.startsComment_quote hq, hopen, hls]
    simp [Lexeme.attach, hq]
  exact plain_of_cut hcut (List.cons_ne_nil _ _) hplain

theorem Plain.append {t : String} (hs : Plain d s) (ht : Plain d t) (h : Element.Separate s t) : Plain d (s ++ t) := by
  obtain ⟨es, hes, hne, hplain⟩ := hs
  obtain ⟨fs, hfs, -, hplain'⟩ := ht
  refine ⟨es ++ fs, Element.ofText?_append hes hfs h, by simp [hne], ?_⟩
  rw [List.all_append, hplain, hplain']
  rfl

theorem Plain.joinWith_dot : ∀ {ss : List String}, ss ≠ [] → (∀ s ∈ ss, Plain d s) → Plain d (joinWith "." ss)
  | [], hne, _ => absurd rfl hne
  | [s], _, h => h s List.mem_cons_self
  | s :: t :: ss, _, h => by
    have hdot : Plain d "." := ⟨[.lexeme (.sign '.')], rfl, List.cons_ne_nil _ _, rfl⟩
    have hrest : Plain d (joinWith "." (t :: ss)) :=
      joinWith_dot (List.cons_ne_nil t ss) fun r hr => h r (List.mem_cons_of_mem s hr)
    have hfront := (h s List.mem_cons_self).append hdot (Element.separate_of_right rfl)
    refine hfront.append hrest (Element.separate_of_left ?_)
    rw [String.toList_append]
    exact congrArg (Option.all Lexeme.isApart) List.getLast?_concat

/-- A quoted name of a dialect that quotes. -/
theorem plain_quote (hd : d ≠ .generic) (name : String) : Plain d (d.quote name) := by
  have hstar : Plain d "*" := ⟨[.lexeme (.sign '*')], rfl, List.cons_ne_nil _ _, rfl⟩
  have hsegment : ∀ segment, Plain d (d.quoteSegment segment) := by
    intro segment
    unfold Dialect.quoteSegment
    split
    · rename_i h
      exact h ▸ hstar
    · cases d with
      | generic => exact absurd rfl hd
      | sqlite => exact plain_enclose (by decide) segment
      | mysql => exact plain_enclose (by decide) segment
      | postgresql => exact plain_enclose (by decide) segment
  unfold Dialect.quote
  split
  · rename_i h
    exact h ▸ hstar
  · refine Plain.joinWith_dot ?_ fun s hs => ?_
    · simp [cutText, cutAt_ne_nil]
    · obtain ⟨segment, -, rfl⟩ := List.mem_map.mp hs
      exact hsegment segment

end

/-! ### Tests -/

/-- The conditions that the test of a required field reads as. -/
def Dialect.requiredTests (d : Dialect) (name : String) : List Reading :=
  match d with
  | postgresql =>
    [.test (d.quote name ++ " IS NOT NULL"), .test ("CAST(" ++ d.quote name ++ " AS TEXT) != ''")]
  | _ => [.test (d.quote name ++ " IS NOT NULL"), .test (d.quote name ++ " != ''")]

section
variable {d : Dialect} {tail : String}

theorem Element.opensTest_of_plain {es : List Element} (hne : es ≠ []) (h : es.all isPlain = true) :
    opensTest es = true := by
  have hinert : ∀ e : Element, e.isPlain = true → e.isInert = true := by
    intro e he
    cases e with
    | lexeme l =>
      cases l with
      | quoted c => rfl
      | sign c => rfl
      | _ => cases he
    | _ => cases he
  cases es with
  | nil => exact absurd rfl hne
  | cons e es =>
    have hall : (e :: es).all isInert = true :=
      List.all_eq_true.mpr fun x hx => hinert x (List.all_eq_true.mp h x hx)
    have he : e.isPlain = true := List.all_eq_true.mp h e List.mem_cons_self
    cases e with
    | lexeme l =>
      cases l with
      | quoted c => exact hall
      | sign c => exact hall
      | _ => cases he
    | _ => cases he

/-- Text that a test of a column can end with. -/
def ClosesTest (d : Dialect) (tail : String) : Prop :=
  ∃ es, Element.ofText? d tail = some es ∧ Element.closesTest es = true ∧ tail.toList.head? = some ' '

theorem separate_of_closesTest (h : ClosesTest d tail) (s : String) : Element.Separate s tail := by
  obtain ⟨-, -, -, hhead⟩ := h
  refine Element.separate_of_right ?_
  rw [hhead]
  rfl

theorem conjoined_column (hd : d ≠ .generic) (name : String) (h : ClosesTest d tail) :
    Conjoined d (d.quote name ++ tail) [.test (d.quote name ++ tail)] := by
  obtain ⟨es, hes, hne, hplain⟩ := plain_quote hd name
  have hsep := separate_of_closesTest h (d.quote name)
  obtain ⟨fs, hfs, hclose, -⟩ := h
  exact Conjoined.test hes (Element.opensTest_of_plain hne hplain) hfs hclose hsep

theorem closesTest_operator (d : Dialect) (op : Operator) : ClosesTest d op.tail := by
  cases d <;> cases op <;> exact ⟨_, rfl, rfl, rfl⟩

theorem Compiler.conjoined_test {c : Compiler} {cond : Condition} {p : Predicate} (hd : c.dialect ≠ .generic)
    (h : c.test cond = .ok p) : Conjoined c.dialect p.sql [.test p.sql] := by
  have hnumbers : ∀ d : Dialect, Conjoined d ("1" ++ "=0") [.test ("1" ++ "=0")] ∧
      Conjoined d ("1" ++ "=1") [.test ("1" ++ "=1")] := by
    intro d
    have hfirst : Element.ofText? d "1" = some [.lexeme (.word ['1'])] := rfl
    exact ⟨.test hfirst rfl rfl rfl (Element.separate_of_right rfl),
      .test hfirst rfl rfl rfl (Element.separate_of_right rfl)⟩
  rcases test_eq_ok h with rfl | rfl | ⟨hsql, -⟩
  · exact (hnumbers c.dialect).1
  · exact (hnumbers c.dialect).2
  · rw [hsql]
    exact conjoined_column hd cond.field (closesTest_operator c.dialect cond.operator)

theorem conjoined_notDeleted (hd : d ≠ .generic) (column : String) :
    Conjoined d (d.quote column ++ " IS NULL") [.test (d.quote column ++ " IS NULL")] :=
  conjoined_column hd column (closesTest_operator d .isNull)

theorem closesTest_notEmpty (d : Dialect) : ClosesTest d " != ''" := by
  cases d <;> exact ⟨_, rfl, rfl, rfl⟩

/-- The comparison of a column that is converted to text first. -/
theorem conjoined_cast (hd : d ≠ .generic) (name : String) :
    Conjoined d ("CAST(" ++ d.quote name ++ " AS TEXT) != ''") [.test ("CAST(" ++ d.quote name ++ " AS TEXT) != ''")] := by
  obtain ⟨es, hes, -, -⟩ := plain_quote hd name
  obtain ⟨fs, hfs⟩ : ∃ fs, Element.ofText? d " AS TEXT" = some fs := by
    cases d <;> exact ⟨_, rfl⟩
  have hinside := Element.ofText?_append hes hfs (Element.separate_of_right rfl)
  have hword : Element.ofText? d "CAST" = some [.lexeme (.word "CAST".toList)] := rfl
  have hparens := Element.ofText?_parens hinside
  have hcast := Element.ofText?_append hword hparens Element.separate_parens
  obtain ⟨gs, hgs, hclose, -⟩ := closesTest_notEmpty d
  have htest := Conjoined.test hcast rfl hgs hclose (separate_of_closesTest (closesTest_notEmpty d) _)
  have htext : "CAST" ++ ("(" ++ (d.quote name ++ " AS TEXT") ++ ")") ++ " != ''" =
      "CAST(" ++ d.quote name ++ " AS TEXT) != ''" := by
    rw [show "CAST(" = "CAST" ++ "(" from rfl, show " AS TEXT) != ''" = " AS TEXT" ++ (")" ++ " != ''") from rfl]
    simp only [String.append_assoc]
  rwa [htext] at htest

/-- The test of a required field is two tests, that it is not null and that it is not the empty text. -/
theorem conjoined_holdsSomething (hd : d ≠ .generic) (name : String) :
    Conjoined d (d.holdsSomething name).sql (d.requiredTests name) := by
  have hnull := conjoined_column hd name (closesTest_operator d .isNotNull)
  have hempty := hnull.and (conjoined_column hd name (closesTest_notEmpty d))
  have hcast := hnull.and (conjoined_cast hd name)
  have hsplit : " IS NOT NULL AND " = " IS NOT NULL" ++ " AND " := rfl
  have hsplit' : " IS NOT NULL AND CAST(" = " IS NOT NULL" ++ (" AND " ++ "CAST(") := rfl
  unfold Dialect.holdsSomething Dialect.notBlank
  cases d with
  | generic => exact absurd rfl hd
  | sqlite | mysql =>
    rw [hsplit]
    simp only [String.append_assoc] at hempty ⊢
    exact hempty
  | postgresql =>
    rw [hsplit']
    simp only [String.append_assoc] at hcast ⊢
    exact hcast

end
end TableQuery
