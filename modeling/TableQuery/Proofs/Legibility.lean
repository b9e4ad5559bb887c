import TableQuery.Proofs.Clauses
import TableQuery.Proofs.Conjuncts
import TableQuery.Proofs.PredicateReading

/-! Legible predicates: the ones that read as conditions that all have to hold, and start no clause of their own where a
    statement has them. All that the engine puts together is legible, in the dialects that quote, as long as the
    conditions in statement text are. -/

namespace TableQuery

/-- A predicate reads as conditions that all have to hold, and starts no clause of a statement. -/
def Predicate.Legible (d : Dialect) (p : Predicate) : Prop := (∃ rs, p.Means d rs) ∧ Silent d p.sql

section
variable {d : Dialect} {p : Predicate} {rs : List Reading}

theorem Conjoined.legible (h : Conjoined d p.sql rs) (hsilent : Silent d p.sql) : p.Legible d :=
  ⟨⟨rs, .inr ⟨h.ne_empty, h⟩⟩, hsilent⟩

namespace Predicate

theorem legible_none : none.Legible d := ⟨⟨[], .inl ⟨rfl, rfl⟩⟩, silent_empty⟩

/-- In parentheses, all text with a reading is legible. -/
theorem legible_grouped {r : Reading} (h : Reading.ofText? d p.sql = some r) : p.grouped.Legible d := by
  by_cases hnone : p.sql = ""
  · rw [grouped_none hnone]
    refine ⟨⟨[], .inl ⟨hnone, rfl⟩⟩, ?_⟩
    rw [hnone]
    exact silent_empty
  · obtain ⟨es, hes, -⟩ := Option.map_eq_some_iff.mp h
    rw [grouped_some hnone]
    exact Conjoined.legible (p := ⟨"(" ++ p.sql ++ ")", p.params⟩) (Conjoined.parens h) (silent_parens hes)

/-- A condition in statement text is legible, be it blank. -/
theorem legible_raw {text : String} {args : List Value} (h : Readable d text) : (raw text args).Legible d := by
  obtain ⟨r, hr⟩ := h.trimText.exists_reading
  exact legible_grouped (p := ⟨trimText text, args⟩) hr

theorem exists_means {ps : List Predicate} (h : ∀ p ∈ ps, p.Legible d) :
    ∃ rss, List.Forall₂ (Means d) ps rss := by
  induction ps with
  | nil => exact ⟨[], .nil⟩
  | cons p ps ih =>
    obtain ⟨⟨⟨rs, hrs⟩, -⟩, hrest⟩ := List.forall_mem_cons.mp h
    obtain ⟨rss, hrss⟩ := ih hrest
    exact ⟨rs :: rss, .cons hrs hrss⟩

theorem silent_all {ps : List Predicate} (h : ∀ p ∈ ps, p.Legible d) : Silent d (all ps).sql := by
  have htext : (all ps).sql = joinWith " AND " ((kept ps).map sql) := sql_join ps "AND"
  rw [htext]
  refine Silent.joinWith (silent_words (by decide) d) (by decide) rfl rfl fun s hs => ?_
  obtain ⟨p, hp, rfl⟩ := List.mem_map.mp hs
  exact (h p (mem_kept.mp hp).1).2

end Predicate

/-! ### Tests of columns -/

section
variable (hd : d ≠ .generic)
include hd

theorem silent_column (name : String) {tail : String} (htail : Silent d tail) (hhead : tail.toList.head? = some ' ') :
    Silent d (d.quote name ++ tail) := by
  refine (silent_quote hd name).before htail ?_
  rw [hhead]
  rfl

/-- The test of a column is legible, whatever values it binds. -/
theorem legible_operator (name : String) (op : Operator) (args : List Value) :
    Predicate.Legible d ⟨d.quote name ++ op.tail, args⟩ := by
  have htail : Silent d op.tail := silent_words (by cases op <;> decide) d
  have hhead : op.tail.toList.head? = some ' ' := by cases op <;> rfl
  have hread : Conjoined d (d.quote name ++ op.tail) [.test (d.quote name ++ op.tail)] :=
    conjoined_column hd name (closesTest_operator d op)
  exact Conjoined.legible (p := ⟨d.quote name ++ op.tail, args⟩) hread (silent_column hd name htail hhead)

theorem legible_holdsSomething (name : String) : (d.holdsSomething name).Legible d := by
  refine (conjoined_holdsSomething hd name).legible ?_
  unfold Dialect.holdsSomething Dialect.notBlank
  cases d with
  | generic => exact absurd rfl hd
  | postgresql =>
    have hempty : Silent .postgresql " != ''" := silent_words (by decide) _
    have hcast : Silent .postgresql (Dialect.postgresql.quote name ++ (" IS NOT NULL AND " ++ "CAST")) :=
      silent_column hd name (silent_words (by decide) _) rfl
    have hcolumn : Silent .postgresql (Dialect.postgresql.quote name ++ " AS TEXT") :=
      silent_column hd name (silent_words (by decide) _) rfl
    have hall := (hcast.append hcolumn.parens Element.separate_parens).before hempty rfl
    rw [show " IS NOT NULL AND CAST(" = " IS NOT NULL AND " ++ "CAST" ++ "(" from rfl,
      show " AS TEXT) != ''" = " AS TEXT" ++ (")" ++ " != ''") from rfl]
    simp only [String.append_assoc] at hall ⊢
    exact hall
  | sqlite | mysql =>
    have hnull := silent_column hd name (silent_words (by decide : _ ∧ Silent .generic " IS NOT NULL AND ") _) rfl
    have hempty := silent_column hd name (silent_words (by decide : _ ∧ Silent .generic " != ''") _) rfl
    have hall := hnull.behind hempty (endsApart_append _ (by decide) rfl)
    rwa [← String.append_assoc] at hall

end

/-! ### What the engine puts together -/

theorem Compiler.legible_group {c : Compiler} {g : Group} (hd : c.dialect ≠ .generic) (h : c.group g = .ok p) :
    p.Legible c.dialect := by
  obtain ⟨-, fs, hfs, rfl⟩ := group_eq_ok h
  cases fs with
  | nil => exact Predicate.legible_none
  | cons f fs =>
    refine Predicate.legible_grouped (Predicate.ofText?_join (List.cons_ne_nil f fs) (fun f hf => ?_) g.connective)
    obtain ⟨cond, -, htest⟩ := forall₂_mem_right (mapM_eq_ok.mp hfs) f hf
    exact conjoined_test hd htest

/-- The test that a row is outside of a predicate is one test, whatever the predicate reads as. -/
theorem Uniqueness.legible_outside (h : p.Legible d) : (outside p).Legible d := by
  unfold outside
  split
  · exact Predicate.legible_none
  obtain ⟨es, hes, -⟩ := h.2
  have hcase : Element.ofText? d "CASE WHEN " =
      some [.lexeme (.word "CASE".toList), .blank, .lexeme (.word "WHEN".toList), .blank] := by
    cases d <;> rfl
  obtain ⟨fs, hfs⟩ : ∃ fs, Element.ofText? d " THEN 1 ELSE 0 END" = some fs := by
    cases d <;> exact ⟨_, rfl⟩
  have hzero : Element.ofText? d " = 0" =
      some [.blank, .lexeme (.sign '='), .blank, .lexeme (.word ['0'])] := by
    cases d <;> rfl
  have hinside := Element.ofText?_append (Element.ofText?_append hcase hes (Element.separate_of_left rfl)) hfs
    (Element.separate_of_right rfl)
  have hall := Element.ofText?_append (Element.ofText?_parens hinside) hzero (Element.separate_of_right rfl)
  have htext : "(" ++ ("CASE WHEN " ++ p.sql ++ " THEN 1 ELSE 0 END") ++ ")" ++ " = 0" =
      "(CASE WHEN " ++ p.sql ++ " THEN 1 ELSE 0 END) = 0" := by
    rw [show "(CASE WHEN " = "(" ++ "CASE WHEN " from rfl,
      show " THEN 1 ELSE 0 END) = 0" = " THEN 1 ELSE 0 END" ++ (")" ++ " = 0") from rfl]
    simp only [String.append_assoc]
  rw [htext] at hall
  -- The parentheses are one element; no connective inside of them is seen.
  refine Conjoined.legible ⟨_, hall, rfl, rfl, ?_, rfl⟩ ⟨_, hall, rfl⟩
  simp [Element.bindRanges, Element.isWord, Element.blank]

end

/-! ### The test for the stamp -/

/-- The text of the test that a row is not stamped in a column. -/
def Dialect.unstamped (d : Dialect) (column : String) : String := d.quote column ++ " IS NULL"

/-- A predicate lets no row through that is stamped in a column: the test is among the conditions that all have to hold,
    and is read as one of them. Names that the generic dialect writes may read as anything. -/
structure Predicate.HidesDeleted (d : Dialect) (column : String) (p : Predicate) : Prop where
  part : p.HasPart ⟨d.unstamped column, []⟩
  read : d ≠ .generic → Silent d p.sql ∧ ∃ rs, Conjoined d p.sql rs ∧ .test (d.unstamped column) ∈ rs

section
variable {d : Dialect} {column : String}

theorem Table.notDeleted_eq {t : Table} (h : t.softDelete = some column) : t.notDeleted d = ⟨d.unstamped column, []⟩ := by
  unfold notDeleted
  rw [h]
  rfl

theorem Predicate.HidesDeleted.legible {p : Predicate} (h : p.HidesDeleted d column) (hd : d ≠ .generic) : p.Legible d := by
  obtain ⟨hsilent, rs, hread, -⟩ := h.read hd
  exact hread.legible hsilent

/-- A conjunction with the test among legible conditions. -/
theorem Predicate.hidesDeleted_all {ps : List Predicate} (hmem : ⟨d.unstamped column, []⟩ ∈ ps)
    (h : d ≠ .generic → ∀ p ∈ ps, p.Legible d) : (Predicate.all ps).HidesDeleted d column := by
  have hfull : (⟨d.unstamped column, []⟩ : Predicate).sql ≠ "" := by
    simp [Dialect.unstamped, String.append_eq_empty_iff]
  refine ⟨hasPart_of_mem hmem (Bool.eq_false_iff.mpr (mt isNone_iff.mp hfull)), fun hd => ⟨silent_all (h hd), ?_⟩⟩
  obtain ⟨before, after, rfl⟩ := List.append_of_mem hmem
  obtain ⟨hbefore, hafter⟩ := List.forall_mem_append.mp (h hd)
  obtain ⟨rss, hrss⟩ := exists_means hbefore
  obtain ⟨rss', hrss'⟩ := exists_means (List.forall_mem_cons.mp hafter).2
  have htest : Means d ⟨d.unstamped column, []⟩ [.test (d.unstamped column)] := .inr ⟨hfull, conjoined_notDeleted hd column⟩
  rcases Means.all (List.rel_append hrss (.cons htest hrss')) with ⟨-, hnone⟩ | ⟨-, hread⟩
  · simp at hnone
  · exact ⟨_, hread, by simp⟩

end

end TableQuery
