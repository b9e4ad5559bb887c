import TableQuery.Proofs.CheckedChanges
import TableQuery.Proofs.Conjuncts

/-! The rows that are asked about are the rows that are changed. What an operation asks before its change, to see which
    rows are there, it asks under the very predicate of the change: the same text and the same bound values. -/

namespace TableQuery
open Program

namespace Statement
variable (w : Writer) (p : Predicate) (st : Statement)

/-- A statement has the `WHERE` part of a predicate between other text, and binds the values of the predicate behind
    others. -/
structure Carries (st : Statement) (front : String) (bound : List Value) (p : Predicate) (back : String) : Prop where
  text : st.sql = front ++ p.whereClause ++ back
  params : st.params = bound ++ p.params

/-- A statement counts the rows of a predicate. -/
def Counts : Prop :=
  st.Carries ("SELECT COUNT(*) FROM " ++ w.selection.dialect.quote w.selection.table.name) [] p ""

/-- A statement reads one of the rows of a predicate. -/
def Samples : Prop :=
  st.Carries ("SELECT * FROM " ++ w.selection.dialect.quote w.selection.table.name) [] p " LIMIT 1"

/-- A statement counts rows outside of a predicate, if that restricts anything. -/
def CountsOutside : Prop := ∃ restriction : Predicate,
  st.sql = "SELECT COUNT(*) FROM " ++ w.selection.dialect.quote w.selection.table.name ++ " WHERE " ++ restriction.sql ∧
    st.params = restriction.params ∧ (p.isNone = false →
      restriction.HasPart ⟨"(CASE WHEN " ++ p.sql ++ " THEN 1 ELSE 0 END) = 0", p.params⟩)

/-- A statement writes columns of the rows of a predicate, or removes the rows. -/
inductive ChangesRows : Prop
  | write (row : Row) : st.Carries ("UPDATE " ++ w.selection.dialect.quote w.selection.table.name ++ " SET " ++
      joinWith ", " (row.map fun (column, _) => w.selection.dialect.quote column ++ " = ?")) (row.map Prod.snd) p "" →
    ChangesRows
  | remove : st.Carries ("DELETE FROM " ++ w.selection.dialect.quote w.selection.table.name) [] p "" → ChangesRows

end Statement

/-- The statement by which an operation changes rows, and what it asked before, are about the rows of one predicate:
    that of the query that the operation runs. -/
def Operation.AboutSameRows (w : Writer) (past : List Exchange) (st : Statement) : Operation → Prop
  | update now record => ∃ p row, w.selection.predicate w.selection.query = .ok p ∧
    w.updatedColumns now record = .ok row ∧ st.ChangesRows w p ∧
    ((w.uniqueness.enforced (.dict row) = [] ∧ past = []) ∨
      ∃ probes count answer, past = probes ++ [.answered count answer] ∧ count.statement.Counts w p ∧
        ∀ r answer, .answered r answer ∈ probes → r.statement.CountsOutside w p)
  | updateById _ id _ => ∃ q p, w.selection.queryById id = .ok q ∧ w.selection.predicate q = .ok p ∧
    st.ChangesRows w p ∧ ∃ sample answer probes, past = .answered sample answer :: probes ∧ sample.statement.Samples w p
  | deleteById _ id extra => ∃ q p, w.selection.deletionQuery id extra = .ok q ∧ w.selection.predicate q = .ok p ∧
    st.ChangesRows w p ∧ ∃ count answer, past = [.answered count answer] ∧ count.statement.Counts w p
  | _ => True

section
variable {w : Writer} {p : Predicate} {timeout : Value}

theorem Writer.counts_counting : (w.counting p).Counts w p := ⟨String.append_empty.symm, rfl⟩

theorem Writer.samples_probing : (w.probing p).Samples w p := ⟨rfl, rfl⟩

theorem Writer.changesRows_updating (row : Row) : (w.updating row p).ChangesRows w p :=
  .write row ⟨String.append_empty.symm, rfl⟩

theorem Selection.changesRows_deletion (now : Instant) : (w.selection.deletion now p).ChangesRows w p := by
  rcases w.selection.deletion_cases now p with ⟨column, -, -, h⟩ | h
  · rw [h]
    exact Writer.changesRows_updating (w := w) [(column, .instant now)]
  · rw [h]
    exact .remove ⟨String.append_empty.symm, rfl⟩

/-- A probe that leaves out the rows of a predicate does so in its `WHERE` part. -/
theorem Writer.countsOutside_probe (pairs : List (String × Value)) (id : Value) :
    (w.uniqueness.probe pairs id p).CountsOutside w p := by
  refine ⟨_, rfl, rfl, fun hnone => ?_⟩
  have houtside : Uniqueness.outside p = ⟨"(CASE WHEN " ++ p.sql ++ " THEN 1 ELSE 0 END) = 0", p.params⟩ := by
    simp [Uniqueness.outside, hnone]
  rw [← houtside]
  refine Predicate.hasPart_of_mem (by simp) ?_
  rw [houtside, Bool.eq_false_iff, ne_eq, Predicate.isNone_iff]
  simp [String.append_eq_empty_iff]

theorem Uniqueness.Passes.countsOutside {id : Value} {checks : List (UniqueRule × List (String × Value))}
    {probes : List Exchange} (h : w.uniqueness.Passes id p timeout checks probes) :
    ∀ r answer, .answered r answer ∈ probes → r.statement.CountsOutside w p := by
  intro r answer hmem
  obtain ⟨check, -, v, n, he, -⟩ := forall₂_mem_right h _ hmem
  cases he
  exact Writer.countsOutside_probe check.2 id

theorem Operation.Ready.aboutSameRows {op : Operation} {past : List Exchange} {st : Statement}
    (h : op.Ready w timeout past st) : op.AboutSameRows w past st := by
  cases h with
  | create => exact trivial
  | delete => exact trivial
  | @update _ _ row p past hp hrow _ htargets =>
    refine ⟨p, row, hp, hrow, Writer.changesRows_updating row, ?_⟩
    cases htargets with
    | unruled hnone => exact .inl ⟨hnone, rfl⟩
    | ruled _ hpasses => exact .inr ⟨_, _, _, rfl, Writer.counts_counting, hpasses.countsOutside⟩
  | @updateById _ _ _ q p _ _ row _ hq hp =>
    exact ⟨q, p, hq, hp, Writer.changesRows_updating row, _, _, _, rfl, Writer.samples_probing⟩
  | @deleteById now _ _ q p _ _ hq hp =>
    exact ⟨q, p, hq, hp, Selection.changesRows_deletion now, _, _, rfl, Writer.counts_counting⟩

end

/-- What an operation asks about rows before it changes them has the predicate of the change, text and values: a
    deletion by key the count by which it sees that there is a row, an update by key the row that it reads, and an
    update of a whole selection the count of its rows and, as what is left out, each probe of a rule. -/
theorem Operation.probes_about_same_rows (w : Writer) (op : Operation) (timeout : Value) :
    (op.program w timeout).Along (fun past r => r.Reads ∨ r.statement.IsChange ∧ op.AboutSameRows w past r.statement)
      (fun _ _ => True) [] := by
  refine (course_program w op timeout).along.mono_asked fun past r h => ?_
  rcases h with hreads | ⟨-, hready⟩
  · exact .inl hreads
  · exact .inr ⟨hready.isChange.1, hready.aboutSameRows⟩

end TableQuery
