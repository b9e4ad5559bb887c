import TableQuery.Proofs.Assignments

/-! What restricts a statement. The statements of a writer on its own table carry a predicate as their `WHERE`
    part; if that is a conjunction, a value that one of its parts binds is bound at the place of that part. -/

namespace TableQuery

/-- One predicate is a part of another, which is a conjunction. -/
def Predicate.HasPart (p part : Predicate) : Prop :=
  part.isNone = false ∧ ∃ before after, p = Predicate.all (before ++ part :: after)

/-- The statements on the table of a writer that a predicate restricts. -/
inductive Statement.Over (w : Writer) (p : Predicate) : Statement → Prop
  | rows (s : Select) : s.table = w.selection.table.name → s.restriction = p →
    Over w p (s.rows w.selection.dialect)
  | count (s : Select) : s.table = w.selection.table.name → s.restriction = p →
    Over w p (s.count w.selection.dialect)
  | counting : Over w p (w.counting p)
  | probing : Over w p (w.probing p)
  | updating (row : Row) : Over w p (w.updating row p)
  | deletion (now : Instant) : Over w p (w.selection.deletion now p)

namespace Predicate
variable {p part : Predicate} {ps : List Predicate}

theorem hasPart_of_mem (h : part ∈ ps) (hnone : part.isNone = false) : (all ps).HasPart part := by
  obtain ⟨before, after, rfl⟩ := List.append_of_mem h
  exact ⟨hnone, before, after, rfl⟩

theorem HasPart.isNone_eq_false (h : p.HasPart part) : p.isNone = false := by
  obtain ⟨hnone, before, after, rfl⟩ := h
  rw [Bool.eq_false_iff, ne_eq, isNone_iff] at hnone ⊢
  unfold all
  rw [sql_join_eq_empty_iff, kept_append, kept_cons_some hnone]
  simp

/-- Where a part stands in the text of a conjunction, and its values among the parameters. -/
theorem text_of_part (part : Predicate) {before : List Predicate} (after : List Predicate)
    (hbefore : ∀ b ∈ before, b.Aligned) (hnone : part.sql ≠ "") :
    ∃ front back earlier later, (all (before ++ part :: after)).sql = front ++ part.sql ++ back ∧
      (all (before ++ part :: after)).params = earlier ++ part.params ++ later ∧ Marked front earlier.length := by
  have hkept : kept (before ++ part :: after) = kept before ++ part :: kept after := by
    rw [kept_append, kept_cons_some hnone]
  obtain ⟨front, back, heq, hfront⟩ := Marked.exists_joinWith_append (by decide : Marked " AND " 0) part
    (kept after) fun b (hb : b ∈ kept before) => hbefore b (mem_kept.mp hb).1
  refine ⟨front, back, (kept before).flatMap params, (kept after).flatMap params, ?_, ?_, ?_⟩
  · unfold all
    rw [sql_join, hkept]
    exact heq
  · unfold all
    rw [params_join, hkept, List.flatMap_append, List.flatMap_cons, List.append_assoc]
  · rwa [List.length_flatMap]

end Predicate

namespace Statement.Over
variable {w : Writer} {p : Predicate} {st : Statement}

theorem text_updating (w : Writer) (row : Row) : ∃ front back earlier later,
    (w.updating row p).sql = front ++ p.whereClause ++ back ∧
      (w.updating row p).params = earlier ++ p.params ++ later ∧
      (w.selection.dialect ≠ .generic → Marked front earlier.length) := by
  refine ⟨_, "", row.map Prod.snd, [], String.append_empty.symm, (List.append_nil _).symm, fun hd => ?_⟩
  have : (w.updating row .none).Aligned := Writer.aligned_updating hd Predicate.aligned_none
  simpa [Statement.Aligned, Writer.updating, Predicate.whereClause, Predicate.isNone, Predicate.none] using this

/-- The predicate stands in the statement as its `WHERE` part, and what is in front of it binds its own
    placeholders. -/
theorem text (h : Over w p st) : ∃ front back earlier later,
    st.sql = front ++ p.whereClause ++ back ∧ st.params = earlier ++ p.params ++ later ∧
      (w.selection.dialect ≠ .generic → Marked front earlier.length) := by
  have marked_front (hd : w.selection.dialect ≠ .generic) {front : String} (hfront : Marked front 0) :
      Marked (front ++ w.selection.dialect.quote w.selection.table.name) 0 :=
    hfront.append (marked_quoted hd w.selection.table.name)
  cases h with
  | rows s htable hp =>
    subst hp
    refine ⟨"SELECT " ++ s.projection w.selection.dialect ++ " " ++ "FROM " ++ w.selection.dialect.quote s.table,
      s.orderText w.selection.dialect ++ s.paging.sql, [], s.paging.params, ?_, rfl, fun hd => ?_⟩
    · unfold Select.rows Select.fromText
      simp only [String.append_assoc]
    · rw [htable]
      exact marked_front hd ((((by decide : Marked "SELECT " 0).append (Select.marked_projection hd)).append
        (by decide : Marked " " 0)).append (by decide : Marked "FROM " 0))
  | count s htable hp =>
    subst hp
    refine ⟨"SELECT COUNT(*) " ++ "FROM " ++ w.selection.dialect.quote s.table, "", [], [], ?_, ?_, fun hd => ?_⟩
    · unfold Select.count Select.fromText
      simp only [String.append_assoc, String.append_empty]
    · exact (List.append_nil _).symm
    · rw [htable]
      exact marked_front hd (by decide : Marked ("SELECT COUNT(*) " ++ "FROM ") 0)
  | counting =>
    refine ⟨_, "", [], [], String.append_empty.symm, (List.append_nil _).symm, fun hd => ?_⟩
    exact marked_front hd (by decide : Marked "SELECT COUNT(*) FROM " 0)
  | probing =>
    refine ⟨_, " LIMIT 1", [], [], rfl, (List.append_nil _).symm, fun hd => ?_⟩
    exact marked_front hd (by decide : Marked "SELECT * FROM " 0)
  | updating row => exact text_updating w row
  | deletion now =>
    rcases w.selection.deletion_cases now p with ⟨column, -, -, h⟩ | h
    · rw [h]
      exact text_updating (.ofSelection w.selection) [(column, .instant now)]
    · rw [h]
      refine ⟨_, "", [], [], String.append_empty.symm, (List.append_nil _).symm, fun hd => ?_⟩
      exact marked_front hd (by decide : Marked "DELETE FROM " 0)

/-- A value that a part of the predicate binds is bound in the statement at the place of that part. -/
theorem assigns (h : Over w p st) (hd : w.selection.dialect ≠ .generic) {before after : List Predicate}
    {behind rest : String} {v : Value} {vs : List Value}
    (hp : p = .all (before ++ ⟨behind ++ "?" ++ rest, v :: vs⟩ :: after)) (hbefore : ∀ b ∈ before, b.Aligned)
    (hbehind : Marked behind 0) : ∃ i, st.Assigns i behind v := by
  have hnone : behind ++ "?" ++ rest ≠ "" := by
    simp [String.append_eq_empty_iff]
  obtain ⟨front, back, earlier, later, hsql, hparams, hfront⟩ := h.text
  obtain ⟨front', back', earlier', later', hsql', hparams', hfront'⟩ := Predicate.text_of_part
    ⟨behind ++ "?" ++ rest, v :: vs⟩ after hbefore hnone
  rw [← hp] at hsql' hparams'
  have hwhere : p.whereClause = " WHERE " ++ p.sql := by
    have : p.isNone = false := Predicate.HasPart.isNone_eq_false
      ⟨Bool.eq_false_iff.mpr (mt Predicate.isNone_iff.mp hnone), before, after, hp⟩
    simp [Predicate.whereClause, this]
  refine ⟨(earlier ++ earlier').length, front ++ " WHERE " ++ front', rest ++ back' ++ back, ?_, ?_, ?_⟩
  · rw [hsql, hwhere, hsql']
    simp only [String.append_assoc]
  · have := (((hfront hd).append (by decide : Marked " WHERE " 0)).append hfront').append hbehind
    rwa [List.length_append]
  · rw [hparams, hparams']
    simp

end Statement.Over
end TableQuery
