import TableQuery.Proofs.Compilation
import TableQuery.Proofs.Marks

/-! Alignment: a predicate or a statement has one parameter for each of its placeholders. Compilation and
    every way of putting predicates together keep it. -/

namespace TableQuery

/-- A predicate that closes its quotes and has one parameter for each of its placeholders. -/
def Predicate.Aligned (p : Predicate) : Prop := Marked p.sql p.params.length

/-- A statement that closes its quotes and has one parameter for each of its placeholders. -/
def Statement.Aligned (st : Statement) : Prop := Marked st.sql st.params.length

namespace Predicate

theorem aligned_none : Aligned none := ⟨rfl, rfl⟩

theorem Aligned.grouped {p : Predicate} (h : p.Aligned) : p.grouped.Aligned := by
  unfold Predicate.grouped
  split
  · exact h
  · have hm : Marked ("(" ++ p.sql ++ ")") (0 + p.params.length + 0) :=
      (Marked.append (by decide) h).append (by decide)
    rwa [Nat.zero_add, Nat.add_zero] at hm

theorem Aligned.join {ps : List Predicate} {connective : String} (hc : Marked (" " ++ connective ++ " ") 0)
    (h : ∀ p ∈ ps, p.Aligned) : (Predicate.join ps connective).Aligned := by
  unfold Aligned
  rw [sql_join, params_join, List.length_flatMap]
  exact Marked.joinWith hc fun p hp => h p (mem_kept.mp hp).1

theorem Aligned.all {ps : List Predicate} (h : ∀ p ∈ ps, p.Aligned) : (Predicate.all ps).Aligned :=
  Aligned.join (by decide) h

/-- A condition in statement text is aligned if it is so as the caller writes it. -/
theorem aligned_raw {sql : String} {args : List Value} (h : Marked sql args.length) :
    (Predicate.raw sql args).Aligned :=
  Aligned.grouped (p := ⟨trimText sql, args⟩) h.trimText

end Predicate

/-! ### Compilation -/

namespace Compiler
variable {c : Compiler} {p : Predicate}

theorem marked_connective (connective : Connective) : Marked (" " ++ connective.spelling ++ " ") 0 := by
  cases connective <;> decide

theorem aligned_holdsSomething {d : Dialect} {name : String} (hd : d ≠ .generic) :
    (d.holdsSomething name).Aligned := by
  have hq : Marked (d.quote name) 0 := marked_quote fun h => absurd h hd
  show Marked (d.notBlank (d.quote name)) 0
  have hplain : Marked (d.quote name ++ " IS NOT NULL AND " ++ d.quote name ++ " != ''") 0 :=
    ((hq.append (by decide : Marked " IS NOT NULL AND " 0)).append hq).append (by decide : Marked " != ''" 0)
  cases d with
  | generic => exact hplain
  | sqlite => exact hplain
  | mysql => exact hplain
  | postgresql =>
    exact ((hq.append (by decide : Marked " IS NOT NULL AND CAST(" 0)).append hq).append
      (by decide : Marked " AS TEXT) != ''" 0)

theorem aligned_test {cond : Condition} (hname : isName cond.field = true) (h : c.test cond = .ok p) :
    p.Aligned := by
  rcases test_eq_ok h with rfl | rfl | ⟨hsql, hparams⟩
  · exact (by decide : Marked "1=0" 0)
  · exact (by decide : Marked "1=1" 0)
  · have htail : Marked cond.operator.tail cond.operator.paramCount := by
      cases cond.operator <;> decide
    have hm := (marked_quote fun _ => hname : Marked (c.dialect.quote cond.field) 0).append htail
    unfold Predicate.Aligned
    rwa [hsql, hparams, ← Nat.zero_add cond.operator.paramCount]

theorem aligned_group {g : Group} (h : c.group g = .ok p) : p.Aligned := by
  obtain ⟨hnames, fs, hfs, rfl⟩ := group_eq_ok h
  refine (Predicate.Aligned.join (marked_connective g.connective) fun f hf => ?_).grouped
  obtain ⟨cond, hcond, htest⟩ := forall₂_mem_right (mapM_eq_ok.mp hfs) f hf
  exact aligned_test (hnames cond (List.mem_filter.mp hcond).1) htest

end Compiler

/-! ### Selections -/

theorem Table.aligned_notDeleted {t : Table} {d : Dialect} (hd : d ≠ .generic) : (t.notDeleted d).Aligned := by
  unfold Table.notDeleted
  split
  · exact (marked_quote fun h => absurd h hd).append (by decide : Marked " IS NULL" 0)
  · exact Predicate.aligned_none

namespace Selection
variable {s : Selection} {q : Query} {p : Predicate}

theorem aligned_scope (hd : s.dialect ≠ .generic) : s.scope.Aligned := by
  unfold scope
  split
  · exact Table.aligned_notDeleted hd
  · exact Predicate.aligned_none

/-- The predicate of a selection is aligned if the conditions in statement text are. -/
theorem aligned_predicate (hd : s.dialect ≠ .generic) (hraw : ∀ r ∈ s.raw, r.Aligned)
    (h : s.predicate q = .ok p) : p.Aligned := by
  obtain ⟨groups, columns, hgroups, hcolumns, rfl⟩ := predicate_eq_ok h
  refine Predicate.Aligned.all fun part hpart => ?_
  rcases List.mem_append.mp hpart with hpart | hpart
  · obtain ⟨g, -, hg⟩ := forall₂_mem_right hgroups part hpart
    exact Compiler.aligned_group hg
  rcases List.mem_append.mp hpart with hpart | hpart
  · obtain ⟨name, hname, rfl⟩ := List.mem_map.mp hpart
    exact Compiler.aligned_holdsSomething hd
  rcases List.mem_append.mp hpart with hpart | hpart
  · exact hraw part hpart
  · obtain rfl := List.mem_singleton.mp hpart
    exact aligned_scope hd

end Selection
end TableQuery
