import TableQuery.Proofs.Assignments

/-! What statements are spelled with. All text that is put together is made of fixed words, of names that go through
    the quotes of the dialect, and of the conditions that a caller writes as text. Which names these are is left open,
    so that one lemma for each statement serves every source that its names may have. -/

namespace TableQuery

/-- The words that stand between names. -/
def statementWords : List String :=
  ["", " ", "*", ", ", "(", ")", "?", " AND ", " OR ", "1=0", "1=1",
   " = ?", " != ?", " <> ?", " > ?", " >= ?", " < ?", " <= ?", " LIKE ?", " NOT LIKE ?", " IN (?)", " NOT IN (?)",
   " IS NULL", " IS NOT NULL", " BETWEEN ? AND ?", " NOT BETWEEN ? AND ?",
   " IS NOT NULL AND ", " IS NOT NULL AND CAST(", " AS TEXT) != ''", " != ''", "(CASE WHEN ", " THEN 1 ELSE 0 END) = 0",
   "SELECT ", "SELECT * FROM ", "SELECT COUNT(*) ", "SELECT COUNT(*) FROM ", "SELECT COALESCE(", "SUM", "AVG", "), 0) ",
   "FROM ", " WHERE ", " ORDER BY ", "ASC", "DESC", " LIMIT ?", " LIMIT ? OFFSET ?", " LIMIT 1",
   "INSERT INTO ", " (", ") VALUES (", " RETURNING *", "UPDATE ", " SET ", "DELETE FROM "]

/-- Text that is made of nothing but words, quoted names, and texts that are given. -/
inductive Spelled (d : Dialect) (named given : String → Prop) : String → Prop
  | word {s : String} : s ∈ statementWords → Spelled d named given s
  | name {n : String} : named n → Spelled d named given (d.quote n)
  | given {s : String} : given s → Spelled d named given s
  | append {s t : String} : Spelled d named given s → Spelled d named given t → Spelled d named given (s ++ t)

namespace Spelled
variable {d : Dialect} {named given : String → Prop} {s : String}

theorem empty : Spelled d named given "" := .word (by decide)

theorem joinWith {sep : String} (hsep : Spelled d named given sep) :
    ∀ {ss : List String}, (∀ s ∈ ss, Spelled d named given s) → Spelled d named given (joinWith sep ss)
  | [], _ => empty
  | [s], h => h s List.mem_cons_self
  | s :: t :: ss, h => by
    obtain ⟨hs, hrest⟩ := List.forall_mem_cons.mp h
    rw [joinWith_cons_cons]
    exact (hs.append hsep).append (joinWith hsep hrest)

theorem joinWith_comma {α : Type} {f : α → String} {xs : List α} (h : ∀ x ∈ xs, Spelled d named given (f x)) :
    Spelled d named given (TableQuery.joinWith ", " (xs.map f)) := by
  refine joinWith (.word (by decide)) fun s hs => ?_
  obtain ⟨x, hx, rfl⟩ := List.mem_map.mp hs
  exact h x hx

/-! ### Predicates -/

theorem grouped {p : Predicate} (h : Spelled d named given p.sql) : Spelled d named given p.grouped.sql := by
  unfold Predicate.grouped
  split
  · exact h
  · exact ((word (by decide)).append h).append (.word (by decide))

theorem join {ps : List Predicate} {connective : String} (hc : Spelled d named given (" " ++ connective ++ " "))
    (h : ∀ p ∈ ps, Spelled d named given p.sql) : Spelled d named given (Predicate.join ps connective).sql := by
  rw [Predicate.sql_join]
  refine joinWith hc fun s hs => ?_
  obtain ⟨p, hp, rfl⟩ := List.mem_map.mp hs
  exact h p (Predicate.mem_kept.mp hp).1

theorem all {ps : List Predicate} (h : ∀ p ∈ ps, Spelled d named given p.sql) :
    Spelled d named given (Predicate.all ps).sql := join (.word (by decide)) h

theorem none : Spelled d named given Predicate.none.sql := empty

theorem whereClause {p : Predicate} (h : Spelled d named given p.sql) : Spelled d named given p.whereClause := by
  unfold Predicate.whereClause
  split
  · exact empty
  · exact (word (by decide)).append h

theorem notDeleted {t : Table} (h : ∀ c ∈ t.softDelete, named c) : Spelled d named given (t.notDeleted d).sql := by
  unfold Table.notDeleted
  split
  · rename_i column hcolumn
    exact (name (h column hcolumn)).append (.word (by decide))
  · exact none

theorem holdsSomething {n : String} (h : named n) : Spelled d named given (d.holdsSomething n).sql := by
  have hn : Spelled d named given (d.quote n) := .name h
  have hplain : Spelled d named given (d.quote n ++ " IS NOT NULL AND " ++ d.quote n ++ " != ''") :=
    ((hn.append (.word (by decide))).append hn).append (.word (by decide))
  cases d with
  | generic => exact hplain
  | sqlite => exact hplain
  | mysql => exact hplain
  | postgresql => exact ((hn.append (.word (by decide))).append hn).append (.word (by decide))

end Spelled

/-! ### Queries -/

section
variable {named given : String → Prop} (hname : ∀ n, isName n = true → named n)
include hname

namespace Compiler
variable {c : Compiler} {p : Predicate}

theorem spelled_test {cond : Condition} (hfield : isName cond.field = true) (h : c.test cond = .ok p) :
    Spelled c.dialect named given p.sql := by
  rcases test_eq_ok h with rfl | rfl | ⟨hsql, -⟩
  · exact .word (by decide)
  · exact .word (by decide)
  · have htail : cond.operator.tail ∈ statementWords := by cases cond.operator <;> decide
    rw [hsql]
    exact (Spelled.name (hname _ hfield)).append (.word htail)

theorem spelled_group {g : Group} (h : c.group g = .ok p) : Spelled c.dialect named given p.sql := by
  obtain ⟨hnames, fs, hfs, rfl⟩ := group_eq_ok h
  have hconnective : " " ++ g.connective.spelling ++ " " ∈ statementWords := by cases g.connective <;> decide
  refine (Spelled.join (.word hconnective) fun f hf => ?_).grouped
  obtain ⟨cond, hcond, htest⟩ := forall₂_mem_right (mapM_eq_ok.mp hfs) f hf
  exact spelled_test hname (hnames cond (List.mem_filter.mp hcond).1) htest

end Compiler

/-- The predicate of a selection takes its names from the query, where they are checked, and from the stamp of the
    table. -/
theorem Selection.spelled_predicate {s : Selection} {q : Query} {p : Predicate}
    (hstamp : ∀ c ∈ s.table.softDelete, named c) (hraw : ∀ r ∈ s.raw, given r.sql) (h : s.predicate q = .ok p) :
    Spelled s.dialect named given p.sql := by
  obtain ⟨groups, columns, hgroups, hcolumns, rfl⟩ := predicate_eq_ok h
  refine Spelled.all fun part hpart => ?_
  rcases List.mem_append.mp hpart with hpart | hpart
  · obtain ⟨g, -, hg⟩ := forall₂_mem_right hgroups part hpart
    exact Compiler.spelled_group (c := s.compiler) hname hg
  rcases List.mem_append.mp hpart with hpart | hpart
  · obtain ⟨column, hcolumn, rfl⟩ := List.mem_map.mp hpart
    obtain ⟨v, -, hv⟩ := forall₂_mem_right (mapM_eq_ok.mp hcolumns) column hcolumn
    exact Spelled.holdsSomething (hname _ (Value.asName_eq_ok.mp hv).2)
  rcases List.mem_append.mp hpart with hpart | hpart
  · exact .given (hraw part hpart)
  · obtain rfl := List.mem_singleton.mp hpart
    unfold scope
    split
    · exact Spelled.notDeleted hstamp
    · exact Spelled.none

end

/-! ### Statements that read -/

section
variable {d : Dialect} {named given : String → Prop}

namespace Select
variable {s : Select} (htable : named s.table) (hp : Spelled d named given s.restriction.sql)
include htable hp

theorem spelled_fromText : Spelled d named given (s.fromText d) :=
  ((Spelled.word (by decide)).append (.name htable)).append hp.whereClause

theorem spelled_count : Spelled d named given (s.count d).sql :=
  (Spelled.word (by decide)).append (spelled_fromText htable hp)

theorem spelled_aggregate {function column : String} (hfunction : function ∈ statementWords) (hcolumn : named column) :
    Spelled d named given (s.aggregate d function column).sql :=
  (((((Spelled.word (by decide)).append (.word hfunction)).append (.word (by decide))).append
    (.name hcolumn)).append (.word (by decide))).append (spelled_fromText htable hp)

theorem spelled_rows (hcolumns : ∀ column ∈ s.columns, named column) (horder : ∀ entry ∈ s.order, named entry.1) :
    Spelled d named given (s.rows d).sql := by
  have hprojection : Spelled d named given (s.projection d) := by
    unfold projection
    split
    · exact .word (by decide)
    · exact Spelled.joinWith_comma fun column hcolumn => .name (hcolumns column hcolumn)
  have hordered : Spelled d named given (s.orderText d) := by
    unfold orderText
    split
    · exact .word (by decide)
    · refine (Spelled.word (by decide)).append (Spelled.joinWith_comma fun entry hentry => ?_)
      have hdirection : entry.2.keyword ∈ statementWords := by cases entry.2 <;> decide
      exact ((Spelled.name (horder entry hentry)).append (.word (by decide))).append (.word hdirection)
  have hpaging : Spelled d named given s.paging.sql := by
    have hlimit : Spelled d named given " LIMIT ?" := .word (by decide)
    have hoffset : Spelled d named given " LIMIT ? OFFSET ?" := .word (by decide)
    unfold paging
    split
    · exact Spelled.empty
    · split
      · exact hlimit
      · split
        · exact hlimit
        · exact hoffset
  exact (((((Spelled.word (by decide)).append hprojection).append (.word (by decide))).append
    (spelled_fromText htable hp)).append hordered).append hpaging

end Select

theorem Preload.spelled_statement {link : Link} {target : Table} (hkey : named link.remoteKey)
    (htarget : named target.name) (hstamp : ∀ c ∈ target.softDelete, named c) (keys : List Value) :
    Spelled d named given (statement d link target keys).sql := by
  have hrestriction : Spelled d named given ((⟨d.quote link.remoteKey ++ " IN (?)", [.members keys]⟩ : Predicate).and
      [target.notDeleted d]).sql :=
    Spelled.all (List.forall_mem_cons.mpr ⟨(Spelled.name hkey).append (.word (by decide)),
      List.forall_mem_singleton.mpr (Spelled.notDeleted hstamp)⟩)
  exact ((Spelled.word (by decide)).append (.name htarget)).append hrestriction.whereClause

theorem Uniqueness.spelled_probe {u : Uniqueness} {pairs : List (String × Value)} {excluded : Predicate}
    (htable : named u.table.name) (hkey : named u.table.primaryKey) (hstamp : ∀ c ∈ u.table.softDelete, named c)
    (hpairs : ∀ pair ∈ pairs, named pair.1) (id : Value) (he : Spelled u.dialect named given excluded.sql) :
    Spelled u.dialect named given (u.probe pairs id excluded).sql := by
  have hother : Spelled u.dialect named given (u.otherThan id).sql := by
    unfold otherThan
    split
    · exact Spelled.none
    · exact (Spelled.name hkey).append (.word (by decide))
  have houtside : Spelled u.dialect named given (outside excluded).sql := by
    unfold outside
    split
    · exact Spelled.none
    · exact ((Spelled.word (by decide)).append he).append (.word (by decide))
  refine (((Spelled.word (by decide)).append (.name htable)).append (.word (by decide))).append (Spelled.all ?_)
  intro p hp
  rcases List.mem_append.mp hp with hp | hp
  · obtain ⟨pair, hpair, rfl⟩ := List.mem_map.mp hp
    exact (Spelled.name (hpairs pair hpair)).append (.word (by decide))
  · simp only [List.mem_cons, List.not_mem_nil, or_false] at hp
    rcases hp with rfl | rfl | rfl
    · exact hother
    · exact houtside
    · exact Spelled.notDeleted hstamp

end

/-! ### Statements that write, and what is read before them -/

namespace Writer
variable {w : Writer} {named given : String → Prop} {p : Predicate} {row : Row}
  (htable : named w.selection.table.name)
include htable

theorem spelled_insertion (hrow : ∀ column ∈ row.columns, named column) {ending : String}
    (hending : ending ∈ statementWords) :
    Spelled w.selection.dialect named given ((w.insertion row).sql ++ ending) := by
  have hcolumns : Spelled w.selection.dialect named given
      (joinWith ", " (row.map fun entry => w.selection.dialect.quote entry.1)) :=
    Spelled.joinWith_comma fun entry hentry => .name (hrow _ (List.mem_map_of_mem hentry))
  have hmarks : Spelled w.selection.dialect named given (joinWith ", " (row.map fun _ => "?")) :=
    Spelled.joinWith_comma fun _ _ => .word (by decide)
  exact (((((((Spelled.word (by decide)).append (.name htable)).append (.word (by decide))).append hcolumns).append
    (.word (by decide))).append hmarks).append (.word (by decide))).append (.word hending)

theorem spelled_updating (hrow : ∀ column ∈ row.columns, named column)
    (hp : Spelled w.selection.dialect named given p.sql) :
    Spelled w.selection.dialect named given (w.updating row p).sql := by
  have hset : Spelled w.selection.dialect named given
      (joinWith ", " (row.map fun entry => w.selection.dialect.quote entry.1 ++ " = ?")) :=
    Spelled.joinWith_comma fun entry hentry =>
      (Spelled.name (hrow _ (List.mem_map_of_mem hentry))).append (.word (by decide))
  exact ((((Spelled.word (by decide)).append (.name htable)).append (.word (by decide))).append hset).append
    hp.whereClause

theorem spelled_counting (hp : Spelled w.selection.dialect named given p.sql) :
    Spelled w.selection.dialect named given (w.counting p).sql :=
  ((Spelled.word (by decide)).append (.name htable)).append hp.whereClause

theorem spelled_probing (hp : Spelled w.selection.dialect named given p.sql) :
    Spelled w.selection.dialect named given (w.probing p).sql :=
  (((Spelled.word (by decide)).append (.name htable)).append hp.whereClause).append (.word (by decide))

end Writer

theorem Selection.spelled_deletion {s : Selection} {named given : String → Prop} {p : Predicate} {now : Instant}
    (htable : named s.table.name) (hstamp : ∀ c ∈ s.table.softDelete, named c)
    (hp : Spelled s.dialect named given p.sql) : Spelled s.dialect named given (s.deletion now p).sql := by
  rcases s.deletion_cases now p with ⟨column, hcolumn, -, h⟩ | h
  · rw [h]
    have hcolumns : ∀ c ∈ Row.columns [(column, .instant now)], named c :=
      List.forall_mem_singleton.mpr (hstamp column hcolumn)
    exact Writer.spelled_updating (w := .ofSelection s) htable hcolumns hp
  · rw [h]
    exact ((Spelled.word (by decide)).append (.name htable)).append hp.whereClause

end TableQuery
