import TableQuery.Proofs.Legibility

/-! Statements that leave out stamped rows. A statement with a predicate as its `WHERE` part reads as the predicate does,
    whatever names stand around it; so it has the test for the stamp if its predicate has. -/

namespace TableQuery

/-- A statement reaches no row that is stamped in a column: its predicate has the test as a part, and whoever reads the
    statement finds the test among conditions that all have to hold. -/
structure Statement.HidesDeleted (d : Dialect) (column : String) (st : Statement) : Prop where
  carried : ∃ front p back, st.sql = front ++ " WHERE " ++ p.sql ++ back ∧
    Predicate.HasPart p ⟨d.unstamped column, []⟩
  read : d ≠ .generic → ∃ rs, Reading.ofStatement? d st.sql = some (.conj rs) ∧ .test (d.unstamped column) ∈ rs ∧
    ∀ alternatives, Reading.conj rs ≠ .or alternatives

/-- A statement has the `WHERE` part of a predicate between text that starts no clause and other clauses. -/
def Statement.Frames (d : Dialect) (p : Predicate) (st : Statement) : Prop := ∃ front back,
  st.sql = front ++ p.whereClause ++ back ∧ (d ≠ .generic → Silent d front ∧ Trailing d back)

theorem Predicate.HidesDeleted.whereClause {d : Dialect} {column : String} {p : Predicate} (h : p.HidesDeleted d column) :
    p.whereClause = " WHERE " ++ p.sql := by
  simp [Predicate.whereClause, h.part.isNone_eq_false]

theorem Statement.Frames.hidesDeleted {d : Dialect} {p : Predicate} {st : Statement} {column : String}
    (h : st.Frames d p) (hp : p.HidesDeleted d column) : st.HidesDeleted d column := by
  obtain ⟨front, back, hsql, haround⟩ := h
  rw [hp.whereClause, ← String.append_assoc] at hsql
  refine ⟨⟨front, p, back, hsql, hp.part⟩, fun hd => ?_⟩
  obtain ⟨hfront, hback⟩ := haround hd
  obtain ⟨hsilent, rs, hread, hmem⟩ := hp.read hd
  refine ⟨rs, ?_, hmem, hread.conj_ne_or⟩
  rw [hsql]
  exact ofStatement?_where hfront hread hsilent hback

theorem Statement.frames_of_front {d : Dialect} {p : Predicate} {st : Statement} (front : String)
    (hsql : st.sql = front ++ p.whereClause) (hfront : d ≠ .generic → Silent d front) : st.Frames d p :=
  ⟨front, "", hsql.trans String.append_empty.symm, fun hd => ⟨hfront hd, .inl rfl⟩⟩

/-! ### Text around a predicate -/

section
variable {d : Dialect} (hd : d ≠ .generic)
include hd

theorem silent_named {words : String} (name : String) (hwords : Silent d words)
    (hlast : words.toList.getLast?.all Lexeme.isApart = true) : Silent d (words ++ d.quote name) :=
  hwords.behind (silent_quote hd name) hlast

theorem silent_quotedNames (names : List String) : Silent d (joinWith ", " (names.map d.quote)) :=
  Silent.joinWith_comma fun s hs => by
    obtain ⟨name, -, rfl⟩ := List.mem_map.mp hs
    exact silent_quote hd name

namespace Select
variable (s : Select)

theorem silent_projection : Silent d (s.projection d) := by
  unfold projection
  split
  · exact silent_words (by decide) d
  · exact silent_quotedNames hd s.columns

theorem trailing_orderText : Trailing d (s.orderText d) := by
  unfold orderText
  split
  · exact .inl rfl
  have horder : Trailing d " ORDER BY " := trailing_words (by decide) (.inr ⟨_, _, rfl, rfl⟩) d
  refine horder.extend (by decide) rfl (Silent.joinWith_comma fun t ht => ?_)
  obtain ⟨⟨column, direction⟩, -, rfl⟩ := List.mem_map.mp ht
  have hblank : Silent d " " := silent_words (by decide) _
  have hdirection : Silent d direction.keyword := silent_words (by cases direction <;> decide) d
  exact ((silent_quote hd column).before hblank rfl).behind hdirection (endsApart_append _ (by decide) rfl)

omit hd in
theorem trailing_paging : Trailing d s.paging.sql := by
  have hlimit : Trailing d " LIMIT ?" := trailing_words (by decide) (.inr ⟨_, _, rfl, rfl⟩) d
  have hoffset : Trailing d " LIMIT ? OFFSET ?" := trailing_words (by decide) (.inr ⟨_, _, rfl, rfl⟩) d
  unfold paging
  split
  · exact .inl rfl
  · split
    · exact hlimit
    · split
      · exact hlimit
      · exact hoffset

end Select
end

/-! ### Statements that read -/

namespace Select
variable {d : Dialect} (s : Select)

theorem frames_rows : (s.rows d).Frames d s.restriction := by
  refine ⟨"SELECT " ++ s.projection d ++ (" " ++ "FROM ") ++ d.quote s.table, s.orderText d ++ s.paging.sql, ?_,
    fun hd => ⟨silent_named hd _ ?_ (endsApart_append _ (by decide) rfl), ?_⟩⟩
  · unfold rows fromText
    simp only [String.append_assoc]
  · have hselect : Silent d "SELECT " := silent_words (by decide) _
    have hfrom : Silent d (" " ++ "FROM ") := silent_words (by decide) _
    exact (hselect.behind (s.silent_projection hd) rfl).before hfrom rfl
  · exact (s.trailing_orderText hd).append s.trailing_paging

theorem frames_count : (s.count d).Frames d s.restriction := by
  refine Statement.frames_of_front ("SELECT COUNT(*) " ++ "FROM " ++ d.quote s.table) ?_ fun hd => ?_
  · unfold count fromText
    rw [← String.append_assoc, ← String.append_assoc]
  · exact silent_named hd _ (silent_words (by decide) _) rfl

theorem frames_aggregate {function : String} (hfunction : Silent d function) (column : String) :
    (s.aggregate d function column).Frames d s.restriction := by
  refine Statement.frames_of_front
    ("SELECT COALESCE(" ++ function ++ "(" ++ d.quote column ++ "), 0) " ++ "FROM " ++ d.quote s.table) ?_ fun hd => ?_
  · unfold aggregate fromText
    simp only [String.append_assoc]
  refine silent_named hd _ ?_ (endsApart_append _ (by decide) rfl)
  have hcall : Silent d (function ++ ("(" ++ d.quote column ++ ")")) :=
    hfunction.append (silent_quote hd column).parens Element.separate_parens
  have hzero : Silent d ", 0" := silent_words (by decide) _
  have hcoalesce : Silent d "SELECT COALESCE" := silent_words (by decide) _
  have hfrom : Silent d (" " ++ "FROM ") := silent_words (by decide) _
  have hall := (hcoalesce.append (hcall.before hzero rfl).parens Element.separate_parens).before hfrom rfl
  rw [show "SELECT COALESCE(" = "SELECT COALESCE" ++ "(" from rfl, show "), 0) " = ")" ++ (", 0" ++ (")" ++ " ")) from rfl]
  simp only [String.append_assoc] at hall ⊢
  exact hall

end Select

section
variable {w : Writer} {p : Predicate}

theorem Writer.frames_counting : (w.counting p).Frames w.selection.dialect p :=
  Statement.frames_of_front _ rfl fun hd => silent_named hd _ (silent_words (by decide) _) rfl

theorem Writer.frames_probing : (w.probing p).Frames w.selection.dialect p := by
  refine ⟨_, " LIMIT 1", rfl, fun hd => ⟨silent_named hd _ ?_ rfl, ?_⟩⟩
  · exact silent_words (by decide) _
  · exact trailing_words (by decide) (.inr ⟨_, _, rfl, rfl⟩) _

/-! ### Statements that change rows -/

theorem Writer.frames_updating (row : Row) : (w.updating row p).Frames w.selection.dialect p := by
  refine Statement.frames_of_front _ rfl fun hd => ?_
  have hupdate : Silent w.selection.dialect "UPDATE " := silent_words (by decide) _
  have hset : Silent w.selection.dialect " SET " := silent_words (by decide) _
  have hmark : Silent w.selection.dialect " = ?" := silent_words (by decide) _
  have hcolumns : Silent w.selection.dialect
      (joinWith ", " (row.map fun entry => w.selection.dialect.quote entry.1 ++ " = ?")) := by
    refine Silent.joinWith_comma fun s hs => ?_
    obtain ⟨entry, -, rfl⟩ := List.mem_map.mp hs
    exact (silent_quote hd entry.1).before hmark rfl
  exact ((silent_named hd _ hupdate rfl).before hset rfl).behind hcolumns (endsApart_append _ (by decide) rfl)

theorem Selection.frames_deletion (s : Selection) (now : Instant) : (s.deletion now p).Frames s.dialect p := by
  rcases s.deletion_cases now p with ⟨column, -, -, h⟩ | h
  · rw [h]
    exact Writer.frames_updating (w := .ofSelection s) [(column, .instant now)]
  · rw [h]
    exact Statement.frames_of_front _ rfl fun hd => silent_named hd _ (silent_words (by decide) _) rfl

end

/-! ### Probes and relations -/

section
variable {column : String}

theorem Uniqueness.legible_otherThan {u : Uniqueness} (hd : u.dialect ≠ .generic) (id : Value) :
    (u.otherThan id).Legible u.dialect := by
  unfold otherThan
  split
  · exact Predicate.legible_none
  · exact legible_operator hd u.table.primaryKey .ne [id]

/-- A probe of a rule does not count stamped rows. -/
theorem Uniqueness.hidesDeleted_probe {u : Uniqueness} {excluded : Predicate} (hstamped : u.table.softDelete = some column)
    (hexcluded : u.dialect ≠ .generic → excluded.Legible u.dialect) (pairs : List (String × Value)) (id : Value) :
    (u.probe pairs id excluded).HidesDeleted u.dialect column := by
  have hrestriction : Predicate.HidesDeleted u.dialect column (Predicate.all
      (pairs.map (fun pair => equals u.dialect pair.1 pair.2) ++
        [u.otherThan id, outside excluded, u.table.notDeleted u.dialect])) := by
    rw [Table.notDeleted_eq hstamped]
    refine Predicate.hidesDeleted_all (by simp) fun hd p hp => ?_
    simp only [List.mem_append, List.mem_cons, List.not_mem_nil, or_false] at hp
    rcases hp with hp | rfl | rfl | rfl
    · obtain ⟨⟨column, v⟩, -, rfl⟩ := List.mem_map.mp hp
      exact legible_operator hd column .eq [v]
    · exact u.legible_otherThan hd id
    · exact legible_outside (hexcluded hd)
    · exact legible_operator hd _ .isNull []
  refine (Statement.frames_of_front ("SELECT COUNT(*) FROM " ++ u.dialect.quote u.table.name) ?_ fun hd => ?_).hidesDeleted
    hrestriction
  · rw [hrestriction.whereClause, ← String.append_assoc]
    rfl
  · exact silent_named hd _ (silent_words (by decide) _) rfl

theorem Preload.hidesDeleted_statement {d : Dialect} {target : Table} (hstamped : target.softDelete = some column)
    (link : Link) (keys : List Value) : (Preload.statement d link target keys).HidesDeleted d column := by
  have hrestriction : Predicate.HidesDeleted d column
      (Predicate.all [⟨d.quote link.remoteKey ++ " IN (?)", [.members keys]⟩, target.notDeleted d]) := by
    rw [Table.notDeleted_eq hstamped]
    refine Predicate.hidesDeleted_all (by simp) fun hd => ?_
    refine List.forall_mem_cons.mpr ⟨legible_operator hd _ .isIn _, List.forall_mem_singleton.mpr ?_⟩
    exact legible_operator hd _ .isNull []
  have hframes : (Preload.statement d link target keys).Frames d
      (Predicate.all [⟨d.quote link.remoteKey ++ " IN (?)", [.members keys]⟩, target.notDeleted d]) :=
    Statement.frames_of_front _ rfl fun hd => silent_named hd _ (silent_words (by decide) _) rfl
  exact hframes.hidesDeleted hrestriction

end
end TableQuery
