import TableQuery.Proofs.Alignment
import TableQuery.Proofs.Operations
import TableQuery.Proofs.Rendering

/-! Every statement of every operation has one parameter for each of its placeholders, and what is written
    into a row reaches the columns that it was given for. Quoting makes this independent of the names that
    a record brings along, so nothing is asked of them. -/

namespace TableQuery

/-! ### Statements that read -/

theorem Predicate.Aligned.whereClause {p : Predicate} (h : p.Aligned) : Marked p.whereClause p.params.length := by
  unfold Predicate.whereClause
  split
  · rename_i hnone
    have hs := h
    unfold Predicate.Aligned at hs
    rwa [Predicate.isNone_iff.mp hnone] at hs
  · have := (by decide : Marked " WHERE " 0).append h
    rwa [Nat.zero_add] at this

/-- A quoted name of a dialect that quotes. -/
theorem marked_quoted {d : Dialect} (hd : d ≠ .generic) (name : String) : Marked (d.quote name) 0 :=
  marked_quote fun h => absurd h hd

/-- Quoted names with a separator between them. -/
theorem marked_quotedNames {d : Dialect} (hd : d ≠ .generic) (names : List String) :
    Marked (joinWith ", " (names.map d.quote)) 0 :=
  Marked.joinWith_zero (by decide) fun s hs => by
    obtain ⟨name, -, rfl⟩ := List.mem_map.mp hs
    exact marked_quoted hd name

namespace Select
variable {s : Select} {d : Dialect}

theorem marked_fromText (hd : d ≠ .generic) (h : s.restriction.Aligned) :
    Marked (s.fromText d) s.restriction.params.length := by
  have := ((by decide : Marked "FROM " 0).append (marked_quoted hd s.table)).append h.whereClause
  rwa [Nat.zero_add] at this

theorem marked_orderText (hd : d ≠ .generic) : Marked (s.orderText d) 0 := by
  unfold orderText
  split
  · exact by decide
  · refine (by decide : Marked " ORDER BY " 0).append (Marked.joinWith_zero (by decide) fun t ht => ?_)
    obtain ⟨⟨column, direction⟩, -, rfl⟩ := List.mem_map.mp ht
    have hdirection : Marked direction.keyword 0 := by cases direction <;> decide
    exact ((marked_quoted hd column).append (by decide : Marked " " 0)).append hdirection

theorem marked_projection (hd : d ≠ .generic) : Marked (s.projection d) 0 := by
  unfold projection
  split
  · exact by decide
  · exact marked_quotedNames hd s.columns

theorem aligned_paging : s.paging.Aligned := by
  unfold paging
  split
  · exact (by decide : Marked "" 0)
  · split
    · exact (by decide : Marked " LIMIT ?" 1)
    · split
      · exact (by decide : Marked " LIMIT ?" 1)
      · exact (by decide : Marked " LIMIT ? OFFSET ?" 2)

theorem aligned_rows (hd : d ≠ .generic) (h : s.restriction.Aligned) : (s.rows d).Aligned := by
  have := (((((by decide : Marked "SELECT " 0).append (marked_projection (s := s) hd)).append
    (by decide : Marked " " 0)).append (marked_fromText hd h)).append (marked_orderText (s := s) hd)).append
    (aligned_paging (s := s))
  unfold Statement.Aligned
  simpa [rows] using this

theorem aligned_count (hd : d ≠ .generic) (h : s.restriction.Aligned) : (s.count d).Aligned := by
  have := (by decide : Marked "SELECT COUNT(*) " 0).append (marked_fromText hd h)
  rwa [Nat.zero_add] at this

theorem aligned_aggregate {function column : String} (hd : d ≠ .generic) (hf : Marked function 0)
    (h : s.restriction.Aligned) : (s.aggregate d function column).Aligned := by
  have := (((((by decide : Marked "SELECT COALESCE(" 0).append hf).append (by decide : Marked "(" 0)).append
    (marked_quoted hd column)).append (by decide : Marked "), 0) " 0)).append (marked_fromText hd h)
  rwa [Nat.zero_add] at this

end Select

theorem Preload.aligned_statement {d : Dialect} (hd : d ≠ .generic) (link : Link) (target : Table)
    (keys : List Value) : (Preload.statement d link target keys).Aligned := by
  have hbelongs : Predicate.Aligned ⟨d.quote link.remoteKey ++ " IN (?)", [.members keys]⟩ :=
    (marked_quoted hd link.remoteKey).append (by decide : Marked " IN (?)" 1)
  have hrestriction : ((⟨d.quote link.remoteKey ++ " IN (?)", [.members keys]⟩ : Predicate).and
      [target.notDeleted d]).Aligned :=
    Predicate.Aligned.all (List.forall_mem_cons.mpr
      ⟨hbelongs, List.forall_mem_singleton.mpr (Table.aligned_notDeleted hd)⟩)
  have := ((by decide : Marked "SELECT * FROM " 0).append (marked_quoted hd target.name)).append
    hrestriction.whereClause
  rwa [Nat.zero_add] at this

theorem Uniqueness.aligned_probe {u : Uniqueness} (hd : u.dialect ≠ .generic) (pairs : List (String × Value))
    (id : Value) {excluded : Predicate} (he : excluded.Aligned) : (u.probe pairs id excluded).Aligned := by
  have hother : (u.otherThan id).Aligned := by
    unfold Uniqueness.otherThan
    split
    · exact Predicate.aligned_none
    · exact (marked_quoted hd u.table.primaryKey).append (by decide : Marked " != ?" 1)
  have houtside : (Uniqueness.outside excluded).Aligned := by
    unfold Uniqueness.outside
    split
    · exact Predicate.aligned_none
    · have := ((by decide : Marked "(CASE WHEN " 0).append he).append
        (by decide : Marked " THEN 1 ELSE 0 END) = 0" 0)
      rwa [Nat.zero_add] at this
  have hall : (Predicate.all (pairs.map (fun pair => Uniqueness.equals u.dialect pair.1 pair.2) ++
      [u.otherThan id, Uniqueness.outside excluded, u.table.notDeleted u.dialect])).Aligned := by
    refine Predicate.Aligned.all fun p hp => ?_
    rcases List.mem_append.mp hp with hp | hp
    · obtain ⟨⟨column, v⟩, -, rfl⟩ := List.mem_map.mp hp
      exact (marked_quoted hd column).append (by decide : Marked " = ?" 1)
    · simp only [List.mem_cons, List.not_mem_nil, or_false] at hp
      rcases hp with rfl | rfl | rfl
      · exact hother
      · exact houtside
      · exact Table.aligned_notDeleted hd
  have := (((by decide : Marked "SELECT COUNT(*) FROM " 0).append (marked_quoted hd u.table.name)).append
    (by decide : Marked " WHERE " 0)).append hall
  rw [Nat.zero_add] at this
  exact this

end TableQuery
