import TableQuery.Proofs.Identifiers
import TableQuery.Proofs.PrefixTrees

/-! Sound queries. A query can be prepared for reading exactly if it is not malformed and none of its paths loses its
    way. For a table all of whose names were checked, the statement that reads its rows then comes about, too, whatever
    the predicate of the rows. -/

namespace TableQuery

/-- A query that can be read: it is not malformed, and each of its paths is one along the relations of the table. -/
structure Selection.Sound (s : Selection) (q : Query) : Prop where
  formed : ¬ q.Malformed
  paths : ∀ path, .text path ∈ q.relations → ¬ s.table.LosesPath (cutText '.' path)

namespace Query
variable {q : Query}

theorem isIdentifier_of_mem_columnsWith (h : ¬ q.Malformed) {extra : List Value}
    (hextra : ∀ v ∈ extra, v.IsIdentifier) : ∀ v ∈ q.columnsWith extra, v.IsIdentifier := by
  unfold columnsWith
  split
  · exact List.forall_mem_nil _
  · have hfilter : ∀ v ∈ q.filter, v.IsIdentifier := fun v hv => by_contra fun hname => h (.filter hv hname)
    refine List.foldlRecOn extra _ (motive := fun columns => ∀ v ∈ columns, Value.IsIdentifier v) hfilter ?_
    intro columns hcolumns v hv
    split
    · exact hcolumns
    · exact List.forall_mem_append.mpr ⟨hcolumns, List.forall_mem_singleton.mpr (hextra v hv)⟩

end Query

namespace Preload

/-- The columns that relations are loaded by are local keys of these relations. -/
theorem exists_of_mem_localKeys (nodes : List Preload) :
    ∀ key ∈ localKeys nodes, ∃ n ∈ nodes, n.link.localKey = key := by
  refine List.foldlRecOn nodes _ (motive := fun keys => ∀ key ∈ keys, ∃ n ∈ nodes, n.link.localKey = key)
    (List.forall_mem_nil _) ?_
  intro keys hkeys n hn
  split
  · exact hkeys
  · exact List.forall_mem_append.mpr ⟨hkeys, List.forall_mem_singleton.mpr ⟨n, hn, rfl⟩⟩

theorem isName_of_mem_localKeys {t : Table} {nodes : List Preload} (ht : t.Made) (hnodes : ∀ n ∈ nodes, Resolved t n) :
    ∀ key ∈ localKeys nodes, isName key = true := by
  intro key hkey
  obtain ⟨n, hn, rfl⟩ := exists_of_mem_localKeys nodes key hkey
  cases hnodes n hn with
  | node hrel _ => exact (ht.relation hrel).1.localKey

end Preload

namespace Selection
variable {s : Selection} {q : Query}

theorem exists_prepare_iff : (∃ preloads, s.prepare q = .ok preloads) ↔ s.Sound q := by
  constructor
  · rintro ⟨preloads, h⟩
    obtain ⟨hformed, hpaths⟩ := sound_of_prepare h
    exact ⟨hformed, hpaths⟩
  · rintro ⟨hformed, hpaths⟩
    -- A tree that is not made is refused for a path, which is malformed or loses its way.
    have htree : ∃ preloads, Preload.ofPaths s.table q.relations = .ok preloads := by
      cases htree : Preload.ofPaths s.table q.relations with
      | ok preloads => exact ⟨preloads, rfl⟩
      | error e =>
        obtain ⟨v, hv, hfault⟩ := (Preload.exists_error_iff s.table q.relations).mp ⟨e, htree⟩
        rcases Table.exists_pathFault_iff.mp hfault with hpath | ⟨path, rfl, hlost⟩
        · exact absurd (.path hv hpath) hformed
        · exact absurd hlost (hpaths path hv)
    obtain ⟨preloads, htree⟩ := htree
    exact ⟨preloads, bind_eq_ok.mpr ⟨(), Compiler.validate_eq_ok_iff.mpr hformed, Compiler.ofQuery_eq_ok.mpr htree⟩⟩

theorem exists_orderColumns (h : ¬ q.Malformed) : ∃ order, orderColumns q = .ok order := by
  refine exists_mapM_eq_ok fun o ho => ?_
  obtain ⟨column, hcolumn⟩ := Compiler.exists_asName "order field" (by_contra fun hname => h (.order ho hname))
  exact ⟨(column, o.direction), bind_eq_ok.mpr ⟨column, hcolumn, rfl⟩⟩

/-- The rows of a sound query are read by some statement. The columns that relations are loaded by are names, since
    the table was made. -/
theorem exists_select {preloads : List Preload} {p : Predicate} (ht : s.table.Made)
    (hprepare : s.prepare q = .ok preloads) (hp : s.predicate q = .ok p) :
    ∃ statement, s.select q preloads = .ok statement := by
  have hq := (exists_prepare_iff.mp ⟨preloads, hprepare⟩).formed
  have hkeys : ∀ v ∈ (Preload.localKeys preloads).map Value.text, v.IsIdentifier :=
    List.forall_mem_map.mpr fun key hkey => Compiler.isIdentifier_of_isName
      (Preload.isName_of_mem_localKeys ht (resolved_of_prepare hprepare) key hkey)
  obtain ⟨columns, hcolumns⟩ := Compiler.exists_asNames "filter field" (Query.isIdentifier_of_mem_columnsWith hq hkeys)
  obtain ⟨order, horder⟩ := exists_orderColumns hq
  exact ⟨_, bind_eq_ok.mpr ⟨columns, Compiler.ofQuery_eq_ok.mpr hcolumns, bind_eq_ok.mpr ⟨p, hp, bind_eq_ok.mpr
    ⟨order, Compiler.ofQuery_eq_ok.mpr horder, rfl⟩⟩⟩⟩

end Selection
end TableQuery
