import TableQuery.Proofs.Fragments
import TableQuery.Proofs.TestReading

/-! The predicate of a selection, read back. Groups, required fields, conditions in statement text and the test
    for the stamp are conditions of their own that all have to hold: whatever connectives a group or a condition
    in statement text has inside, they bind nothing outside. -/

namespace TableQuery

/-- The reading of conditions with a connective between them. -/
def Connective.joined : Connective → List Reading → Reading
  | and, rs => .conj rs
  | or, rs => .disj rs

/-- What a group reads as, given the tests of its conditions that are not left out: a condition in parentheses,
    or nothing if none is left. -/
def Group.nodes (g : Group) (fragments : List Predicate) : List Reading :=
  if fragments.isEmpty then [] else [.parens (g.connective.joined (fragments.map fun f => .test f.sql))]

/-- What the test for rows that are not stamped as deleted reads as. -/
def Selection.scopeNodes (s : Selection) : List Reading :=
  if s.scope.isNone then [] else [.test s.scope.sql]

/-- A predicate that restricts nothing and reads as nothing, or reads as conditions that all have to hold. -/
def Predicate.Means (d : Dialect) (p : Predicate) (rs : List Reading) : Prop :=
  p.sql = "" ∧ rs = [] ∨ p.sql ≠ "" ∧ Conjoined d p.sql rs

section
variable {d : Dialect} {s : String} {rs : List Reading}

theorem Conjoined.ne_empty (h : Conjoined d s rs) : s ≠ "" := by
  rintro rfl
  obtain ⟨es, hes, hfull, -⟩ := h
  cases hes
  cases hfull

/-- A condition between `AND`s has no `OR` to be seen. -/
theorem Conjoined.conj_ne_or (h : Conjoined d s rs) (alternatives : List Reading) :
    Reading.conj rs ≠ .or alternatives := by
  obtain ⟨es, -, -, -, -, rfl⟩ := h
  have hunit : ∀ r ∈ Element.units (Element.bindRanges 0 es), r ≠ .or alternatives := by
    intro r hr
    obtain ⟨piece, -, rfl⟩ := List.mem_map.mp hr
    unfold Element.unit
    split <;> exact fun h => nomatch h
  cases hrs : Element.units (Element.bindRanges 0 es) with
  | nil => exact fun h => nomatch h
  | cons r rest =>
    cases rest with
    | nil => exact hunit r (hrs ▸ List.mem_cons_self)
    | cons r' rest => exact fun h => nomatch h

end

namespace Predicate
variable {d : Dialect} {p : Predicate} {rs : List Reading}

theorem Means.ofText? (h : p.Means d rs) : Reading.ofText? d p.sql = some (.conj rs) := by
  rcases h with ⟨hsql, rfl⟩ | ⟨-, h⟩
  · rw [hsql]
    rfl
  · exact h.ofText?

theorem Means.conj_ne_or (h : p.Means d rs) (alternatives : List Reading) : Reading.conj rs ≠ .or alternatives := by
  rcases h with ⟨-, rfl⟩ | ⟨-, h⟩
  · exact fun h => nomatch h
  · exact h.conj_ne_or alternatives

/-- A conjunction means what its parts mean, one after the other. -/
theorem Means.all {ps : List Predicate} {rss : List (List Reading)} (h : List.Forall₂ (Means d) ps rss) :
    (Predicate.all ps).Means d rss.flatten := by
  induction h with
  | nil => exact .inl ⟨rfl, rfl⟩
  | @cons p rs ps rss hp _ ih =>
    rw [List.flatten_cons]
    rcases hp with ⟨hsql, rfl⟩ | ⟨hsql, hp⟩
    · have hall : Predicate.all (p :: ps) = Predicate.all ps := join_congr (kept_cons_none hsql)
      rw [hall, List.nil_append]
      exact ih
    · have htext : (Predicate.all (p :: ps)).sql = joinWith " AND " (p.sql :: (kept ps).map sql) := by
        unfold Predicate.all
        rw [sql_join, kept_cons_some hsql]
        rfl
      rcases ih with ⟨hnone, hrss⟩ | ⟨hsome, hrest⟩
      · have hkept : kept ps = [] := sql_join_eq_empty_iff.mp hnone
        rw [hkept] at htext
        refine .inr ⟨?_, ?_⟩
        · rw [htext]
          exact hsql
        · rw [htext, hrss, List.append_nil]
          exact hp
      · have hrestText : (Predicate.all ps).sql = joinWith " AND " ((kept ps).map sql) := sql_join ps "AND"
        have hne : (kept ps).map sql ≠ [] := by
          intro h
          rw [h] at hrestText
          exact hsome hrestText
        rw [joinWith_cons hne, ← hrestText] at htext
        refine .inr ⟨?_, ?_⟩
        · rw [htext]
          simp [String.append_eq_empty_iff, hsql]
        · rw [htext]
          exact hp.and hrest

/-- A condition of the caller is a condition of its own, whatever it reads as. -/
theorem Means.raw {text : String} {args : List Value} {r : Reading} (hfull : trimText text ≠ "")
    (h : Reading.ofText? d (trimText text) = some r) : (Predicate.raw text args).Means d [.parens r] := by
  have hraw : Predicate.raw text args = ⟨"(" ++ trimText text ++ ")", args⟩ := grouped_some hfull
  have hread : Conjoined d (Predicate.raw text args).sql [.parens r] := by
    rw [hraw]
    exact Conjoined.parens h
  exact .inr ⟨hread.ne_empty, hread⟩

/-- The tests of a group are read with its connective between them. -/
theorem ofText?_join {fs : List Predicate} (hne : fs ≠ []) (h : ∀ f ∈ fs, Conjoined d f.sql [.test f.sql])
    (c : Connective) :
    Reading.ofText? d (join fs c.spelling).sql = some (c.joined (fs.map fun f => .test f.sql)) := by
  have hkept : kept fs = fs := List.filter_eq_self.mpr fun f hf => by
    rw [Bool.not_eq_true', Bool.eq_false_iff, ne_eq, isNone_iff]
    exact (h f hf).ne_empty
  rw [sql_join, hkept]
  cases c with
  | and =>
    have hread := (Conjoined.joinWith hne h).ofText?
    rwa [← List.map_eq_flatMap] at hread
  | or => exact (Alternatives.joinWith hne h).ofText?

/-- A group means what its connective makes of its tests. -/
theorem Means.group {fs : List Predicate} (h : ∀ f ∈ fs, Conjoined d f.sql [.test f.sql]) (g : Group) :
    (join fs g.connective.spelling).grouped.Means d (g.nodes fs) := by
  cases fs with
  | nil => exact .inl ⟨rfl, rfl⟩
  | cons f fs =>
    have hne : f :: fs ≠ [] := List.cons_ne_nil f fs
    have hfull : (join (f :: fs) g.connective.spelling).sql ≠ "" := by
      rw [ne_eq, sql_join_eq_empty_iff, kept_cons_some (h f List.mem_cons_self).ne_empty]
      exact List.cons_ne_nil _ _
    have hread := Conjoined.parens (ofText?_join hne h g.connective)
    rw [grouped_some hfull]
    exact .inr ⟨hread.ne_empty, hread⟩

end Predicate

namespace Selection
variable {s : Selection} {q : Query} {own : Predicate} {written : List (String × List Value)}

theorem scope_means (hd : s.dialect ≠ .generic) : s.scope.Means s.dialect s.scopeNodes := by
  unfold scopeNodes
  by_cases hnone : s.scope.sql = ""
  · rw [if_pos (Predicate.isNone_iff.mpr hnone)]
    exact .inl ⟨hnone, rfl⟩
  rw [if_neg (mt Predicate.isNone_iff.mp hnone)]
  refine .inr ⟨hnone, ?_⟩
  revert hnone
  unfold scope Table.notDeleted
  split
  · split
    · exact fun _ => conjoined_notDeleted hd _
    · exact fun h => absurd rfl h
  · exact fun h => absurd rfl h

/-- The tests of the groups of a query, and what the groups mean. -/
theorem exists_fragments (hd : s.dialect ≠ .generic) {search : List Group} {groups : List Predicate}
    (h : List.Forall₂ (fun g p => s.compiler.group g = .ok p) search groups) :
    ∃ fragments, search.mapM s.compiler.fragments = .ok fragments ∧
      List.Forall₂ (Predicate.Means s.dialect) groups (List.zipWith Group.nodes search fragments) := by
  induction h with
  | nil => exact ⟨[], rfl, .nil⟩
  | @cons g p search groups hg _ ih =>
    obtain ⟨fragments, hfragments, hmeans⟩ := ih
    obtain ⟨-, fs, hfs, rfl⟩ := Compiler.group_eq_ok hg
    have htests : ∀ f ∈ fs, Conjoined s.dialect f.sql [.test f.sql] := by
      intro f hf
      obtain ⟨cond, -, htest⟩ := forall₂_mem_right (mapM_eq_ok.mp hfs) f hf
      exact Compiler.conjoined_test hd htest
    exact ⟨fs :: fragments, mapM_eq_ok.mpr (.cons hfs (mapM_eq_ok.mp hfragments)), .cons (.group htests g) hmeans⟩

/-- The readings of conditions in statement text, and what the conditions mean. -/
theorem exists_raws {d : Dialect} (h : ∀ w ∈ written, trimText w.1 ≠ "" ∧ Readable d w.1) :
    ∃ raws, written.mapM (fun w => Reading.ofText? d (trimText w.1)) = some raws ∧
      List.Forall₂ (Predicate.Means d) (written.map fun w => Predicate.raw w.1 w.2)
        (raws.map fun r => [.parens r]) := by
  induction written with
  | nil => exact ⟨[], rfl, .nil⟩
  | cons w written ih =>
    obtain ⟨⟨hfull, hreadable⟩, hrest⟩ := List.forall_mem_cons.mp h
    obtain ⟨r, hr⟩ := hreadable.trimText.exists_reading
    obtain ⟨raws, hraws, hmeans⟩ := ih hrest
    refine ⟨r :: raws, ?_, .cons (.raw hfull hr) hmeans⟩
    rw [List.mapM_cons, hr, hraws]
    rfl

/-- The predicate of a selection, read with the precedence of a store, is the conjunction of a condition for each
    group whose tests its own connective joins, of the tests of the required fields, of each condition in statement
    text as it reads alone, and of the test for the stamp. So no `OR` is seen outside parentheses. -/
theorem reading_predicate (hd : s.dialect ≠ .generic)
    (hraw : s.raw = written.map fun w => Predicate.raw w.1 w.2)
    (hwritten : ∀ w ∈ written, trimText w.1 ≠ "" ∧ Readable s.dialect w.1)
    (hown : s.compiler.predicate q = .ok own) : ∃ p fragments columns raws,
      s.predicate q = .ok p ∧ q.search.mapM s.compiler.fragments = .ok fragments ∧
      Value.asNames "required field" q.required = .ok columns ∧
      written.mapM (fun w => Reading.ofText? s.dialect (trimText w.1)) = some raws ∧
      Reading.ofText? s.dialect p.sql = some (.conj ((List.zipWith Group.nodes q.search fragments).flatten ++
        columns.flatMap s.dialect.requiredTests ++ raws.map .parens ++ s.scopeNodes)) ∧
      ∀ alternatives, Reading.ofText? s.dialect p.sql ≠ some (.or alternatives) := by
  obtain ⟨p, hp⟩ : ∃ p, s.predicate q = .ok p := by
    unfold predicate
    rw [hown]
    exact ⟨_, rfl⟩
  obtain ⟨groups, columns, hgroups, hcolumns, hall⟩ := predicate_eq_ok hp
  obtain ⟨fragments, hfragments, hsearch⟩ := exists_fragments hd hgroups
  obtain ⟨raws, hraws, hconditions⟩ := exists_raws hwritten
  have hrequired : List.Forall₂ (Predicate.Means s.dialect) (columns.map s.dialect.holdsSomething)
      (columns.map s.dialect.requiredTests) := by
    rw [List.forall₂_map_left_iff, List.forall₂_map_right_iff, List.forall₂_same]
    intro name _
    have hread := conjoined_holdsSomething hd name
    exact .inr ⟨hread.ne_empty, hread⟩
  have hmeans : p.Means s.dialect ((List.zipWith Group.nodes q.search fragments).flatten ++
      columns.flatMap s.dialect.requiredTests ++ raws.map .parens ++ s.scopeNodes) := by
    have hparts := List.rel_append hsearch (List.rel_append hrequired
      (List.rel_append (hraw ▸ hconditions) (.cons (scope_means hd) .nil)))
    have hmeans := hall ▸ Predicate.Means.all hparts
    rw [List.map_eq_flatMap (l := raws)]
    simpa [List.flatMap_def] using hmeans
  refine ⟨p, fragments, columns, raws, hp, hfragments, hcolumns, hraws, hmeans.ofText?, ?_⟩
  intro alternatives h
  rw [hmeans.ofText?] at h
  exact hmeans.conj_ne_or alternatives (Option.some.inj h)

/-- With a group of alternatives and alternatives that the caller writes. -/
theorem reading_predicate_posts :
    let posts : Table := ⟨"posts", "id", false, none, none, some "deleted_at", []⟩
    let s := (Selection.all .sqlite posts .standard).restrict " a = ')' OR (b BETWEEN 1 AND 2) " []
    let q : Query := { Query.empty with
      search := [⟨[⟨"kind", .int 1, .eq⟩, ⟨"name", .text "", .eq⟩, ⟨"rank", .tuple [.int 1, .int 2], .between⟩], .or⟩]
      required := [.text "kind"] }
    ∃ p fragments columns raws,
      s.predicate q = .ok p ∧ q.search.mapM s.compiler.fragments = .ok fragments ∧
      Value.asNames "required field" q.required = .ok columns ∧
      [" a = ')' OR (b BETWEEN 1 AND 2) "].mapM (fun w => Reading.ofText? .sqlite (trimText w)) = some raws ∧
      Reading.ofText? s.dialect p.sql = some (.conj ((List.zipWith Group.nodes q.search fragments).flatten ++
        columns.flatMap s.dialect.requiredTests ++ raws.map .parens ++ s.scopeNodes)) ∧
      ∀ alternatives, Reading.ofText? s.dialect p.sql ≠ some (.or alternatives) := by
  intro posts s q
  have hwritten : ∀ w ∈ [(" a = ')' OR (b BETWEEN 1 AND 2) ", ([] : List Value))],
      trimText w.1 ≠ "" ∧ Readable s.dialect w.1 := by
    intro w hw
    rw [List.mem_singleton.mp hw]
    decide +kernel
  exact reading_predicate (s := s) (q := q) (by decide) rfl hwritten rfl

end Selection
end TableQuery
