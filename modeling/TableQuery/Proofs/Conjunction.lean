import TableQuery.Proofs.Joining
import TableQuery.Selection.Basic

/-! Predicates as conjunctions. However the conjunctions of a selection are nested, its predicate is one
    conjunction of the groups of its query, the tests of the required fields, the conditions in statement
    text, and the test for rows that are not stamped as deleted; those that restrict nothing are left
    out. -/

namespace TableQuery
namespace Predicate

/-- The predicates that restrict something. -/
def kept (ps : List Predicate) : List Predicate := ps.filter fun p => !p.isNone

theorem isNone_iff {p : Predicate} : p.isNone = true ↔ p.sql = "" := String.isEmpty_iff

theorem mem_kept {p : Predicate} {ps : List Predicate} : p ∈ kept ps ↔ p ∈ ps ∧ p.sql ≠ "" := by
  unfold kept
  rw [List.mem_filter, Bool.not_eq_true', Bool.eq_false_iff, ne_eq, isNone_iff]

theorem kept_append {ps qs : List Predicate} : kept (ps ++ qs) = kept ps ++ kept qs :=
  List.filter_append ps qs

theorem kept_cons_none {p : Predicate} {ps : List Predicate} (h : p.sql = "") : kept (p :: ps) = kept ps := by
  simp [kept, isNone_iff.mpr h]

theorem kept_cons_some {p : Predicate} {ps : List Predicate} (h : p.sql ≠ "") :
    kept (p :: ps) = p :: kept ps := by
  simp [kept, mt isNone_iff.mp h]

/-- Whichever predicates are left, joining them joins their texts and collects their parameters. -/
theorem join_eq (ps : List Predicate) (connective : String) : join ps connective =
    ⟨joinWith (" " ++ connective ++ " ") ((kept ps).map sql), (kept ps).flatMap params⟩ := by
  have hkept : (ps.filter fun p => !p.isNone) = kept ps := rfl
  unfold join
  rw [hkept]
  cases kept ps with
  | nil => rfl
  | cons p rest =>
    cases rest with
    | nil => simp
    | cons q rest => rfl

theorem sql_join (ps : List Predicate) (connective : String) :
    (join ps connective).sql = joinWith (" " ++ connective ++ " ") ((kept ps).map sql) := by
  rw [join_eq]

theorem params_join (ps : List Predicate) (connective : String) :
    (join ps connective).params = (kept ps).flatMap params := by
  rw [join_eq]

theorem join_congr {ps qs : List Predicate} {connective : String} (h : kept ps = kept qs) :
    join ps connective = join qs connective := by
  rw [join_eq, join_eq, h]

theorem sql_join_eq_empty_iff {ps : List Predicate} {connective : String} :
    (join ps connective).sql = "" ↔ kept ps = [] := by
  rw [sql_join, joinWith_eq_empty_iff, List.map_eq_nil_iff]
  intro s hs
  obtain ⟨p, hp, rfl⟩ := List.mem_map.mp hs
  exact (mem_kept.mp hp).2

theorem grouped_none {p : Predicate} (h : p.sql = "") : p.grouped = p := by
  simp [grouped, isNone_iff.mpr h]

theorem grouped_some {p : Predicate} (h : p.sql ≠ "") : p.grouped = ⟨"(" ++ p.sql ++ ")", p.params⟩ := by
  simp [grouped, mt isNone_iff.mp h]

theorem join_singleton {p : Predicate} (h : p.sql ≠ "") (connective : String) : join [p] connective = p := by
  have hkept : kept [p] = [p] := kept_cons_some h
  rw [join_eq, hkept]
  simp

/-- A conjunction among the conjuncts may as well stand there as its own conjuncts. -/
theorem all_append_all (ps qs rs : List Predicate) : all (ps ++ all qs :: rs) = all (ps ++ (qs ++ rs)) := by
  unfold all
  by_cases h : kept qs = []
  · apply join_congr
    rw [kept_append, kept_cons_none (sql_join_eq_empty_iff.mpr h), kept_append, kept_append, h, List.nil_append]
  · have hk : kept (ps ++ join qs "AND" :: rs) = kept ps ++ join qs "AND" :: kept rs := by
      rw [kept_append, kept_cons_some (mt sql_join_eq_empty_iff.mp h)]
    have hk' : kept (ps ++ (qs ++ rs)) = kept ps ++ (kept qs ++ kept rs) := by
      rw [kept_append, kept_append]
    have hsql : joinWith " AND " ((kept (ps ++ join qs "AND" :: rs)).map sql) =
        joinWith " AND " ((kept (ps ++ (qs ++ rs))).map sql) := by
      rw [hk, hk', List.map_append, List.map_cons, sql_join, List.map_append, List.map_append]
      exact joinWith_append_joinWith (mt List.map_eq_nil_iff.mp h)
    have hparams : (kept (ps ++ join qs "AND" :: rs)).flatMap params = (kept (ps ++ (qs ++ rs))).flatMap params := by
      rw [hk, hk', List.flatMap_append, List.flatMap_cons, params_join, List.flatMap_append, List.flatMap_append]
    rw [join_eq, join_eq (ps ++ (qs ++ rs))]
    exact congr (congrArg Predicate.mk hsql) hparams

theorem all_cons_all (ps qs : List Predicate) : all (all ps :: qs) = all (ps ++ qs) :=
  all_append_all [] ps qs

end Predicate
end TableQuery
