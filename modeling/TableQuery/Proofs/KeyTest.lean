import TableQuery.Proofs.Alignment
import TableQuery.Selection.Deletion

/-! The condition on the primary key, by which a single row is meant. It reaches a predicate like every other
    condition: its test is a part of the conjunction unless the condition is left out, which depends on the
    key, on the name of the primary key and on the fields that are tested even when there is nothing to search
    for. -/

namespace TableQuery

namespace Condition

theorem sealed_eq_self {field : String} {v : Value} (h : checkValue field .eq (sealed v) = .ok ()) : sealed v = v := by
  cases v with
  | list xs => exact (nomatch h)
  | set frozen xs => exact (nomatch h)
  | _ => rfl

/-- A condition without an operator tests for equality. -/
theorem make_default_eq_ok {field : String} {v : Value} {cond : Condition}
    (h : make (.text field) v defaultOperator = .ok cond) : cond = ⟨field, v, .eq⟩ := by
  obtain ⟨op, hop, h⟩ := bind_eq_ok.mp h
  obtain rfl : Operator.eq = op := by
    have : Operator.ofValue defaultOperator = .ok .eq := by rfl
    rw [this] at hop
    cases hop
    rfl
  obtain ⟨_, hcheck, h⟩ := bind_eq_ok.mp h
  cases h
  rw [sealed_eq_self hcheck]

end Condition

namespace Selection
variable {s : Selection} {id : Value} {q : Query} {p : Predicate}

/-- The test of the primary key, as it stands in a predicate. -/
def keyTest (s : Selection) (id : Value) : Predicate :=
  ⟨"(" ++ s.dialect.quote s.table.primaryKey ++ " = ?" ++ ")", [id]⟩

/-- A key for which the condition on the primary key is left out. -/
def DropsKey (s : Selection) (id : Value) : Prop :=
  id.isBlankValue = true ∧ s.table.primaryKey ∉ s.settings.emptyValueFields

/-- The group that holds nothing but the condition on the primary key. -/
def keyGroup (s : Selection) (id : Value) : Group := ⟨[⟨s.table.primaryKey, id, .eq⟩], .and⟩

theorem isSkipped_key_iff : s.compiler.isSkipped ⟨s.table.primaryKey, id, .eq⟩ = true ↔ s.DropsKey id := by
  simp [Compiler.isSkipped, DropsKey, compiler, Operator.isNullCheck]

/-- The predicate of the group is the test of the key, or restricts nothing if the condition is left out. -/
theorem group_key_eq_ok (h : s.compiler.group (s.keyGroup id) = .ok p) :
    (s.DropsKey id → p = .none) ∧ (¬ s.DropsKey id → p = s.keyTest id) := by
  obtain ⟨tests, htests, h⟩ := bind_eq_ok.mp h
  cases h
  cases mapM_eq_ok.mp htests with
  | cons htest hrest =>
    cases hrest
    obtain ⟨-, ⟨hskip, rfl⟩ | ⟨hskip, htest⟩⟩ := Compiler.condition_eq_ok htest
    · exact ⟨fun _ => rfl, fun hkept => absurd (isSkipped_key_iff.mp hskip) hkept⟩
    · refine ⟨fun hdrop => ?_, fun _ => ?_⟩
      · rw [isSkipped_key_iff.mpr hdrop] at hskip
        cases hskip
      · have htest : (⟨s.dialect.quote s.table.primaryKey ++ " " ++ "=" ++ " ?", [id]⟩ : Predicate) = _ :=
          Except.ok.inj htest
        subst htest
        have hne : s.dialect.quote s.table.primaryKey ++ " " ++ "=" ++ " ?" ≠ "" := by
          simp [String.append_eq_empty_iff]
        rw [Predicate.join_singleton hne, Predicate.grouped_some hne]
        simp only [keyTest, String.append_assoc]
        rfl

theorem queryById_eq_ok (h : s.queryById id = .ok q) : q = s.query.withSearch [s.keyGroup id] := by
  obtain ⟨byId, hbyId, h⟩ := bind_eq_ok.mp h
  obtain ⟨cond, hcond, hbyId⟩ := bind_eq_ok.mp hbyId
  cases h
  cases hbyId
  rw [Condition.make_default_eq_ok hcond]
  rfl

/-- How the condition on the primary key restricts what another query selects. -/
structure RestrictedToKey (s : Selection) (q : Query) (id : Value) (p : Predicate) : Prop where
  kept : ¬ s.DropsKey id → ∃ before after, p = .all (before ++ s.keyTest id :: after) ∧ ∀ b ∈ before, b.Aligned
  dropped : s.DropsKey id → s.Conjoins q p

theorem restrictedToKey (search search' : List Group) (hq : q.search = search ++ s.keyGroup id :: search')
    (h : s.predicate q = .ok p) : s.RestrictedToKey { q with search := search ++ search' } id p := by
  obtain ⟨groups, columns, hgroups, hcolumns, rfl⟩ := predicate_eq_ok h
  rw [hq] at hgroups
  obtain ⟨before, rest, rfl, hbefore, hrest⟩ := forall₂_append_left hgroups
  cases hrest with
  | @cons _ key _ after hkey hafter =>
    obtain ⟨hdrop, hkeep⟩ := group_key_eq_ok hkey
    refine ⟨fun hkept => ?_, fun hdropped => ?_⟩
    · rw [hkeep hkept, List.append_assoc, List.cons_append]
      refine ⟨before, _, rfl, fun b hb => ?_⟩
      obtain ⟨g, -, hg⟩ := forall₂_mem_right hbefore b hb
      exact Compiler.aligned_group hg
    · refine ⟨before ++ after, columns, List.rel_append hbefore hafter, hcolumns, Predicate.join_congr ?_⟩
      rw [hdrop hdropped, List.append_assoc, List.cons_append, Predicate.kept_append, Predicate.kept_cons_none rfl,
        ← Predicate.kept_append, List.append_assoc]

theorem restrictedToKey_queryById (hq : s.queryById id = .ok q) (h : s.predicate q = .ok p) :
    s.RestrictedToKey s.query id p := by
  rw [queryById_eq_ok hq] at h
  have := restrictedToKey s.query.search [] rfl h
  rwa [List.append_nil] at this

/-- The query of a deletion without the condition on the primary key. -/
def deletedAmong (s : Selection) : Option Query → Query
  | some extra => s.query.merge extra
  | none => s.query

theorem restrictedToKey_deletionQuery {extra : Option Query} (hq : s.deletionQuery id extra = .ok q)
    (h : s.predicate q = .ok p) : s.RestrictedToKey (s.deletedAmong extra) id p := by
  obtain ⟨byId, hbyId, hq⟩ := bind_eq_ok.mp hq
  cases extra with
  | none =>
    cases hq
    exact restrictedToKey_queryById hbyId h
  | some extra =>
    cases hq
    rw [queryById_eq_ok hbyId] at h
    exact restrictedToKey s.query.search extra.search (by simp [Query.merge, Query.withSearch]) h

end Selection
end TableQuery
