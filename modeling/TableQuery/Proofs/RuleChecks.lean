import TableQuery.Proofs.Conjuncts
import TableQuery.Proofs.Rows

/-! Rules against rows. A rule is enforced on a record that holds something other than zero in each field of the
    rule, and its probe asks for these very values, apart from the row of a key and from rows that are stamped. -/

namespace TableQuery

namespace Writer
variable {w : Writer} {now : Instant} {record row : Row}

theorem sublist_withoutRelations (w : Writer) (row : Row) : (w.withoutRelations row).Sublist row := by
  unfold withoutRelations
  induction w.selection.table.relations generalizing row with
  | nil => exact List.Sublist.refl row
  | cons relation relations ih => exact (ih _).trans (List.filter_sublist (l := row))

theorem sublist_without (row : Row) (column : Option String) : (without row column).Sublist row := by
  cases column with
  | none => exact List.Sublist.refl row
  | some column => exact List.filter_sublist

/-- No column is written twice. -/
theorem nodup_updatedColumns (h : (record.map Prod.fst).Nodup)
    (hrow : w.updatedColumns now (.dict record) = .ok row) : (row.map Prod.fst).Nodup := by
  obtain ⟨given, hgiven, hrow⟩ := bind_eq_ok.mp hrow
  cases hgiven
  have hsublist : (w.columns.apply (without ((w.withoutRelations record).erase w.selection.table.primaryKey)
      w.selection.table.createdAt) []).Sublist record :=
    List.filter_sublist.trans ((sublist_without _ _).trans (List.filter_sublist.trans (w.sublist_withoutRelations record)))
  have hnodup := h.sublist (hsublist.map Prod.fst)
  dsimp only at hrow
  split at hrow
  · cases hrow
    exact hnodup
  · split at hrow
    · cases hrow
      exact Row.nodup_put hnodup
    · cases hrow
      exact hnodup

end Writer

/-! ### Rules -/

namespace UniqueRule

/-- What is held has something other than zero in every field of a rule. -/
def FilledBy (rule : UniqueRule) (held : String → Option Value) : Prop :=
  ∀ field ∈ rule.fields, ∃ v ∈ held field, v.isZero = false

/-- What is held has something, be it zero, in a field of a rule. -/
def MetBy (rule : UniqueRule) (held : String → Option Value) : Prop :=
  ∃ field ∈ rule.fields, (held field).isSome = true

instance (rule : UniqueRule) (held : String → Option Value) : Decidable (rule.FilledBy held) :=
  inferInstanceAs (Decidable (∀ field ∈ rule.fields, ∃ v ∈ held field, v.isZero = false))

instance (rule : UniqueRule) (held : String → Option Value) : Decidable (rule.MetBy held) :=
  inferInstanceAs (Decidable (∃ field ∈ rule.fields, (held field).isSome = true))

end UniqueRule

namespace Uniqueness
variable {u : Uniqueness} {record : Value} {rule : UniqueRule} {row : Row}

/-- The columns of a rule, with what a record holds in its fields. -/
def columnValues (u : Uniqueness) (record : Value) (rule : UniqueRule) : List (String × Value) :=
  rule.fields.map fun field => (u.columnOf record field, (u.lookup? record field).getD .null)

theorem pairs?_of_filled (h : rule.FilledBy (u.lookup? record)) :
    u.pairs? record rule = some (u.columnValues record rule) := by
  obtain ⟨fields⟩ := rule
  induction fields with
  | nil => rfl
  | cons field fields ih =>
    obtain ⟨⟨v, hv, hzero⟩, hrest⟩ := List.forall_mem_cons.mp h
    have hrest := ih hrest
    rw [Option.mem_def] at hv
    unfold pairs? columnValues at hrest ⊢
    rw [List.mapM_cons, hrest, hv]
    simp [hzero, hv]

theorem pairs?_of_not_filled (h : ¬ rule.FilledBy (u.lookup? record)) : u.pairs? record rule = none := by
  obtain ⟨fields⟩ := rule
  induction fields with
  | nil => exact absurd (fun field hfield => nomatch hfield) h
  | cons field fields ih =>
    unfold pairs?
    rw [List.mapM_cons]
    cases hv : u.lookup? record field with
    | none => rfl
    | some v =>
      cases hzero : v.isZero with
      | true => simp [hzero]
      | false =>
        have hrest : u.pairs? record ⟨fields⟩ = none :=
          ih fun hrest => h (List.forall_mem_cons.mpr ⟨⟨v, hv, hzero⟩, hrest⟩)
        unfold pairs? at hrest
        rw [hrest]
        simp [hzero]

/-- The rules that are enforced on a record are those that it fills, in their order. -/
theorem enforced_eq (u : Uniqueness) (record : Value) : u.enforced record =
    (u.rules.filter fun rule => rule.FilledBy (u.lookup? record)).map fun rule =>
      (rule, u.columnValues record rule) := by
  unfold enforced
  induction u.rules with
  | nil => rfl
  | cons rule rules ih =>
    by_cases h : rule.FilledBy (u.lookup? record)
    · rw [List.filterMap_cons_some (b := (rule, u.columnValues record rule)) (by rw [pairs?_of_filled h]; rfl), ih,
        List.filter_cons_of_pos (by simpa using h), List.map_cons]
    · rw [List.filterMap_cons_none (by rw [pairs?_of_not_filled h]; rfl), ih, List.filter_cons_of_neg (by simpa using h)]

theorem rules_touchedBy : (u.touchedBy record).rules = u.rules.filter fun rule => rule.MetBy (u.lookup? record) := by
  refine List.filter_congr fun rule _ => ?_
  rw [Bool.eq_iff_iff, List.any_eq_true, decide_eq_true_eq]
  rfl

/-! ### Dictionaries without a model -/

theorem lookup?_dict (h : u.model = none) (row : Row) : u.lookup? (.dict row) = row.get? := by
  funext field
  have hrow : Value.lookup? (.dict row) field = row.get? field := rfl
  unfold lookup?
  rw [hrow]
  cases row.get? field with
  | some v => rfl
  | none => simp [columnOf, Model.columnFor, h]

theorem columnValues_dict (h : u.model = none) (row : Row) (rule : UniqueRule) :
    u.columnValues (.dict row) rule = rule.fields.map fun field => (field, (row.get? field).getD .null) := by
  unfold columnValues
  rw [lookup?_dict h]
  simp [columnOf, Model.columnFor, h]

/-! ### Probes -/

/-- The parts of a probe that leaves out no rows but that of a key. -/
theorem kept_probe (u : Uniqueness) (pairs : List (String × Value)) (self : Value) :
    Predicate.kept ((pairs.map fun (column, v) => equals u.dialect column v) ++
      [u.otherThan self, outside .none, u.table.notDeleted u.dialect]) =
      (pairs.map fun (column, v) => equals u.dialect column v) ++
        ((if self.isNull then [] else [⟨u.dialect.quote u.table.primaryKey ++ " != ?", [self]⟩]) ++
          u.table.softDelete.toList.map fun column => ⟨u.dialect.quote column ++ " IS NULL", []⟩) := by
  have hequals : Predicate.kept (pairs.map fun (column, v) => equals u.dialect column v) =
      pairs.map fun (column, v) => equals u.dialect column v := by
    refine List.filter_eq_self.mpr fun p hp => ?_
    obtain ⟨pair, -, rfl⟩ := List.mem_map.mp hp
    simp [equals, Predicate.isNone]
  have hself : Predicate.kept [u.otherThan self] =
      if self.isNull then [] else [⟨u.dialect.quote u.table.primaryKey ++ " != ?", [self]⟩] := by
    unfold otherThan
    split
    · rfl
    · simp [Predicate.kept, Predicate.isNone]
  have hscope : Predicate.kept [u.table.notDeleted u.dialect] =
      u.table.softDelete.toList.map fun column => ⟨u.dialect.quote column ++ " IS NULL", []⟩ := by
    unfold Table.notDeleted
    cases u.table.softDelete with
    | none => rfl
    | some column => simp [Predicate.kept, Predicate.isNone]
  have hsplit : [u.otherThan self, outside .none, u.table.notDeleted u.dialect] =
      [u.otherThan self] ++ ([outside .none] ++ [u.table.notDeleted u.dialect]) := rfl
  have houtside : Predicate.kept [outside .none] = [] := rfl
  rw [hsplit, Predicate.kept_append, Predicate.kept_append, Predicate.kept_append, hequals, hself, houtside, hscope]
  rfl

/-- The tests of such a probe, as text. -/
def probeTests (u : Uniqueness) (columns : List String) (self : Value) : List String :=
  columns.map (fun column => u.dialect.quote column ++ " = ?") ++
    (if self.isNull then [] else [u.dialect.quote u.table.primaryKey ++ " != ?"]) ++
    u.table.softDelete.toList.map fun column => u.dialect.quote column ++ " IS NULL"

theorem probe_eq (u : Uniqueness) (pairs : List (String × Value)) (self : Value) : u.probe pairs self .none =
    ⟨"SELECT COUNT(*) FROM " ++ u.dialect.quote u.table.name ++ " WHERE " ++
      joinWith " AND " (u.probeTests (pairs.map Prod.fst) self),
     pairs.map Prod.snd ++ if self.isNull then [] else [self]⟩ := by
  have htexts : (Predicate.kept ((pairs.map fun (column, v) => equals u.dialect column v) ++
      [u.otherThan self, outside .none, u.table.notDeleted u.dialect])).map Predicate.sql =
      u.probeTests (pairs.map Prod.fst) self := by
    rw [kept_probe, probeTests, List.map_append, List.map_append, List.map_map, List.map_map, List.map_map,
      List.append_assoc]
    split <;> rfl
  have hvalues : (Predicate.kept ((pairs.map fun (column, v) => equals u.dialect column v) ++
      [u.otherThan self, outside .none, u.table.notDeleted u.dialect])).flatMap Predicate.params =
      pairs.map Prod.snd ++ if self.isNull then [] else [self] := by
    have hpairs : (pairs.map fun (column, v) => equals u.dialect column v).flatMap Predicate.params =
        pairs.map Prod.snd := by
      rw [List.flatMap_map, List.map_eq_flatMap]
      rfl
    rw [kept_probe, List.flatMap_append, List.flatMap_append, hpairs]
    split <;> simp [List.flatMap_map]
  have hjoin := Predicate.join_eq ((pairs.map fun (column, v) => equals u.dialect column v) ++
    [u.otherThan self, outside .none, u.table.notDeleted u.dialect]) "AND"
  rw [htexts, hvalues] at hjoin
  exact congrArg (fun restriction : Predicate => (⟨"SELECT COUNT(*) FROM " ++ u.dialect.quote u.table.name ++
    " WHERE " ++ restriction.sql, restriction.params⟩ : Statement)) hjoin

end Uniqueness
end TableQuery
