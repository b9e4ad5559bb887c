import TableQuery.Proofs.RuleChecks

/-! The columns that a probe looks at, and the values that it looks for. A name of a rule is brought to a column by
    the model, but a record is asked for the name first and only then for the column. So a value may be that of another
    column: of the one that is called like the field. -/

namespace TableQuery

/-! ### Names that are taken twice -/

namespace Model

/-- A name is that of a field which stands in another column, and also that of a column, which then belongs to
    another field. -/
def IsTakenTwice (m : Model) (name : String) : Prop :=
  columnFor (some m) name ≠ name ∧ name ∈ m.columns.map Prod.snd

/-- All keys of a row are columns of a model. -/
def Covers (m : Model) (row : Row) : Prop := ∀ key ∈ row.columns, key ∈ m.columns.map Prod.snd

instance (m : Model) (name : String) : Decidable (m.IsTakenTwice name) := inferInstanceAs (Decidable (_ ∧ _))

instance (m : Model) (row : Row) : Decidable (m.Covers row) :=
  inferInstanceAs (Decidable (∀ key ∈ row.columns, key ∈ m.columns.map Prod.snd))

/-- Of a row by columns nothing is held under a name of another column, unless the name is taken twice. -/
theorem Covers.get?_eq_none {m : Model} {row : Row} {name : String} (h : m.Covers row) (honce : ¬ m.IsTakenTwice name)
    (hname : columnFor (some m) name ≠ name) : row.get? name = none :=
  Row.get?_eq_none fun hmem => honce ⟨hname, h name hmem⟩

end Model

/-! ### Pairs -/

namespace Uniqueness
variable {u : Uniqueness} {row : Row} {rule : UniqueRule} {name : String} {pair : String × Value}

/-- What a dictionary is asked for under a name of a rule: the column for this name, and a value other than zero that is
    held under the name itself, or else in the column. -/
structure AskedFor (u : Uniqueness) (row : Row) (name : String) (pair : String × Value) : Prop where
  column : pair.1 = Model.columnFor u.model name
  value : (row.get? name).or (row.get? pair.1) = some pair.2
  nonzero : pair.2.isZero = false

theorem lookup?_dict_eq (u : Uniqueness) (row : Row) (name : String) :
    u.lookup? (.dict row) name = (row.get? name).or (row.get? (Model.columnFor u.model name)) := by
  have hrow : Value.lookup? (.dict row) = row.get? := rfl
  have hcolumn : u.columnOf (.dict row) name = Model.columnFor u.model name := rfl
  unfold lookup?
  rw [hrow, hcolumn]
  cases hname : row.get? name with
  | some v => rfl
  | none =>
    -- A name that is its own column is not looked up again, which makes no difference.
    by_cases hsame : Model.columnFor u.model name = name
    · simp [hsame, hname]
    · simp [hsame]

/-- An enforced rule is one of the rules, and there is one pair for each of its names, in their order. -/
theorem askedFor_of_enforced {pairs : List (String × Value)} (h : (rule, pairs) ∈ u.enforced (.dict row)) :
    rule ∈ u.rules ∧ List.Forall₂ (u.AskedFor row) rule.fields pairs := by
  rw [enforced_eq] at h
  obtain ⟨rule', hrule, heq⟩ := List.mem_map.mp h
  obtain ⟨hmem, hfilled⟩ := List.mem_filter.mp hrule
  cases heq
  refine ⟨hmem, List.forall₂_map_right_iff.mpr (List.forall₂_same.mpr fun name hname => ?_)⟩
  obtain ⟨v, hv, hzero⟩ := of_decide_eq_true hfilled name hname
  have hheld : u.lookup? (.dict row) name = some v := hv
  rw [hheld, Option.getD_some]
  exact ⟨rfl, (u.lookup?_dict_eq row name).symm.trans hheld, hzero⟩

/-- Where the record holds something in the column, this is what is asked for unless something else is held under the
    name of the rule. -/
theorem AskedFor.eq_iff (h : u.AskedFor row name pair) {own : Value} (hown : row.get? pair.1 = some own) :
    pair.2 = own ↔ ∀ v, row.get? name = some v → v = own := by
  have hvalue := h.value
  rw [hown] at hvalue
  cases hname : row.get? name with
  | none =>
    rw [hname, Option.none_or, Option.some.injEq] at hvalue
    exact iff_of_true hvalue.symm fun v hv => nomatch hv
  | some held =>
    rw [hname, Option.some_or, Option.some.injEq] at hvalue
    rw [← hvalue]
    exact ⟨fun hsame v hv => (Option.some.inj hv).symm.trans hsame, fun hall => hall held rfl⟩

/-- A name that is its own column is compared with what the record holds in it. -/
theorem AskedFor.own_of_column_eq (h : u.AskedFor row name pair) (hcolumn : Model.columnFor u.model name = name) :
    row.get? pair.1 = some pair.2 := by
  have hvalue := h.value
  rw [h.column, hcolumn, Option.or_self] at hvalue
  rw [h.column, hcolumn]
  exact hvalue

/-- In a row by the columns of a model, a name that is not taken twice is compared with the value of its column. -/
theorem AskedFor.own_of_covers {m : Model} (h : u.AskedFor row name pair) (hmodel : u.model = some m)
    (hcovers : m.Covers row) (honce : ¬ m.IsTakenTwice name) : row.get? pair.1 = some pair.2 := by
  by_cases hcolumn : Model.columnFor u.model name = name
  · exact h.own_of_column_eq hcolumn
  · rw [hmodel] at hcolumn
    have hvalue := h.value
    rw [hcovers.get?_eq_none honce hcolumn, Option.none_or] at hvalue
    exact hvalue

/-- For each name of an enforced rule the probe compares the column of this name with a value of the record. That is the
    record's own value of the column exactly if the record holds nothing else under the name itself. So it always is
    where there is no model, and for rows by the columns of a model where no name of the rule is at once that of a
    field and that of another field's column. -/
theorem enforced_asks (u : Uniqueness) (row : Row) {rule : UniqueRule} {pairs : List (String × Value)}
    (h : (rule, pairs) ∈ u.enforced (.dict row)) :
    rule ∈ u.rules ∧
      List.Forall₂ (fun name pair => u.AskedFor row name pair ∧
        ∀ own, row.get? pair.1 = some own → (pair.2 = own ↔ ∀ v, row.get? name = some v → v = own)) rule.fields pairs ∧
      (u.model = none → ∀ pair ∈ pairs, row.get? pair.1 = some pair.2) ∧
      ∀ m, u.model = some m → m.Covers row → (∀ name ∈ rule.fields, ¬ m.IsTakenTwice name) →
        ∀ pair ∈ pairs, row.get? pair.1 = some pair.2 := by
  obtain ⟨hrule, hasked⟩ := askedFor_of_enforced h
  refine ⟨hrule, hasked.imp fun name pair hpair => ⟨hpair, fun own hown => hpair.eq_iff hown⟩, fun hmodel pair hpair => ?_,
    fun m hmodel hcovers honce pair hpair => ?_⟩
  · obtain ⟨name, -, hname⟩ := forall₂_mem_right hasked pair hpair
    exact hname.own_of_column_eq (by rw [hmodel]; rfl)
  · obtain ⟨name, hmem, hname⟩ := forall₂_mem_right hasked pair hpair
    exact hname.own_of_covers hmodel hcovers (honce name hmem)

/-- The field `a` stands in the column `b`, and the field `b` in the column `c`. A rule over `a` looks for the value of
    `b` in `b`; a rule over `b` looks for this value in `c`, though the record holds another one there. -/
theorem enforced_asks_shifted :
    let model : Model := ⟨"M", [(⟨"a", some "b", none⟩, .int), (⟨"b", some "c", none⟩, .int)]⟩
    let things : Table := ⟨"things", "id", false, none, none, none, []⟩
    let u : Uniqueness := ⟨.sqlite, things, some model, [⟨["a"]⟩, ⟨["b"]⟩]⟩
    let row : Row := [("b", .int 1), ("c", .int 2)]
    (u.enforced (.dict row) = [(⟨["a"]⟩, [("b", .int 1)]), (⟨["b"]⟩, [("c", .int 1)])] ∧
      model.Covers row ∧ ¬ model.IsTakenTwice "a") ∧
      row.get? "b" = some (.int 1) ∧
      u.AskedFor row "b" ("c", .int 1) ∧ row.get? "c" = some (.int 2) := by
  intro model things u row
  have henforced : u.enforced (.dict row) = [(⟨["a"]⟩, [("b", .int 1)]), (⟨["b"]⟩, [("c", .int 1)])] := rfl
  have hcovers : model.Covers row := by decide
  have honce : ¬ model.IsTakenTwice "a" := by decide
  have ha : (⟨["a"]⟩, [("b", .int 1)]) ∈ u.enforced (.dict row) := by simp [henforced]
  have hb : (⟨["b"]⟩, [("c", .int 1)]) ∈ u.enforced (.dict row) := by simp [henforced]
  refine ⟨⟨henforced, hcovers, honce⟩, ?_, ?_, rfl⟩
  · exact (enforced_asks u row ha).2.2.2 model rfl hcovers (by simpa using honce) ("b", .int 1) List.mem_cons_self
  · exact (List.forall₂_cons.mp (enforced_asks u row hb).2.1).1.1

end Uniqueness
end TableQuery
