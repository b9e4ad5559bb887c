import TableQuery.Proofs.MadeQueries
import TableQuery.Proofs.Operators

/-! Writing queries and reading them back. Wire forms are read in many spellings and written in one, which reads back
    as the query that was written. -/

namespace TableQuery

/-! ### Conditions, groups and orders -/

theorem Condition.sealed_unsealed_sealed (v : Value) : sealed (unsealed (sealed v)) = sealed v := by
  cases v <;> rfl

theorem Condition.ofWire_toWire {c : Condition} (h : c.Made) : ofWire c.toWire = .ok c := by
  obtain ⟨field, value, operator, h⟩ := h
  obtain ⟨-, -, hvalue, hcheck⟩ := make_eq_ok.mp h
  rw [ofWire_eq_make (.spelled rfl), make_eq_ok]
  refine ⟨rfl, Operator.ofValue_spelling c.operator, ?_, hcheck⟩
  rw [hvalue, sealed_unsealed_sealed]

theorem Group.ofWire_toWire {g : Group} (h : g.Made) : ofWire g.toWire = .ok g := by
  have hconditions : (g.conditions.map Condition.toWire).mapM Condition.ofWire = .ok g.conditions :=
    mapM_map_eq_ok fun cond hcond => Condition.ofWire_toWire (h cond hcond)
  have hconnective : Row.getD [("conditions", .list (g.conditions.map Condition.toWire)),
      ("operator", .text g.connective.spelling)] "operator" = .text g.connective.spelling := rfl
  rw [toWire, ofWire_eq_make (.entries (.inr rfl)), hconnective, make_eq_ok]
  simpa using hconditions

theorem OrderBy.ofWire_toWire (o : OrderBy) : ofWire o.toWire = .ok o := by
  rw [ofWire_eq_map (.pair rfl)]
  simp [Except.map]

/-! ### Queries -/

namespace Query
variable {q : Query}

/-- Queries that can come about: made from parts, read from a wire form or from parameters, or put together from groups
    and orders that there are already. -/
inductive Produced : Query → Prop
  | made {p : Parts} {q : Query} : make p = .ok q → Produced q
  | read {d : Value} {q : Query} : ofWire d = .ok q → Produced q
  | asked {digits : Option Nat} {params : List (String × Value)} {q : Query} :
    ofParametersWithin digits params = .ok q → Produced q
  | assembled {limit page pageSize : Value} {q : Query} : (∀ g ∈ q.search, g.Made) → countOf "limit" limit = .ok q.limit →
    countOf "page" page = .ok q.page → countOf "page_size" pageSize = .ok q.pageSize → Produced q

theorem Produced.made_counted (h : q.Produced) : (∀ g ∈ q.search, g.Made) ∧ q.Counted := by
  cases h with
  | made h => exact ⟨made_of_make h, counted_of_make h⟩
  | read h => exact ⟨made_of_ofWire h, counted_of_ofWire h⟩
  | asked h => exact ⟨made_of_ofParametersWithin h, counted_of_ofParametersWithin h⟩
  | assembled hgroups hlimit hpage hsize =>
    exact ⟨hgroups, countOf_ne_zero hlimit, countOf_ne_zero hpage, countOf_ne_zero hsize⟩

/-- The value that stands for a count. -/
def countValue (n : Option Nat) : Value := (n.map fun n => .int n).getD .null

theorem countOf_countValue {part : String} {n : Option Nat} (h : n ≠ some 0) : countOf part (countValue n) = .ok n := by
  cases n with
  | none => rfl
  | some n =>
    have hn : n ≠ 0 := by
      rintro rfl
      exact h rfl
    show Except.ok (if n = 0 then none else some n) = _
    rw [if_neg hn]

/-- The parts that are written. -/
def writtenParts (q : Query) : Parts where
  filter := .list q.filter
  search := .list (q.search.map Group.toWire)
  orderBy := .list (q.orderBy.map OrderBy.toWire)
  limit := countValue q.limit
  page := countValue q.page
  pageSize := countValue q.pageSize
  required := .list q.required
  relations := .list q.relations

theorem ofWire_toWire_eq_make (q : Query) : ofWire q.toWire = make q.writtenParts := by
  rw [toWire]
  refine (ofWire_eq_make (.entries (.inl ⟨?_, rfl⟩))).trans ?_
  · intro h
    cases h
  -- Of the counts only those that are set are written.
  · unfold writtenParts Parts.ofEntries
    cases q.limit <;> cases q.page <;> cases q.pageSize <;> rfl

theorem ofWire_toWire (hgroups : ∀ g ∈ q.search, g.Made) (hcounts : q.Counted) : ofWire q.toWire = .ok q := by
  rw [ofWire_toWire_eq_make, make_eq_ok]
  refine ⟨rfl, ⟨_, rfl, ?_⟩, ⟨_, rfl, ?_⟩, ?_, ?_, ?_, rfl, rfl⟩
  · exact mapM_map_eq_ok fun g hg => Group.ofWire_toWire (hgroups g hg)
  · exact mapM_map_eq_ok fun o _ => o.ofWire_toWire
  · exact countOf_countValue hcounts.limit
  · exact countOf_countValue hcounts.page
  · exact countOf_countValue hcounts.pageSize

/-- A query that can come about is read back as it was written, and so what is written for a wire form that is read
    says the same as that wire form. -/
theorem wire_form_round_trips : (∀ q : Query, q.Produced → ofWire q.toWire = .ok q) ∧
    ∀ d : Value, (ofWire d >>= fun q => ofWire q.toWire) = ofWire d := by
  have hread (q : Query) (h : q.Produced) : ofWire q.toWire = .ok q := by
    obtain ⟨hgroups, hcounts⟩ := h.made_counted
    exact ofWire_toWire hgroups hcounts
  refine ⟨hread, fun d => ?_⟩
  cases hd : ofWire d with
  | ok q => exact hread q (.read hd)
  | error e => rfl

/-- A bare list of conditions, one of them an object and one with a sequence, the other name of the order, and a count
    of zero. -/
theorem wire_form_round_trips_bare :
    let gone : Value := .dict [("field", .text "gone"), ("value", .dict [("a", .int 1)]), ("operator", .text "is_null")]
    let d : Value := .dict [("search", .list [.list [.list [.text "id", .list [.int 1, .int 2], .text "Not_In"], gone]]),
      ("orderby", .list [.text "name"]), ("limit", .int 0), ("page", .int 3)]
    let q : Query := { empty with
      search := [⟨[⟨"id", .tuple [.int 1, .int 2], .notIn⟩, ⟨"gone", .dict [("a", .int 1)], .isNull⟩], .and⟩]
      orderBy := [⟨.text "name", .asc⟩]
      page := some 3 }
    ofWire d = .ok q ∧ q.Produced ∧ ofWire q.toWire = .ok q := by
  intro gone d q
  have hread : ofWire d = .ok q := rfl
  exact ⟨hread, .read hread, wire_form_round_trips.1 q (.read hread)⟩

end Query
end TableQuery
