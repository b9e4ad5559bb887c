import TableQuery.Proofs.Outcomes
import TableQuery.Proofs.WireForms
import TableQuery.Query.Parameters

/-! How queries come about: conditions, groups and queries made from their parts. What making lets through is
    stated part by part, so that nothing else has to look into it. -/

namespace TableQuery

/-! ### Conditions -/

theorem Value.isBlankValue_iff {v : Value} : v.isBlankValue = true ↔ v = .null ∨ v = .text "" := by
  cases v <;> simp [isBlankValue]

namespace Condition

section
variable {field : String} {op : Operator} {v : Value}

theorem isScalar_of_checkMembers {xs : List Value} (h : checkMembers field op xs = .ok ()) :
    ∀ x ∈ xs, x.isScalar = true := by
  unfold checkMembers nonScalar? at h
  split at h
  · cases h
  · rename_i hnone
    simpa using hnone

/-- What a valid condition compares with, by the kind of its operator. -/
theorem checkValue_eq_ok (h : checkValue field op v = .ok ()) (hop : op.isNullCheck = false)
    (hv : v.isBlankValue = false) : (op.isMembership = true → ∃ xs, v = .tuple xs) ∧
      (op.isRange = true → ∃ low high, v = .tuple [low, high] ∧ low.isScalar = true ∧ high.isScalar = true) ∧
      (op.isMembership = false → op.isRange = false → v.isScalar = true) := by
  unfold checkValue at h
  simp only [hop, hv, Bool.or_self, Bool.false_eq_true, if_false] at h
  refine ⟨fun hmember => ?_, fun hrange => ?_, fun hmember hrange => ?_⟩
  · rw [if_pos hmember] at h
    cases v with
    | tuple xs => exact ⟨xs, rfl⟩
    | _ => cases h
  · have hmember : op.isMembership = false := by
      cases op <;> first | rfl | cases hrange
    simp only [hmember, hrange, Bool.false_eq_true, if_false, if_true] at h
    cases v with
    | tuple xs =>
      dsimp only at h
      split at h
      · rename_i hlength
        obtain ⟨low, high, rfl⟩ := List.length_eq_two.mp hlength
        have hscalar := isScalar_of_checkMembers h
        exact ⟨low, high, rfl, hscalar low (by simp), hscalar high (by simp)⟩
      · cases h
    | _ => cases h
  · simp only [hmember, hrange, Bool.false_eq_true, if_false] at h
    split at h
    · assumption
    · cases h

end

variable {field value operator raw : Value} {c : Condition}

theorem make_eq_ok : make field value operator = .ok c ↔ field = .text c.field ∧
    Operator.ofValue operator = .ok c.operator ∧ c.value = sealed value ∧
    checkValue c.field c.operator c.value = .ok () := by
  cases field with
  | text name =>
    simp only [make, bind_eq_ok]
    constructor
    · rintro ⟨op, hop, _, hcheck, h⟩
      cases h
      exact ⟨rfl, hop, rfl, hcheck⟩
    · rintro ⟨hname, hop, hvalue, hcheck⟩
      cases hname
      refine ⟨c.operator, hop, (), hvalue ▸ hcheck, ?_⟩
      rw [← hvalue]
  | _ => simp [make]

/-- A condition that can come about. -/
def Made (c : Condition) : Prop := ∃ field value operator, make field value operator = .ok c

theorem made_of_ofWire (h : ofWire raw = .ok c) : c.Made := by
  by_cases hsaid : ∃ field value op, Says raw field value op
  · obtain ⟨field, value, op, hsaid⟩ := hsaid
    exact ⟨field, value, op, ofWire_eq_make hsaid ▸ h⟩
  · rw [ofWire_eq_error fun field value op hop => hsaid ⟨field, value, op, hop⟩] at h
    cases h

end Condition

/-! ### Groups -/

namespace Group
variable {conditions : List Value} {connective raw : Value} {g : Group}

theorem make_eq_ok : make conditions connective = .ok g ↔
    conditions.mapM Condition.ofWire = .ok g.conditions ∧ Connective.ofValue connective = .ok g.connective := by
  simp only [make, bind_eq_ok]
  constructor
  · rintro ⟨conds, hconds, conn, hconn, h⟩
    cases h
    exact ⟨hconds, hconn⟩
  · rintro ⟨hconds, hconn⟩
    exact ⟨_, hconds, _, hconn, rfl⟩

/-- A group of conditions that can come about. -/
def Made (g : Group) : Prop := ∀ cond ∈ g.conditions, cond.Made

theorem made_of_make (h : make conditions connective = .ok g) : g.Made := by
  intro cond hcond
  obtain ⟨raw, -, hraw⟩ := forall₂_mem_right (mapM_eq_ok.mp (make_eq_ok.mp h).1) cond hcond
  exact Condition.made_of_ofWire hraw

theorem made_of_ofWire (h : ofWire raw = .ok g) : g.Made := by
  by_cases hsaid : ∃ items connective, Says raw items connective
  · obtain ⟨items, connective, hsaid⟩ := hsaid
    exact made_of_make (ofWire_eq_make hsaid ▸ h)
  · rcases ofWire_eq_error fun items connective hs => hsaid ⟨items, connective, hs⟩ with ⟨es, rfl, he⟩ | ⟨-, he⟩
    all_goals
      rw [he] at h
      cases h

end Group

/-! ### Queries -/

namespace Query
variable {q : Query} {p : Parts}

/-- A query that asks for no page, limit or size of zero. -/
structure Counted (q : Query) : Prop where
  limit : q.limit ≠ some 0
  page : q.page ≠ some 0
  pageSize : q.pageSize ≠ some 0

theorem make_eq_ok : make p = .ok q ↔
    itemsOf "filter" p.filter = .ok q.filter ∧
    (∃ groups, itemsOf "search" p.search = .ok groups ∧ groups.mapM Group.ofWire = .ok q.search) ∧
    (∃ orders, itemsOf "order_by" p.orderBy = .ok orders ∧ orders.mapM OrderBy.ofWire = .ok q.orderBy) ∧
    countOf "limit" p.limit = .ok q.limit ∧ countOf "page" p.page = .ok q.page ∧
    countOf "page_size" p.pageSize = .ok q.pageSize ∧
    itemsOf "required" p.required = .ok q.required ∧ itemsOf "include" p.relations = .ok q.relations := by
  simp only [make, bind_eq_ok]
  constructor
  · rintro ⟨_, hfilter, groups, hgroups, _, hsearch, orders, horders, _, horderBy, _, hlimit, _, hpage, _, hsize,
      _, hrequired, _, hrelations, h⟩
    cases h
    exact ⟨hfilter, ⟨groups, hgroups, hsearch⟩, ⟨orders, horders, horderBy⟩, hlimit, hpage, hsize, hrequired,
      hrelations⟩
  · rintro ⟨hfilter, ⟨groups, hgroups, hsearch⟩, ⟨orders, horders, horderBy⟩, hlimit, hpage, hsize, hrequired,
      hrelations⟩
    exact ⟨_, hfilter, groups, hgroups, _, hsearch, orders, horders, _, horderBy, _, hlimit, _, hpage, _, hsize,
      _, hrequired, _, hrelations, rfl⟩

theorem countOf_ne_zero {part : String} {v : Value} {n : Option Nat} (h : countOf part v = .ok n) : n ≠ some 0 := by
  unfold countOf at h
  split at h
  · cases h
    exact fun h => nomatch h
  · rename_i m
    cases h
    by_cases hm : m = 0
    · simp [hm]
    · simp [hm]
  · cases h

/-- A query as it is made counts from one. -/
theorem counted_of_make (h : make p = .ok q) : q.Counted := by
  obtain ⟨-, -, -, hlimit, hpage, hsize, -, -⟩ := make_eq_ok.mp h
  exact ⟨countOf_ne_zero hlimit, countOf_ne_zero hpage, countOf_ne_zero hsize⟩

theorem made_of_make (h : make p = .ok q) : ∀ g ∈ q.search, g.Made := by
  obtain ⟨-, ⟨groups, -, hsearch⟩, -⟩ := make_eq_ok.mp h
  intro g hg
  obtain ⟨raw, -, hraw⟩ := forall₂_mem_right (mapM_eq_ok.mp hsearch) g hg
  exact Group.made_of_ofWire hraw

theorem make_of_ofWire {d : Value} (h : ofWire d = .ok q) : ∃ p, Says d p ∧ make p = .ok q := by
  by_cases hsaid : ∃ p, Says d p
  · obtain ⟨p, hp⟩ := hsaid
    exact ⟨p, hp, ofWire_eq_make hp ▸ h⟩
  · rw [ofWire_eq_error fun p hp => hsaid ⟨p, hp⟩] at h
    cases h

theorem made_of_ofWire {d : Value} (h : ofWire d = .ok q) : ∀ g ∈ q.search, g.Made := by
  obtain ⟨p, -, hp⟩ := make_of_ofWire h
  exact made_of_make hp

theorem counted_of_ofWire {d : Value} (h : ofWire d = .ok q) : q.Counted := by
  obtain ⟨p, -, hp⟩ := make_of_ofWire h
  exact counted_of_make hp

/-! ### Parameters -/

variable {limit : Option Nat} {params : List (String × Value)}

theorem made_of_conditionOfItem {item : String} {cond : Condition} (h : conditionOfItem item = .ok cond) :
    cond.Made := by
  unfold conditionOfItem at h
  split at h
  · dsimp only at h
    split at h
    · exact ⟨_, _, _, h⟩
    · exact ⟨_, _, _, h⟩
  · cases h

/-- A count is given by the parameter of its name, which counts from zero. -/
def CountedBy (params : List (String × Value)) (part : String) (n : Option Nat) : Prop :=
  ∃ v, integerParameter params part = .ok v ∧ countOf part v = .ok n

theorem ofPlainParameters_eq_ok : ofPlainParameters params = .ok q ↔
    (∃ conds, (pieces '|' (parameter? params ["search"])).mapM conditionOfItem = .ok conds ∧
      q.search = if conds.isEmpty then [] else [⟨conds, .and⟩]) ∧
    (pieces '|' (parameter? params ["orderby", "order_by"])).mapM orderOfItem = .ok q.orderBy ∧
    CountedBy params "limit" q.limit ∧ CountedBy params "page" q.page ∧ CountedBy params "page_size" q.pageSize ∧
    q.filter = (pieces ',' (parameter? params ["filter"])).map .text ∧
    q.required = (pieces ',' (parameter? params ["required"])).map .text ∧
    q.relations = (pieces '|' (parameter? params ["include"])).map .text := by
  simp only [ofPlainParameters, bind_eq_ok, CountedBy]
  constructor
  · rintro ⟨conds, hconds, _, horderBy, limit, hlimit, page, hpage, size, hsize, _, hlimit', _, hpage', _, hsize', h⟩
    cases h
    exact ⟨⟨conds, hconds, rfl⟩, horderBy, ⟨limit, hlimit, hlimit'⟩, ⟨page, hpage, hpage'⟩, ⟨size, hsize, hsize'⟩,
      rfl, rfl, rfl⟩
  · rintro ⟨⟨conds, hconds, hsearch⟩, horderBy, ⟨limit, hlimit, hlimit'⟩, ⟨page, hpage, hpage'⟩,
      ⟨size, hsize, hsize'⟩, hfilter, hrequired, hrelations⟩
    refine ⟨conds, hconds, _, horderBy, limit, hlimit, page, hpage, size, hsize, _, hlimit', _, hpage', _, hsize', ?_⟩
    rw [← hsearch, ← hfilter, ← hrequired, ← hrelations]

theorem ofParametersWithin_eq_ok (h : ofParametersWithin limit params = .ok q) :
    ofPlainParameters params = .ok q ∨ ∃ d, ofWire d = .ok q := by
  unfold ofParametersWithin at h
  split at h
  · exact Or.inl (mapError_eq_ok.mp h)
  · split at h
    · exact Or.inr ⟨_, mapError_eq_ok.mp h⟩
    · cases h
    · cases h

theorem made_of_ofParametersWithin (h : ofParametersWithin limit params = .ok q) : ∀ g ∈ q.search, g.Made := by
  rcases ofParametersWithin_eq_ok h with h | ⟨d, hd⟩
  · obtain ⟨⟨conds, hconds, hsearch⟩, -⟩ := ofPlainParameters_eq_ok.mp h
    intro g hg cond hcond
    rw [hsearch] at hg
    split at hg
    · cases hg
    · obtain rfl := List.mem_singleton.mp hg
      obtain ⟨item, -, hitem⟩ := forall₂_mem_right (mapM_eq_ok.mp hconds) cond hcond
      exact made_of_conditionOfItem hitem
  · exact made_of_ofWire hd

theorem counted_of_ofParametersWithin (h : ofParametersWithin limit params = .ok q) : q.Counted := by
  rcases ofParametersWithin_eq_ok h with h | ⟨d, hd⟩
  · obtain ⟨-, -, ⟨_, -, hlimit⟩, ⟨_, -, hpage⟩, ⟨_, -, hsize⟩, -⟩ := ofPlainParameters_eq_ok.mp h
    exact ⟨countOf_ne_zero hlimit, countOf_ne_zero hpage, countOf_ne_zero hsize⟩
  · exact counted_of_ofWire hd

end Query
end TableQuery
