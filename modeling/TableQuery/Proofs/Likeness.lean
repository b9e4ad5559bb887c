import TableQuery.Proofs.Abreast
import TableQuery.Proofs.Conjunction
import TableQuery.Proofs.MadeQueries
import TableQuery.Selection.Deletion

/-! Queries that look alike. They differ in the values that their conditions compare with, which are empty in both or in
    neither, and single values or sequences of one length. What is compiled from them has the same text, and parameters
    that take the same places. -/

namespace TableQuery

/-- How many placeholders a parameter is expanded to, if it is expanded. -/
def Value.places : Value → Option Nat
  | .members xs => some xs.length
  | _ => none

/-- What is left of a predicate without its values: the text, and the places of the parameters. -/
def Predicate.outline (p : Predicate) : String × List (Option Nat) := (p.sql, p.params.map Value.places)

/-- Two predicates with the same text, and parameters that take the same places. -/
def Predicate.Alike (p p' : Predicate) : Prop := p.outline = p'.outline

def Statement.outline (st : Statement) : String × List (Option Nat) := (st.sql, st.params.map Value.places)

/-- Two values that are both empty or both not, and both single or both sequences of the same length. -/
structure Value.Alike (v v' : Value) : Prop where
  blank : v.isBlankValue = v'.isBlankValue
  shape : (v.isScalar = true ∧ v'.isScalar = true) ∨
    ∃ xs xs', v.items? = some xs ∧ v'.items? = some xs' ∧ xs.length = xs'.length

/-- Two valid conditions that differ in their values only. -/
structure Condition.Alike (cond cond' : Condition) : Prop where
  field : cond.field = cond'.field
  operator : cond.operator = cond'.operator
  value : cond.value.Alike cond'.value
  valid : checkValue cond.field cond.operator cond.value = .ok ()
  valid' : checkValue cond'.field cond'.operator cond'.value = .ok ()

structure Group.Alike (g g' : Group) : Prop where
  connective : g.connective = g'.connective
  conditions : List.Forall₂ Condition.Alike g.conditions g'.conditions

inductive Query.Alike (q : Query) : Query → Prop
  | search {search' : List Group} : List.Forall₂ Group.Alike q.search search' → Alike q { q with search := search' }

/-- Two selections whose queries and conditions in statement text differ in values only. -/
inductive Selection.Alike (s : Selection) : Selection → Prop
  | mk {q' : Query} {raw' : List Predicate} : s.query.Alike q' →
    s.raw.map Predicate.outline = raw'.map Predicate.outline → Alike s { s with query := q', raw := raw' }

/-! ### Values -/

namespace Value
variable {v v' : Value}

theorem places_of_isScalar (h : v.isScalar = true) : v.places = none := by
  cases v <;> first | rfl | cases h

theorem places_of_isBlankValue (h : v.isBlankValue = true) : v.places = none := by
  rcases isBlankValue_iff.mp h with rfl | rfl <;> rfl

theorem Alike.length_tuple {xs xs' : List Value} (h : (tuple xs).Alike (tuple xs')) : xs.length = xs'.length := by
  rcases h.shape with ⟨hscalar, -⟩ | ⟨ys, ys', hys, hys', hlength⟩
  · cases hscalar
  · cases hys
    cases hys'
    exact hlength

/-- An argument that is no sequence to expand takes one place. -/
theorem map_places_of_plain {args args' : List Value} (hlength : args.length = args'.length)
    (h : ∀ v ∈ args ++ args', v.places = none) : args.map places = args'.map places := by
  obtain ⟨hargs, hargs'⟩ := List.forall_mem_append.mp h
  rw [List.map_congr_left hargs, List.map_congr_left hargs', List.map_const', List.map_const', hlength]

end Value

/-! ### Conditions -/

namespace Condition
variable {field : String} {op : Operator} {v v' : Value} {cond cond' : Condition}

/-- Values that are compared as they are take one place each. -/
theorem Alike.places (h : cond.Alike cond') (hop : cond.operator.isNullCheck = false)
    (hmember : cond.operator.isMembership = false) (hrange : cond.operator.isRange = false) :
    cond.value.places = none ∧ cond'.value.places = none := by
  have hplain {c : Condition} (hoperator : cond.operator = c.operator)
      (hc : checkValue c.field c.operator c.value = .ok ()) : c.value.places = none := by
    cases hblank : c.value.isBlankValue with
    | true => exact Value.places_of_isBlankValue hblank
    | false =>
      rw [hoperator] at hop hmember hrange
      exact Value.places_of_isScalar ((checkValue_eq_ok hc hop hblank).2.2 hmember hrange)
  exact ⟨hplain rfl h.valid, hplain h.operator h.valid'⟩

/-- What is looked for by membership: nothing on both sides, or sequences of the same length. -/
theorem Alike.members (h : cond.Alike cond') (hmember : cond.operator.isMembership = true) :
    (cond.value.isBlankValue = true ∧ cond'.value.isBlankValue = true) ∨
      ∃ xs xs', cond.value = .tuple xs ∧ cond'.value = .tuple xs' ∧ xs.length = xs'.length := by
  have hop : cond.operator.isNullCheck = false := by
    revert hmember
    cases cond.operator <;> simp [Operator.isMembership, Operator.isNullCheck]
  cases hblank : cond.value.isBlankValue with
  | true => exact .inl ⟨rfl, h.value.blank ▸ hblank⟩
  | false =>
    have hblank' : cond'.value.isBlankValue = false := h.value.blank ▸ hblank
    obtain ⟨xs, hxs⟩ := (checkValue_eq_ok h.valid hop hblank).1 hmember
    rw [h.operator] at hop hmember
    obtain ⟨xs', hxs'⟩ := (checkValue_eq_ok h.valid' hop hblank').1 hmember
    have hlength := h.value
    rw [hxs, hxs'] at hlength
    exact .inr ⟨xs, xs', hxs, hxs', hlength.length_tuple⟩

/-- The ends of ranges take one place each, or there are none on both sides. -/
theorem Alike.rangeEnds (h : cond.Alike cond') (hrange : cond.operator.isRange = true) :
    Paired (fun a b => [a.1, a.2].map Value.places = [b.1, b.2].map Value.places)
      (Compiler.rangeEnds cond.value) (Compiler.rangeEnds cond'.value) := by
  have hop : cond.operator.isNullCheck = false := by
    revert hrange
    cases cond.operator <;> simp [Operator.isRange, Operator.isNullCheck]
  have hnone {v : Value} (hv : v.isBlankValue = true) : ∃ f, Compiler.rangeEnds v = .error f := by
    rcases Value.isBlankValue_iff.mp hv with rfl | rfl
    · exact ⟨_, rfl⟩
    · exact ⟨_, rfl⟩
  cases hblank : cond.value.isBlankValue with
  | true =>
    obtain ⟨f, hf⟩ := hnone hblank
    obtain ⟨f', hf'⟩ := hnone (h.value.blank ▸ hblank)
    rw [hf, hf']
    exact .error f f'
  | false =>
    have hblank' : cond'.value.isBlankValue = false := h.value.blank ▸ hblank
    obtain ⟨low, high, hv, hlow, hhigh⟩ := (checkValue_eq_ok h.valid hop hblank).2.1 hrange
    rw [h.operator] at hop hrange
    obtain ⟨low', high', hv', hlow', hhigh'⟩ := (checkValue_eq_ok h.valid' hop hblank').2.1 hrange
    rw [hv, hv']
    refine .ok ?_
    simp only [List.map_cons, List.map_nil, Value.places_of_isScalar, hlow, hhigh, hlow', hhigh']

theorem sealed_of_isScalar (h : v.isScalar = true) : sealed v = v := by
  cases v <;> first | rfl | cases h

theorem sealed_alike (h : v.Alike v') : (sealed v).Alike (sealed v') := by
  rcases h.shape with ⟨hv, hv'⟩ | ⟨xs, xs', hxs, hxs', hlength⟩
  · rw [sealed_of_isScalar hv, sealed_of_isScalar hv']
    exact h
  · have hsealed : sealed v = .tuple xs := by simp [sealed, hxs]
    have hsealed' : sealed v' = .tuple xs' := by simp [sealed, hxs']
    rw [hsealed, hsealed']
    exact ⟨rfl, .inr ⟨xs, xs', rfl, rfl, hlength⟩⟩

/-- Conditions that are made for one field and operator from values that are alike are alike. -/
theorem alike_of_make {name operator : Value} (hv : v.Alike v') (h : make name v operator = .ok cond)
    (h' : make name v' operator = .ok cond') : cond.Alike cond' := by
  unfold make at h h'
  split at h
  · obtain ⟨op, hop, h⟩ := bind_eq_ok.mp h
    obtain ⟨op', hop', h'⟩ := bind_eq_ok.mp h'
    obtain rfl : op = op' := Except.ok.inj (hop.symm.trans hop')
    obtain ⟨_, hvalid, h⟩ := bind_eq_ok.mp h
    obtain ⟨_, hvalid', h'⟩ := bind_eq_ok.mp h'
    cases h
    cases h'
    exact ⟨rfl, rfl, sealed_alike hv, hvalid, hvalid'⟩
  · cases h

end Condition

namespace Compiler
variable {c : Compiler} {cond cond' : Condition} {g g' : Group}

theorem isSkipped_alike (h : cond.Alike cond') : c.isSkipped cond = c.isSkipped cond' := by
  unfold isSkipped
  rw [h.operator, h.field, h.value.blank]

/-- The tests of conditions that are alike have the same outline. -/
theorem test_alike (h : cond.Alike cond') :
    Paired Predicate.Alike (c.test cond) (c.test cond') := by
  obtain ⟨field, v, op⟩ := cond
  obtain ⟨field', v', op'⟩ := cond'
  obtain rfl : field = field' := h.field
  obtain rfl : op = op' := h.operator
  cases op
  case isNull | isNotNull => exact .ok rfl
  case isIn | notIn =>
    rcases h.members rfl with ⟨hv, hv'⟩ | ⟨xs, xs', hxs, hxs', hlength⟩
    · obtain rfl | rfl := Value.isBlankValue_iff.mp hv <;> obtain rfl | rfl := Value.isBlankValue_iff.mp hv' <;>
        exact .ok rfl
    · obtain rfl : v = .tuple xs := hxs
      obtain rfl : v' = .tuple xs' := hxs'
      cases xs with
      | nil =>
        obtain rfl := List.length_eq_zero_iff.mp hlength.symm
        exact .ok rfl
      | cons x xs =>
        cases xs' with
        | nil => cases hlength
        | cons x' xs' => exact .ok (congrArg (fun n => (_, [some n])) hlength)
  case between | notBetween =>
    exact (h.rangeEnds rfl).bind fun ends ends' heq => .ok (congrArg (Prod.mk _) heq)
  case like | notLike | leftLike | rightLike => exact .ok rfl
  -- The other operators compare with a single value as it is.
  all_goals
    obtain ⟨hv, hv'⟩ := h.places rfl rfl rfl
    refine .ok (congrArg (Prod.mk _) ?_)
    show [v.places] = [v'.places]
    exact congrArg (fun x => [x]) (hv.trans hv'.symm)

end Compiler

/-! ### Predicates -/

namespace Predicate
variable {p p' : Predicate} {ps ps' : List Predicate}

theorem alike_iff : p.Alike p' ↔ p.sql = p'.sql ∧ p.params.map Value.places = p'.params.map Value.places := by
  simp [Alike, outline]

theorem map_outline_kept : ∀ ps : List Predicate,
    (kept ps).map outline = (ps.map outline).filter fun o => !o.1.isEmpty
  | [] => rfl
  | p :: ps => by
    have ih := map_outline_kept ps
    by_cases h : p.sql = ""
    · rw [kept_cons_none h, ih, List.map_cons, List.filter_cons_of_neg (by simp [outline, h])]
    · rw [kept_cons_some h, List.map_cons, ih, List.map_cons, List.filter_cons_of_pos (by simp [outline, h])]

/-- Joining looks at the texts only. -/
theorem alike_join (h : ps.map outline = ps'.map outline) (connective : String) :
    (join ps connective).Alike (join ps' connective) := by
  have hkept : (kept ps).map outline = (kept ps').map outline := by
    rw [map_outline_kept, map_outline_kept, h]
  have hsql := congrArg (List.map Prod.fst) hkept
  have hparams := congrArg (List.flatMap Prod.snd) hkept
  rw [List.map_map, List.map_map] at hsql
  rw [List.flatMap_map, List.flatMap_map] at hparams
  refine alike_iff.mpr ⟨?_, ?_⟩
  · rw [sql_join, sql_join]
    exact congrArg _ hsql
  · rw [params_join, params_join, List.map_flatMap, List.map_flatMap]
    exact hparams

theorem alike_all (h : ps.map outline = ps'.map outline) : (all ps).Alike (all ps') := alike_join h "AND"

theorem Alike.grouped (h : p.Alike p') : p.grouped.Alike p'.grouped := by
  obtain ⟨hsql, hparams⟩ := alike_iff.mp h
  unfold Predicate.grouped isNone
  rw [hsql]
  split
  · exact h
  · exact alike_iff.mpr ⟨rfl, hparams⟩

/-- Conditions in statement text with the same text and arguments that take the same places. -/
theorem alike_raw (sql : String) {args args' : List Value} (h : args.map Value.places = args'.map Value.places) :
    (raw sql args).Alike (raw sql args') := by
  have htext : Alike ⟨trimText sql, args⟩ ⟨trimText sql, args'⟩ := alike_iff.mpr ⟨rfl, h⟩
  exact htext.grouped

theorem Alike.whereClause (h : p.Alike p') : p.whereClause = p'.whereClause := by
  unfold Predicate.whereClause isNone
  rw [(alike_iff.mp h).1]

theorem map_outline_of_forall₂ (h : List.Forall₂ Alike ps ps') : ps.map outline = ps'.map outline :=
  map_eq_of_forall₂ h fun _ _ h => h

end Predicate

/-! ### Queries -/

namespace Compiler
variable {c : Compiler} {cond cond' : Condition} {g g' : Group} {q q' : Query}

theorem condition_alike (h : cond.Alike cond') : Paired Predicate.Alike (c.condition cond) (c.condition cond') := by
  unfold condition
  rw [h.field, isSkipped_alike h]
  refine (Paired.refl _).bind fun _ _ _ => ?_
  split
  · exact .ok rfl
  · exact test_alike h

theorem group_alike (h : g.Alike g') : Paired Predicate.Alike (c.group g) (c.group g') := by
  have htests : Paired (List.Forall₂ Predicate.Alike) (g.conditions.mapM c.condition)
      (g'.conditions.mapM c.condition) :=
    Paired.mapM (f := c.condition) (g := c.condition) (fun _ _ => condition_alike) h.conditions
  unfold group
  rw [h.connective]
  refine htests.bind fun tests tests' halike => .ok (Predicate.Alike.grouped ?_)
  exact Predicate.alike_join (Predicate.map_outline_of_forall₂ halike) _

theorem search_alike {gs gs' : List Group} (h : List.Forall₂ Group.Alike gs gs') :
    Paired Predicate.Alike (c.search gs) (c.search gs') := by
  have hparts : Paired (List.Forall₂ Predicate.Alike) (gs.mapM c.group) (gs'.mapM c.group) :=
    Paired.mapM (f := c.group) (g := c.group) (fun _ _ => group_alike) h
  exact hparts.bind fun parts parts' halike => .ok (Predicate.alike_all (Predicate.map_outline_of_forall₂ halike))

theorem searchFields_alike (h : q.Alike q') : q.searchFields = q'.searchFields := by
  cases h with
  | search hgroups =>
    have hfields (g g' : Group) (hg : g.Alike g') : g.fields = g'.fields :=
      map_eq_of_forall₂ hg.conditions fun _ _ hcond => hcond.field
    unfold Query.searchFields
    rw [List.flatMap_def, List.flatMap_def, map_eq_of_forall₂ hgroups hfields]

theorem checkRequired_alike (h : q.Alike q') : checkRequired q = checkRequired q' := by
  unfold checkRequired
  rw [searchFields_alike h]
  cases h
  rfl

theorem validate_alike (h : q.Alike q') : validate q = validate q' := by
  unfold validate
  rw [checkRequired_alike h, searchFields_alike h]
  cases h
  rfl

theorem predicate_alike (h : q.Alike q') : Paired Predicate.Alike (c.predicate q) (c.predicate q') := by
  unfold predicate
  rw [checkRequired_alike h]
  refine (Paired.refl _).bind fun _ _ _ => ?_
  cases h with
  | search hgroups =>
    refine (search_alike hgroups).bind fun p p' halike => (Paired.refl _).bind fun r r' hr => .ok ?_
    have houtline : p.outline = p'.outline := halike
    exact Predicate.alike_all (by simp [houtline, hr])

end Compiler

namespace Selection
variable {s s' : Selection} {q q' : Query}

theorem predicate_alike (h : s.Alike s') (hq : q.Alike q') :
    Paired Predicate.Alike (s.predicate q) (s'.predicate q') := by
  cases h with
  | mk _ hraw =>
    refine (Compiler.predicate_alike hq).bind fun own own' halike => .ok (Predicate.alike_all ?_)
    have houtline : own.outline = own'.outline := halike
    simp only [List.cons_append, List.map_cons, List.map_append, houtline, hraw]
    rfl

theorem prepare_alike (h : s.Alike s') (hq : q.Alike q') : s.prepare q = s'.prepare q' := by
  unfold prepare
  rw [Compiler.validate_alike hq]
  cases h
  cases hq
  rfl

end Selection
end TableQuery
