import TableQuery.Proofs.MadeQueries
import TableQuery.Proofs.Operators

/-! What can be wrong with the wire form of a query. Faults are a relation beside the readers, one for each kind of part:
    a wire form that has no fault is read, and one that has is refused by a fault of its own. -/

namespace TableQuery

/-- What is read through the parts that it says fails by what is wrong with those, or for saying none. -/
theorem FailsBy.of_parts {α σ ε : Type} {x : Except ε α} {S : σ → Prop} {make : σ → Except ε α} {F : σ → ε → Prop}
    {N : ε → Prop} (hsaid : ∀ p, S p → x = make p) (hparts : ∀ p, FailsBy (F p) (make p))
    (hnone : (∀ p, ¬ S p) → ∃ e, x = .error e ∧ N e) :
    FailsBy (fun e => (∃ p, S p ∧ F p e) ∨ (∀ p, ¬ S p) ∧ N e) x := by
  by_cases h : ∃ p, S p
  · obtain ⟨p, hp⟩ := h
    refine .of_failsOnly ?_ fun a ha e he => ?_
    · rw [hsaid p hp]
      exact (hparts p).failsOnly.mono fun e he => .inl ⟨p, hp, he⟩
    · rcases he with ⟨p', hp', he⟩ | ⟨hno, -⟩
      · exact (hparts p').not_of_eq_ok (hsaid p' hp' ▸ ha) he
      · exact hno p hp
  · have hno : ∀ p, ¬ S p := fun p hp => h ⟨p, hp⟩
    obtain ⟨e, hx, he⟩ := hnone hno
    rw [hx]
    exact .error (.inr ⟨hno, he⟩)

/-- The families of errors that decoding a query can end with. Fields are looked at only later. -/
def decodingFamilies : List QueryError.Family := [.query, .operator, .condition]

/-! ### Spellings -/

section
variable {v : Value}

/-- A value that, once brought to canonical form, spells an operator. -/
def Operator.IsSpelled (v : Value) : Prop := ∃ op : Operator, normalize v = op.spelling

theorem Operator.failsBy_ofValue (v : Value) :
    FailsBy (fun e => ¬ IsSpelled v ∧ e = .operator v) (ofValue v) := by
  unfold ofValue
  split
  · rename_i op hop
    exact .ok fun e he => he.1 ⟨op, ofSpelling?_eq_some.mp hop⟩
  · rename_i hnone
    refine .error ⟨fun ⟨op, hop⟩ => ?_, rfl⟩
    rw [ofSpelling?_eq_some.mpr hop] at hnone
    cases hnone

/-- A value that stands for a connective: nothing, or a spelling of one. -/
def Connective.IsSpelled (v : Value) : Prop :=
  v.isBlankValue = true ∨ ∃ c : Connective, Operator.normalize v = c.spelling

theorem Connective.failsBy_ofValue (v : Value) :
    FailsBy (fun e => ¬ IsSpelled v ∧ e = .connective v) (ofValue v) := by
  unfold ofValue
  split
  · rename_i hblank
    exact .ok fun e he => he.1 (.inl hblank)
  rename_i hblank
  dsimp only
  split
  · rename_i hand
    exact .ok fun e he => he.1 (.inr ⟨.and, hand⟩)
  rename_i hand
  split
  · rename_i hor
    exact .ok fun e he => he.1 (.inr ⟨.or, hor⟩)
  rename_i hor
  refine .error ⟨?_, rfl⟩
  rintro (h | ⟨c, hc⟩)
  · exact hblank h
  · cases c with
    | and => exact hand hc
    | or => exact hor hc

/-- A value that spells a direction: text that is one in some case. -/
def Direction.IsSpelled (v : Value) : Prop := ∃ s, ∃ d : Direction, v = .text s ∧ lowerText s = d.spelling

theorem Direction.failsBy_ofValue (v : Value) :
    FailsBy (fun e => ¬ IsSpelled v ∧ e = .direction v) (ofValue v) := by
  cases v with
  | text s =>
    unfold ofValue
    dsimp only
    split
    · rename_i hasc
      exact .ok fun e he => he.1 ⟨s, .asc, rfl, hasc⟩
    rename_i hasc
    split
    · rename_i hdesc
      exact .ok fun e he => he.1 ⟨s, .desc, rfl, hdesc⟩
    rename_i hdesc
    refine .error ⟨?_, rfl⟩
    rintro ⟨_, d, h, hd⟩
    cases h
    cases d with
    | asc => exact hasc hd
    | desc => exact hdesc hd
  | _ => exact .error ⟨fun ⟨_, _, h, _⟩ => (nomatch h), rfl⟩

end

/-! ### Conditions -/

namespace Condition
variable {raw field value op : Value} {e : QueryError}

/-- What is wrong with a value that an operator is to compare with. -/
inductive Unfit (name : String) (op : Operator) (v : Value) : QueryError → Prop
  | sequence : op.isMembership = true → (∀ xs, v ≠ .tuple xs) → Unfit name op v (.needsSequence op.spelling name)
  | pair : op.isRange = true → (∀ low high, v ≠ .tuple [low, high]) → Unfit name op v (.needsPair op.spelling name)
  | single : op.takesSequence = false → v.isScalar = false → Unfit name op v (.needsScalar op.spelling v.kindName name)
  | member {xs : List Value} {x : Value} : op.takesSequence = true → v = .tuple xs → x ∈ xs → x.isScalar = false →
    Unfit name op v (.memberKind op.spelling x.kindName name)

/-- What is wrong with the parts of a condition. A test for null takes any value, and so does every operator when there
    is nothing to search for. -/
inductive PartFault (field value op : Value) : QueryError → Prop
  | field : (∀ name, field ≠ .text name) → PartFault field value op .conditionField
  | operator {name : String} : field = .text name → ¬ Operator.IsSpelled op → PartFault field value op (.operator op)
  | value {name : String} {o : Operator} {e : QueryError} : field = .text name → Operator.normalize op = o.spelling →
    o.isNullCheck = false → (sealed value).isBlankValue = false → Unfit name o (sealed value) e →
    PartFault field value op e

/-- What is wrong with the wire form of a condition. -/
inductive Fault (raw : Value) : QueryError → Prop
  | shape : (∀ field value op, ¬ Says raw field value op) → Fault raw .conditionShape
  | part {field value op : Value} {e : QueryError} : Says raw field value op → PartFault field value op e → Fault raw e

theorem Unfit.family {name : String} {o : Operator} (h : Unfit name o value e) : e.family ∈ decodingFamilies := by
  cases h <;> simp [QueryError.family, decodingFamilies]

theorem PartFault.family (h : PartFault field value op e) : e.family ∈ decodingFamilies := by
  cases h with
  | field | operator => simp [QueryError.family, decodingFamilies]
  | value _ _ _ _ h => exact h.family

theorem Fault.family (h : Fault raw e) : e.family ∈ decodingFamilies := by
  cases h with
  | shape => simp [QueryError.family, decodingFamilies]
  | part _ h => exact h.family

theorem failsBy_checkMembers (name : String) (op : Operator) (xs : List Value) :
    FailsBy (fun e => ∃ x ∈ xs, x.isScalar = false ∧ e = .memberKind op.spelling x.kindName name)
      (checkMembers name op xs) := by
  unfold checkMembers
  cases h : nonScalar? xs with
  | some x =>
    have hfound : xs.find? (fun x => !x.isScalar) = some x := h
    have hx := List.find?_some hfound
    exact .error ⟨x, List.mem_of_find?_eq_some hfound, by simpa using hx, rfl⟩
  | none =>
    refine .ok ?_
    rintro e ⟨x, hx, hscalar, -⟩
    have hall : ∀ x ∈ xs, x.isScalar = true := by
      simpa [nonScalar?] using h
    rw [hall x hx] at hscalar
    cases hscalar

/-- Of a sequence of the right length only the members can be wrong. -/
theorem unfit_tuple_iff {name : String} {o : Operator} {xs : List Value} (htakes : o.takesSequence = true)
    (hlength : o.isRange = true → xs.length = 2) : Unfit name o (.tuple xs) e ↔
      ∃ x ∈ xs, x.isScalar = false ∧ e = .memberKind o.spelling x.kindName name := by
  constructor
  · intro h
    cases h with
    | sequence _ hno => exact absurd rfl (hno xs)
    | pair hrange hno =>
      obtain ⟨low, high, rfl⟩ := List.length_eq_two.mp (hlength hrange)
      exact absurd rfl (hno low high)
    | single hsingle _ =>
      rw [htakes] at hsingle
      cases hsingle
    | member _ heq hx hscalar =>
      cases heq
      exact ⟨_, hx, hscalar, rfl⟩
  · rintro ⟨x, hx, hscalar, rfl⟩
    exact .member htakes rfl hx hscalar

/-- A single value is fit for every operator that takes one. -/
theorem not_unfit_of_isScalar {name : String} {o : Operator} {v : Value} (hsingle : o.takesSequence = false)
    (hscalar : v.isScalar = true) : ¬ Unfit name o v e := by
  obtain ⟨hmember, hrange⟩ := Bool.or_eq_false_iff.mp hsingle
  intro h
  cases h with
  | sequence h => exact absurd h (by simp [hmember])
  | pair h => exact absurd h (by simp [hrange])
  | single _ h => exact absurd hscalar (by simp [h])
  | member h => exact absurd h (by simp [hsingle])

theorem failsBy_checkValue (name : String) (o : Operator) (v : Value) :
    FailsBy (fun e => o.isNullCheck = false ∧ v.isBlankValue = false ∧ Unfit name o v e) (checkValue name o v) := by
  unfold checkValue
  split
  · rename_i hfree
    refine .ok ?_
    rintro e ⟨hnull, hblank, -⟩
    simp [hnull, hblank] at hfree
  rename_i hcompared
  obtain ⟨hnull, hblank⟩ : o.isNullCheck = false ∧ v.isBlankValue = false := by
    simpa using hcompared
  have hmembers {xs : List Value} (hv : v = .tuple xs) (htakes : o.takesSequence = true)
      (hlength : o.isRange = true → xs.length = 2) :
      FailsBy (fun e => o.isNullCheck = false ∧ v.isBlankValue = false ∧ Unfit name o v e) (checkMembers name o xs) := by
    refine (failsBy_checkMembers name o xs).congr fun e => ?_
    rw [hv] at hblank ⊢
    simp only [hnull, hblank, unfit_tuple_iff htakes hlength, true_and]
  split
  · rename_i hmember
    split
    · have hrange := Operator.isRange_of_isMembership hmember
      exact hmembers rfl (Operator.takesSequence_of_isMembership hmember) fun h => absurd h (by simp [hrange])
    · rename_i hno
      exact .error ⟨hnull, hblank, .sequence hmember hno⟩
  rename_i hmember
  split
  · rename_i hrange
    split
    · rename_i xs
      split
      · rename_i hlength
        exact hmembers rfl (Operator.takesSequence_of_isRange hrange) fun _ => hlength
      · rename_i hlength
        refine .error ⟨hnull, hblank, .pair hrange fun low high h => hlength ?_⟩
        cases h
        rfl
    · rename_i hno
      exact .error ⟨hnull, hblank, .pair hrange fun low high => hno [low, high]⟩
  rename_i hrange
  have hsingle : o.takesSequence = false := by
    rw [Operator.takesSequence, Bool.eq_false_iff.mpr hmember, Bool.eq_false_iff.mpr hrange, Bool.or_false]
  split
  · rename_i hscalar
    refine .ok fun e he => ?_
    exact not_unfit_of_isScalar hsingle hscalar he.2.2
  · rename_i hscalar
    exact .error ⟨hnull, hblank, .single hsingle (by simpa using hscalar)⟩

theorem failsBy_make (field value op : Value) : FailsBy (PartFault field value op) (make field value op) := by
  refine .of_failsOnly ?_ fun c hc e he => ?_
  · cases field with
    | text name =>
      refine FailsOnly.bind ((Operator.failsBy_ofValue op).failsOnly.mono ?_) fun o ho =>
        FailsOnly.bind ((failsBy_checkValue name o (sealed value)).failsOnly.mono ?_) fun _ _ => trivial
      · rintro _ ⟨hspelled, rfl⟩
        exact .operator rfl hspelled
      · rintro e ⟨hnull, hblank, hunfit⟩
        exact .value rfl (Operator.ofValue_eq_ok.mp ho) hnull hblank hunfit
    | _ => exact .field fun _ h => (nomatch h)
  · obtain ⟨hfield, hop, hvalue, hcheck⟩ := make_eq_ok.mp hc
    cases he with
    | field hno => exact hno c.field hfield
    | operator _ hspelled => exact hspelled ⟨c.operator, Operator.ofValue_eq_ok.mp hop⟩
    | value hname hspelled hnull hblank hunfit =>
      cases hname.symm.trans hfield
      rw [Operator.ofValue_eq_ok.mpr hspelled] at hop
      cases hop
      rw [hvalue] at hcheck
      exact (failsBy_checkValue _ _ _).not_of_eq_ok hcheck ⟨hnull, hblank, hunfit⟩

theorem failsBy_ofWire (raw : Value) : FailsBy (Fault raw) (ofWire raw) := by
  have hparts := FailsBy.of_parts (S := fun p : Value × Value × Value => Says raw p.1 p.2.1 p.2.2)
    (N := (· = .conditionShape)) (fun _ => ofWire_eq_make) (fun p => failsBy_make p.1 p.2.1 p.2.2)
    fun hno => ⟨_, ofWire_eq_error fun field value op => hno (field, value, op), rfl⟩
  refine hparts.congr fun e => ⟨?_, fun h => ?_⟩
  · rintro (⟨p, hsaid, hpart⟩ | ⟨hno, rfl⟩)
    · exact .part hsaid hpart
    · exact .shape fun field value op => hno (field, value, op)
  · cases h with
    | shape hno => exact .inr ⟨fun p => hno p.1 p.2.1 p.2.2, rfl⟩
    | part hsaid hpart => exact .inl ⟨(_, _, _), hsaid, hpart⟩

end Condition

/-! ### Groups -/

namespace Group
variable {raw connective : Value} {items : List Value} {e : QueryError}

/-- What is wrong with the parts of a group. -/
inductive PartFault (items : List Value) (connective : Value) : QueryError → Prop
  | condition {raw : Value} {e : QueryError} : raw ∈ items → Condition.Fault raw e → PartFault items connective e
  | connective : ¬ Connective.IsSpelled connective → PartFault items connective (.connective connective)

/-- What is wrong with the wire form of a group. -/
inductive Fault (raw : Value) : QueryError → Prop
  | conditions {es : List (String × Value)} : raw = .dict es → (∀ items connective, ¬ Says raw items connective) →
    Fault raw .groupConditions
  | shape : (∀ es, raw ≠ .dict es) → (∀ items connective, ¬ Says raw items connective) →
    Fault raw (.groupShape raw.kindName)
  | part {items : List Value} {connective : Value} {e : QueryError} : Says raw items connective →
    PartFault items connective e → Fault raw e

theorem PartFault.family (h : PartFault items connective e) : e.family ∈ decodingFamilies := by
  cases h with
  | condition _ h => exact h.family
  | connective => simp [QueryError.family, decodingFamilies]

theorem Fault.family (h : Fault raw e) : e.family ∈ decodingFamilies := by
  cases h with
  | conditions | shape => simp [QueryError.family, decodingFamilies]
  | part _ h => exact h.family

theorem failsBy_make (items : List Value) (connective : Value) :
    FailsBy (PartFault items connective) (make items connective) := by
  refine .of_failsOnly ?_ fun g hg e he => ?_
  · refine FailsOnly.bind (FailsOnly.mapM fun raw hraw => ?_) fun _ _ => FailsOnly.bind ?_ fun _ _ => trivial
    · exact (Condition.failsBy_ofWire raw).failsOnly.mono fun e he => .condition hraw he
    · refine (Connective.failsBy_ofValue connective).failsOnly.mono ?_
      rintro _ ⟨hspelled, rfl⟩
      exact .connective hspelled
  · obtain ⟨hconditions, hconnective⟩ := make_eq_ok.mp hg
    cases he with
    | condition hraw hfault => exact FailsBy.not_of_mapM Condition.failsBy_ofWire hconditions hraw hfault
    | connective hspelled => exact (Connective.failsBy_ofValue _).not_of_eq_ok hconnective ⟨hspelled, rfl⟩

theorem failsBy_ofWire (raw : Value) : FailsBy (Fault raw) (ofWire raw) := by
  have hparts := FailsBy.of_parts (S := fun p : List Value × Value => Says raw p.1 p.2)
    (N := fun e => (∃ es, raw = .dict es ∧ e = .groupConditions) ∨ (∀ es, raw ≠ .dict es) ∧ e = .groupShape raw.kindName)
    (fun _ => ofWire_eq_make) (fun p => failsBy_make p.1 p.2) fun hno => by
      rcases ofWire_eq_error fun items connective => hno (items, connective) with ⟨es, hes, he⟩ | ⟨hes, he⟩
      · exact ⟨_, he, .inl ⟨es, hes, rfl⟩⟩
      · exact ⟨_, he, .inr ⟨hes, rfl⟩⟩
  refine hparts.congr fun e => ⟨?_, fun h => ?_⟩
  · rintro (⟨p, hsaid, hpart⟩ | ⟨hno, ⟨es, hes, rfl⟩ | ⟨hes, rfl⟩⟩)
    · exact .part hsaid hpart
    · exact .conditions hes fun items connective => hno (items, connective)
    · exact .shape hes fun items connective => hno (items, connective)
  · cases h with
    | conditions hes hno => exact .inr ⟨fun p => hno p.1 p.2, .inl ⟨_, hes, rfl⟩⟩
    | shape hes hno => exact .inr ⟨fun p => hno p.1 p.2, .inr ⟨hes, rfl⟩⟩
    | part hsaid hpart => exact .inl ⟨(_, _), hsaid, hpart⟩

end Group

/-! ### Orders -/

namespace OrderBy
variable {raw : Value}

/-- What is wrong with the wire form of an order. -/
inductive Fault (raw : Value) : QueryError → Prop
  | shape : (∀ field direction, ¬ Says raw field direction) → Fault raw .orderShape
  | direction {field direction : Value} : Says raw field (some direction) → ¬ Direction.IsSpelled direction →
    Fault raw (.direction direction)

theorem Fault.family {e : QueryError} (h : Fault raw e) : e.family ∈ decodingFamilies := by
  cases h <;> simp [QueryError.family, decodingFamilies]

theorem failsBy_ofWire (raw : Value) : FailsBy (Fault raw) (ofWire raw) := by
  refine .of_failsOnly ?_ fun o ho e he => ?_
  · by_cases hsaid : ∃ field direction, Says raw field direction
    · obtain ⟨field, direction, hsaid⟩ := hsaid
      rw [ofWire_eq_map hsaid]
      cases direction with
      | none => exact trivial
      | some direction =>
        refine FailsOnly.map ((Direction.failsBy_ofValue direction).failsOnly.mono ?_)
        rintro _ ⟨hspelled, rfl⟩
        exact .direction hsaid hspelled
    · have hno : ∀ field direction, ¬ Says raw field direction := fun _ _ h => hsaid ⟨_, _, h⟩
      rw [ofWire_eq_error hno]
      exact .shape hno
  · cases he with
    | shape hno =>
      rw [ofWire_eq_error hno] at ho
      cases ho
    | @direction _ direction hsaid hspelled =>
      rw [ofWire_eq_map hsaid] at ho
      cases hd : Direction.ofValue direction with
      | ok d => exact (Direction.failsBy_ofValue direction).not_of_eq_ok hd ⟨hspelled, rfl⟩
      | error e =>
        rw [Option.map_some, Option.getD_some, hd] at ho
        cases ho

end OrderBy

/-! ### Queries -/

/-- A value that stands for a list: nothing, a single text, or a list itself. -/
inductive Value.Lists : Value → List Value → Prop
  | nothing : Lists .null []
  | text {s : String} : Lists (.text s) [.text s]
  | sequence {v : Value} {xs : List Value} : v.sequence? = some xs → Lists v xs

/-- A value that stands for a count: nothing, or a whole number from zero up. -/
def Value.Counts (v : Value) : Prop := v = .null ∨ ∃ n : Nat, v = .int n

namespace Query

theorem itemsOf_eq_ok {part : String} {v : Value} {xs : List Value} : itemsOf part v = .ok xs ↔ v.Lists xs := by
  constructor
  · intro h
    cases v with
    | null =>
      cases h
      exact .nothing
    | text s =>
      cases h
      exact .text
    | list ys | tuple ys =>
      cases h
      exact .sequence rfl
    | _ => cases h
  · intro h
    cases h with
    | nothing => rfl
    | text => rfl
    | sequence hv => rcases Value.sequence?_eq_some.mp hv with rfl | rfl <;> rfl

theorem failsBy_itemsOf (part : String) (v : Value) :
    FailsBy (fun e => (∀ xs, ¬ v.Lists xs) ∧ e = .notList part v.kindName) (itemsOf part v) := by
  refine .of_failsOnly ?_ fun xs hxs e he => he.1 xs (itemsOf_eq_ok.mp hxs)
  cases v with
  | null | text _ | list _ | tuple _ => exact trivial
  | _ => exact ⟨fun xs h => (nomatch (itemsOf_eq_ok.mpr h : itemsOf part _ = .ok xs)), rfl⟩

theorem failsBy_countOf (part : String) (v : Value) :
    FailsBy (fun e => ¬ v.Counts ∧ e = .notCount part) (countOf part v) := by
  cases v with
  | null => exact .ok fun e he => he.1 (.inl rfl)
  | int n =>
    cases n with
    | ofNat n => exact .ok fun e he => he.1 (.inr ⟨n, rfl⟩)
    | negSucc n =>
      refine .error ⟨?_, rfl⟩
      rintro (h | ⟨m, h⟩) <;> cases h
  | _ =>
    refine .error ⟨?_, rfl⟩
    rintro (h | ⟨m, h⟩) <;> cases h

/-- The parts that have to be lists, by their wire names. -/
def Parts.lists (p : Parts) : List (String × Value) :=
  [("filter", p.filter), ("search", p.search), ("order_by", p.orderBy), ("required", p.required),
    ("include", p.relations)]

/-- The parts that have to be counts, by their wire names. -/
def Parts.counts (p : Parts) : List (String × Value) :=
  [("limit", p.limit), ("page", p.page), ("page_size", p.pageSize)]

/-- What is wrong with the parts of a query. -/
inductive PartFault (p : Parts) : QueryError → Prop
  | list {part : String} {v : Value} : (part, v) ∈ p.lists → (∀ xs, ¬ v.Lists xs) →
    PartFault p (.notList part v.kindName)
  | group {raws : List Value} {raw : Value} {e : QueryError} : p.search.Lists raws → raw ∈ raws → Group.Fault raw e →
    PartFault p e
  | order {raws : List Value} {raw : Value} {e : QueryError} : p.orderBy.Lists raws → raw ∈ raws →
    OrderBy.Fault raw e → PartFault p e
  | count {part : String} {v : Value} : (part, v) ∈ p.counts → ¬ v.Counts → PartFault p (.notCount part)

/-- What is wrong with the wire form of a query. -/
inductive Fault (d : Value) : QueryError → Prop
  | shape : (∀ p, ¬ Says d p) → Fault d (.notObject d.kindName)
  | part {p : Parts} {e : QueryError} : Says d p → PartFault p e → Fault d e

theorem PartFault.family {p : Parts} {e : QueryError} (h : PartFault p e) : e.family ∈ decodingFamilies := by
  cases h with
  | list | count => simp [QueryError.family, decodingFamilies]
  | group _ _ h => exact h.family
  | order _ _ h => exact h.family

theorem Fault.family {d : Value} {e : QueryError} (h : Fault d e) : e.family ∈ decodingFamilies := by
  cases h with
  | shape => simp [QueryError.family, decodingFamilies]
  | part _ h => exact h.family

theorem failsOnly_make (p : Parts) : FailsOnly (PartFault p) (make p) := by
  have hlist {part : String} {v : Value} (hmem : (part, v) ∈ p.lists) : FailsOnly (PartFault p) (itemsOf part v) := by
    refine (failsBy_itemsOf part v).failsOnly.mono ?_
    rintro _ ⟨hno, rfl⟩
    exact .list hmem hno
  have hcount {part : String} {v : Value} (hmem : (part, v) ∈ p.counts) : FailsOnly (PartFault p) (countOf part v) := by
    refine (failsBy_countOf part v).failsOnly.mono ?_
    rintro _ ⟨hno, rfl⟩
    exact .count hmem hno
  refine (hlist (by simp [Parts.lists])).bind fun _ _ => ?_
  refine (hlist (by simp [Parts.lists])).bind fun groups hgroups => ?_
  refine (FailsOnly.mapM fun raw hraw => ?_).bind fun _ _ => ?_
  · exact (Group.failsBy_ofWire raw).failsOnly.mono fun e he => .group (itemsOf_eq_ok.mp hgroups) hraw he
  refine (hlist (by simp [Parts.lists])).bind fun orders horders => ?_
  refine (FailsOnly.mapM fun raw hraw => ?_).bind fun _ _ => ?_
  · exact (OrderBy.failsBy_ofWire raw).failsOnly.mono fun e he => .order (itemsOf_eq_ok.mp horders) hraw he
  refine (hcount (by simp [Parts.counts])).bind fun _ _ => (hcount (by simp [Parts.counts])).bind fun _ _ => ?_
  refine (hcount (by simp [Parts.counts])).bind fun _ _ => (hlist (by simp [Parts.lists])).bind fun _ _ => ?_
  exact (hlist (by simp [Parts.lists])).bind fun _ _ => trivial

/-- Parts that make a query are without faults. -/
theorem not_partFault_of_make {p : Parts} {q : Query} {e : QueryError} (h : make p = .ok q) : ¬ PartFault p e := by
  obtain ⟨hfilter, ⟨groups, hgroups, hsearch⟩, ⟨orders, horders, horderBy⟩, hlimit, hpage, hsize, hrequired,
    hrelations⟩ := make_eq_ok.mp h
  intro hfault
  cases hfault with
  | @list part v hmem hno =>
    have hitems : ∃ xs, itemsOf part v = .ok xs := by
      simp only [Parts.lists, List.mem_cons, Prod.mk.injEq, List.not_mem_nil, or_false] at hmem
      rcases hmem with ⟨rfl, rfl⟩ | ⟨rfl, rfl⟩ | ⟨rfl, rfl⟩ | ⟨rfl, rfl⟩ | ⟨rfl, rfl⟩
      exacts [⟨_, hfilter⟩, ⟨_, hgroups⟩, ⟨_, horders⟩, ⟨_, hrequired⟩, ⟨_, hrelations⟩]
    obtain ⟨xs, hxs⟩ := hitems
    exact hno xs (itemsOf_eq_ok.mp hxs)
  | group hraws hraw hfault =>
    cases (itemsOf_eq_ok.mpr hraws).symm.trans hgroups
    exact FailsBy.not_of_mapM Group.failsBy_ofWire hsearch hraw hfault
  | order hraws hraw hfault =>
    cases (itemsOf_eq_ok.mpr hraws).symm.trans horders
    exact FailsBy.not_of_mapM OrderBy.failsBy_ofWire horderBy hraw hfault
  | @count part v hmem hno =>
    have hcounted : ∃ n, countOf part v = .ok n := by
      simp only [Parts.counts, List.mem_cons, Prod.mk.injEq, List.not_mem_nil, or_false] at hmem
      rcases hmem with ⟨rfl, rfl⟩ | ⟨rfl, rfl⟩ | ⟨rfl, rfl⟩
      exacts [⟨_, hlimit⟩, ⟨_, hpage⟩, ⟨_, hsize⟩]
    obtain ⟨n, hn⟩ := hcounted
    exact (failsBy_countOf part v).not_of_eq_ok hn ⟨hno, rfl⟩

theorem failsBy_make (p : Parts) : FailsBy (PartFault p) (make p) :=
  .of_failsOnly (failsOnly_make p) fun _ h _ => not_partFault_of_make h

theorem failsBy_ofWire (d : Value) : FailsBy (Fault d) (ofWire d) := by
  have hparts := FailsBy.of_parts (S := Says d) (N := (· = .notObject d.kindName)) (fun _ => ofWire_eq_make) failsBy_make
    fun hno => ⟨_, ofWire_eq_error hno, rfl⟩
  refine hparts.congr fun e => ⟨?_, fun h => ?_⟩
  · rintro (⟨p, hsaid, hpart⟩ | ⟨hno, rfl⟩)
    · exact .part hsaid hpart
    · exact .shape hno
  · cases h with
    | shape hno => exact .inr ⟨hno, rfl⟩
    | part hsaid hpart => exact .inl ⟨_, hsaid, hpart⟩

end Query
end TableQuery
