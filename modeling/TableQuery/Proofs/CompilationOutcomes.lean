import TableQuery.Proofs.MadeQueries
import TableQuery.Proofs.MalformedQueries

/-! What checking a query and compiling it ends with. A query that is not malformed compiles, and a malformed one is
    refused, but for two kinds of query: one with a required field that cannot even be looked for, and one with a range
    that has no ends and is not left out. -/

namespace TableQuery

/-- The first required field that no condition tests is no key, so it cannot be looked for. -/
def Query.LooksInVain (q : Query) : Prop := ∃ before v after, q.required = before ++ v :: after ∧
  (∀ w ∈ before, ∃ s ∈ q.searchFields, w = .text s) ∧ v.keyFault? ≠ none ∧ ∀ frozen xs, v ≠ .set frozen xs

namespace Compiler

/-- Checks a query and compiles it. -/
def checked (c : Compiler) (q : Query) : Outcome Predicate := do
  validate q
  c.predicate q

/-- A range that has no ends, since there is nothing to search for, and is tested nevertheless. -/
structure Endless (c : Compiler) (cond : Condition) : Prop where
  range : cond.operator.isRange = true
  blank : cond.value.isBlankValue = true
  tested : cond.field ∈ c.emptyValueFields

/-- A condition of the query is a range without ends. -/
def HoldsEndless (c : Compiler) (q : Query) : Prop := ∃ g ∈ q.search, ∃ cond ∈ g.conditions, c.Endless cond

variable {c : Compiler} {q : Query}

/-! ### Checking -/

theorem isName_of_isIdentifier {s : String} (h : (Value.text s).IsIdentifier) : isName s = true := by
  obtain ⟨_, ⟨⟩, hne, hchars⟩ := h
  have hall : s.toList.all isNameChar = true := by
    refine List.all_eq_true.mpr fun c hc => ?_
    simpa [isNameChar, or_assoc] using hchars c hc
  have hempty : s.isEmpty = false := by
    simpa using hne
  simp [isName, hall, hempty]

theorem exists_asName (role : String) {v : Value} (h : v.IsIdentifier) : ∃ name, v.asName role = .ok name := by
  obtain ⟨s, rfl, -⟩ := id h
  refine ⟨s, ?_⟩
  simp [Value.asName, isName_of_isIdentifier h]

theorem exists_asNames (role : String) {vs : List Value} (h : ∀ v ∈ vs, v.IsIdentifier) :
    ∃ names, Value.asNames role vs = .ok names := exists_mapM_eq_ok fun v hv => exists_asName role (h v hv)

theorem exists_asIncludePath {v : Value} (h : v.IsPath) : ∃ path, v.asIncludePath = .ok path := by
  obtain ⟨s, rfl, hsegments⟩ := h
  have hall : (cutText '.' s).all TableQuery.isName = true :=
    List.all_eq_true.mpr fun segment hsegment => isName_of_isIdentifier (hsegments segment hsegment)
  have hempty : s.isEmpty = false := by
    by_contra hs
    obtain rfl : s = "" := by simpa using hs
    -- The only segment of the empty text is empty, which is no identifier.
    obtain ⟨_, ⟨⟩, hne, -⟩ := hsegments "" List.mem_cons_self
    exact hne rfl
  exact ⟨s, by simp [Value.asIncludePath, isIncludePath, hall, hempty]⟩

theorem checkNames_eq_ok {role : String} {vs : List Value} (h : ∀ v ∈ vs, v.IsIdentifier) :
    checkNames role vs = .ok () := by
  refine ofQuery_eq_ok.mpr (forM_eq_ok.mpr fun v hv => ?_)
  obtain ⟨name, hname⟩ := exists_asName role (h v hv)
  rw [hname]
  rfl

theorem failsOnly_ofQuery_field {α : Type} {r : Except QueryError α} (h : FailsOnly (fun e => e.family = .field) r) :
    FailsOnly (fun f => ∃ e, f = .query e ∧ e.family = .field) (ofQuery r) := by
  cases r with
  | ok a => exact trivial
  | error e => exact ⟨e, rfl, h⟩

theorem failsOnly_asName (role : String) (v : Value) : FailsOnly (fun e => e.family = .field) (v.asName role) := by
  unfold Value.asName
  split
  · split
    · exact trivial
    · exact rfl
  · exact rfl

theorem failsOnly_asIncludePath (v : Value) : FailsOnly (fun e => e.family = .field) v.asIncludePath := by
  unfold Value.asIncludePath
  split
  · split
    · exact trivial
    · exact rfl
  · exact rfl

theorem failsOnly_checkNames (role : String) (vs : List Value) :
    FailsOnly (fun f => ∃ e, f = .query e ∧ e.family = .field) (checkNames role vs) :=
  failsOnly_ofQuery_field (FailsOnly.forM fun v _ => (failsOnly_asName role v).map)

/-- The look for one required field. -/
def lookFor (q : Query) (v : Value) : Outcome Unit :=
  match v with
  | .text s => if q.searchFields.contains s then .ok () else .error (.query (.missingRequired v))
  | .set .. => .error (.query (.missingRequired v))
  | v => do
    let v ← v.asKey
    .error (.query (.missingRequired v))

theorem checkRequired_eq (q : Query) : checkRequired q = q.required.forM (lookFor q) := rfl

/-- Looking for a field finds it, or misses it, or fails since the field is no key. -/
theorem lookFor_cases (q : Query) (v : Value) :
    lookFor q v = .ok () ∧ (∃ s ∈ q.searchFields, v = .text s) ∨
      lookFor q v = .error (.query (.missingRequired v)) ∧ (v.keyFault? = none ∨ ∃ frozen xs, v = .set frozen xs) ∨
      ∃ m, lookFor q v = .error (.misuse m) ∧ v.keyFault? ≠ none ∧ ∀ frozen xs, v ≠ .set frozen xs := by
  unfold lookFor
  split
  · rename_i s
    split
    · rename_i hs
      exact .inl ⟨rfl, s, List.contains_iff_mem.mp hs, rfl⟩
    · exact .inr (.inl ⟨rfl, .inl rfl⟩)
  · exact .inr (.inl ⟨rfl, .inr ⟨_, _, rfl⟩⟩)
  · rename_i hset
    unfold Value.asKey
    cases hfault : v.keyFault? with
    | none => exact .inr (.inl ⟨rfl, .inl rfl⟩)
    | some m => exact .inr (.inr ⟨m, rfl, fun h => (nomatch h), hset⟩)

theorem checkRequired_eq_error {f : Failure} (h : checkRequired q = .error f) :
    (∃ v, f = .query (.missingRequired v)) ∨ ∃ m, f = .misuse m := by
  obtain ⟨before, v, after, -, -, hv⟩ := forM_eq_error.mp (checkRequired_eq q ▸ h)
  rcases lookFor_cases q v with ⟨hok, -⟩ | ⟨hmissing, -⟩ | ⟨m, hfault, -⟩
  · rw [hok] at hv
    cases hv
  · rw [hmissing] at hv
    cases hv
    exact .inl ⟨v, rfl⟩
  · rw [hfault] at hv
    cases hv
    exact .inr ⟨m, rfl⟩

theorem looksInVain_iff : q.LooksInVain ↔ ∃ m, checkRequired q = .error (.misuse m) := by
  constructor
  · rintro ⟨before, v, after, hrequired, hbefore, hfault, hset⟩
    have hfound : ∀ w ∈ before, lookFor q w = .ok () := by
      intro w hw
      obtain ⟨s, hs, rfl⟩ := hbefore w hw
      exact if_pos (List.contains_iff_mem.mpr hs)
    rcases lookFor_cases q v with ⟨-, s, -, rfl⟩ | ⟨-, hkey | ⟨frozen, xs, rfl⟩⟩ | ⟨m, hm, -⟩
    · exact absurd rfl hfault
    · exact absurd hkey hfault
    · exact absurd rfl (hset frozen xs)
    · exact ⟨m, forM_eq_error.mpr ⟨before, v, after, hrequired, hfound, hm⟩⟩
  · rintro ⟨m, h⟩
    obtain ⟨before, v, after, hrequired, hbefore, hv⟩ := forM_eq_error.mp (checkRequired_eq q ▸ h)
    refine ⟨before, v, after, hrequired, fun w hw => ?_, ?_⟩
    · rcases lookFor_cases q w with ⟨-, hs⟩ | ⟨hmissing, -⟩ | ⟨m', hfault, -⟩
      · exact hs
      · cases (hbefore w hw).symm.trans hmissing
      · cases (hbefore w hw).symm.trans hfault
    · rcases lookFor_cases q v with ⟨hok, -⟩ | ⟨hmissing, -⟩ | ⟨-, -, hfault⟩
      · cases hv.symm.trans hok
      · cases hv.symm.trans hmissing
      · exact hfault

theorem malformed_of_looksInVain (h : q.LooksInVain) : q.Malformed := by
  obtain ⟨before, v, after, hrequired, -, hfault, -⟩ := h
  refine .missing (v := v) (hrequired ▸ by simp) fun g _ cond _ htext => ?_
  rw [htext] at hfault
  exact hfault rfl

theorem checkRequired_eq_ok (h : ¬ q.Malformed) : checkRequired q = .ok () := by
  rw [checkRequired_eq, forM_eq_ok]
  intro v hv
  have hpresent : ∃ s ∈ q.searchFields, v = .text s := by
    by_contra hnone
    refine h (.missing hv fun g hg cond hcond htext => hnone ⟨cond.field, ?_, htext⟩)
    exact mem_searchFields.mpr ⟨g, hg, cond, hcond, rfl⟩
  obtain ⟨s, hs, rfl⟩ := hpresent
  exact if_pos (List.contains_iff_mem.mpr hs)

/-- The check passes exactly what is not malformed. -/
theorem validate_eq_ok_iff : validate q = .ok () ↔ ¬ q.Malformed := by
  refine ⟨not_malformed_of_validate, fun h => ?_⟩
  have hnames : ∀ v ∈ q.searchFields.map Value.text, v.IsIdentifier := by
    intro v hv
    obtain ⟨s, hs, rfl⟩ := List.mem_map.mp hv
    obtain ⟨g, hg, cond, hcond, rfl⟩ := mem_searchFields.mp hs
    by_contra hname
    exact h (.search hg hcond hname)
  have horders : ∀ v ∈ q.orderBy.map OrderBy.field, v.IsIdentifier := by
    intro v hv
    obtain ⟨o, ho, rfl⟩ := List.mem_map.mp hv
    by_contra hname
    exact h (.order ho hname)
  have hpaths : ofQuery (q.relations.forM fun v => v.asIncludePath.map fun _ => ()) = .ok () := by
    refine ofQuery_eq_ok.mpr (forM_eq_ok.mpr fun v hv => ?_)
    have hpath : v.IsPath := by
      by_contra hpath
      exact h (.path hv hpath)
    obtain ⟨path, hpath⟩ := exists_asIncludePath hpath
    rw [hpath]
    rfl
  have hfilter : checkNames "filter field" q.filter = .ok () :=
    checkNames_eq_ok fun v hv => by_contra fun hname => h (.filter hv hname)
  have hrequired : checkNames "required field" q.required = .ok () :=
    checkNames_eq_ok fun v hv => by_contra fun hname => h (.required hv hname)
  simp only [validate, bind_eq_ok]
  exact ⟨(), checkRequired_eq_ok h, (), hfilter, (), hrequired, (), checkNames_eq_ok hnames, (),
    checkNames_eq_ok horders, hpaths⟩

/-- A malformed query is refused for a name, or for a required field that is missing or cannot be looked for. -/
theorem validate_eq_error {f : Failure} (h : validate q = .error f) :
    (∃ e, f = .query e ∧ (e.family = .field ∨ e.family = .missingRequired)) ∧ ¬ q.LooksInVain ∨
      (∃ m, f = .misuse m) ∧ q.LooksInVain := by
  rcases bind_eq_error.mp h with hrequired | ⟨_, hrequired, h⟩
  · rcases checkRequired_eq_error hrequired with ⟨v, rfl⟩ | ⟨m, rfl⟩
    · refine .inl ⟨⟨_, rfl, .inr rfl⟩, fun hvain => ?_⟩
      obtain ⟨m, hm⟩ := looksInVain_iff.mp hvain
      cases hrequired.symm.trans hm
    · exact .inr ⟨⟨m, rfl⟩, looksInVain_iff.mpr ⟨m, hrequired⟩⟩
  · have hvain : ¬ q.LooksInVain := by
      intro hvain
      obtain ⟨m, hm⟩ := looksInVain_iff.mp hvain
      cases hrequired.symm.trans hm
    have hnames : FailsOnly (fun f => ∃ e, f = .query e ∧ e.family = .field) (.error f : Outcome Unit) := by
      rw [← h]
      refine (failsOnly_checkNames _ _).bind fun _ _ => (failsOnly_checkNames _ _).bind fun _ _ =>
        (failsOnly_checkNames _ _).bind fun _ _ => (failsOnly_checkNames _ _).bind fun _ _ => ?_
      exact failsOnly_ofQuery_field (FailsOnly.forM fun v _ => (failsOnly_asIncludePath v).map)
    obtain ⟨e, rfl, he⟩ := hnames
    exact .inl ⟨⟨e, rfl, .inl he⟩, hvain⟩

/-! ### Compiling -/

theorem Endless.not_skipped {cond : Condition} (h : c.Endless cond) : c.isSkipped cond = false := by
  have hfield : cond.field ∈ c.emptyValueFields := h.tested
  simp [isSkipped, hfield]

theorem Endless.test_eq_error {cond : Condition} (h : c.Endless cond) : ∃ m, c.test cond = .error (.misuse m) := by
  have hends : ∃ m, rangeEnds cond.value = .error (.misuse m) := by
    rcases Value.isBlankValue_iff.mp h.blank with hv | hv <;> rw [hv]
    · exact ⟨_, rfl⟩
    · exact ⟨_, rfl⟩
  obtain ⟨m, hm⟩ := hends
  have hrange := h.range
  refine ⟨m, ?_⟩
  cases hop : cond.operator with
  | between | notBetween => simp only [test, hop, hm]; rfl
  | _ =>
    rw [hop] at hrange
    cases hrange

/-- The test of a valid condition that is not left out only fails for a range without ends. -/
theorem test_eq_error {cond : Condition} {f : Failure} (hmade : cond.Made) (hskip : c.isSkipped cond = false)
    (h : c.test cond = .error f) : c.Endless cond ∧ ∃ m, f = .misuse m := by
  obtain ⟨_, _, _, hmake⟩ := hmade
  obtain ⟨-, -, -, hcheck⟩ := Condition.make_eq_ok.mp hmake
  have hrange (hr : cond.operator.isRange = true) (hnull : cond.operator.isNullCheck = false)
      (hends : rangeEnds cond.value = .error f) : c.Endless cond ∧ ∃ m, f = .misuse m := by
    cases hblank : cond.value.isBlankValue with
    | false =>
      obtain ⟨low, high, hv, -⟩ := (Condition.checkValue_eq_ok hcheck hnull hblank).2.1 hr
      rw [hv] at hends
      cases hends
    | true =>
      refine ⟨⟨hr, hblank, ?_⟩, ?_⟩
      · simpa [isSkipped, hnull, hblank] using hskip
      · rcases Value.isBlankValue_iff.mp hblank with hv | hv
        all_goals
          rw [hv] at hends
          cases hends
          exact ⟨_, rfl⟩
  unfold test at h
  cases hop : cond.operator <;> simp only [hop] at h
  case between | notBetween =>
    rcases bind_eq_error.mp h with hends | ⟨_, -, h⟩
    · rw [hop] at hrange
      exact hrange rfl rfl hends
    · cases h
  case isIn | notIn => split at h <;> split at h <;> cases h
  all_goals cases h

/-- A well-formed query that was made compiles, unless it holds a range without ends. -/
theorem failsOnly_predicate_made (hmade : ∀ g ∈ q.search, g.Made) (hq : ¬ q.Malformed) :
    FailsOnly (fun f => c.HoldsEndless q ∧ ∃ m, f = .misuse m) (c.predicate q) := by
  have hcondition {g : Group} {cond : Condition} (hg : g ∈ q.search) (hcond : cond ∈ g.conditions) :
      FailsOnly (fun f => c.HoldsEndless q ∧ ∃ m, f = .misuse m) (c.condition cond) := by
    have hidentifier : (Value.text cond.field).IsIdentifier := by
      by_contra hname
      exact hq (.search hg hcond hname)
    obtain ⟨name, hname⟩ := exists_asName "search field" hidentifier
    unfold condition
    rw [hname]
    cases hskip : c.isSkipped cond with
    | true => exact trivial
    | false =>
      cases htest : c.test cond with
      | ok p => simp [ofQuery, Except.mapError, FailsOnly, bind, Except.bind]
      | error f =>
        obtain ⟨hendless, hmisuse⟩ := test_eq_error (hmade g hg cond hcond) hskip htest
        have hholds : c.HoldsEndless q := ⟨g, hg, cond, hcond, hendless⟩
        simpa [ofQuery, Except.mapError, htest, FailsOnly, bind, Except.bind, hholds] using hmisuse
  have hgroups : FailsOnly (fun f => c.HoldsEndless q ∧ ∃ m, f = .misuse m) (c.search q.search) := by
    refine FailsOnly.bind (FailsOnly.mapM fun g hg => ?_) fun _ _ => trivial
    exact FailsOnly.bind (FailsOnly.mapM fun cond hcond => hcondition hg hcond) fun _ _ => trivial
  obtain ⟨names, hnames⟩ := exists_asNames "required field" fun v hv => by_contra fun hname => hq (.required hv hname)
  unfold predicate required
  rw [checkRequired_eq_ok hq, hnames]
  exact hgroups.bind fun _ _ => trivial

theorem not_holdsEndless_of_predicate {p : Predicate} (h : c.predicate q = .ok p) : ¬ c.HoldsEndless q := by
  rintro ⟨g, hg, cond, hcond, hendless⟩
  obtain ⟨groups, -, hgroups, -, -⟩ := predicate_eq_ok h
  obtain ⟨_, -, hgroup⟩ := forall₂_mem_right hgroups.flip g hg
  obtain ⟨-, fs, hfragments, -⟩ := group_eq_ok hgroup
  have hkept : cond ∈ g.conditions.filter fun cond => !c.isSkipped cond :=
    List.mem_filter.mpr ⟨hcond, by simp [hendless.not_skipped]⟩
  obtain ⟨_, -, htest⟩ := forall₂_mem_right (mapM_eq_ok.mp hfragments).flip cond hkept
  obtain ⟨m, hm⟩ := hendless.test_eq_error
  cases htest.symm.trans hm

/-- Checking and compiling ends in one of three ways, each for queries of its own. -/
theorem checked_cases (c : Compiler) (hmade : ∀ g ∈ q.search, g.Made) :
    (∃ p, c.checked q = .ok p) ∧ ¬ q.Malformed ∧ ¬ c.HoldsEndless q ∨
      (∃ e, c.checked q = .error (.query e) ∧ (e.family = .field ∨ e.family = .missingRequired)) ∧
        q.Malformed ∧ ¬ q.LooksInVain ∨
      (∃ m, c.checked q = .error (.misuse m)) ∧ (q.LooksInVain ∨ ¬ q.Malformed ∧ c.HoldsEndless q) := by
  by_cases hq : q.Malformed
  · obtain ⟨f, hf⟩ : ∃ f, validate q = .error f := by
      cases hvalid : validate q with
      | ok u => exact absurd hq (validate_eq_ok_iff.mp hvalid)
      | error f => exact ⟨f, rfl⟩
    have hchecked : c.checked q = .error f := bind_eq_error.mpr (.inl hf)
    rcases validate_eq_error hf with ⟨⟨e, rfl, he⟩, hvain⟩ | ⟨⟨m, rfl⟩, hvain⟩
    · exact .inr (.inl ⟨⟨e, hchecked, he⟩, hq, hvain⟩)
    · exact .inr (.inr ⟨⟨m, hchecked⟩, .inl hvain⟩)
  · have hchecked : c.checked q = c.predicate q := by
      unfold checked
      rw [validate_eq_ok_iff.mpr hq]
      rfl
    rw [hchecked]
    cases hp : c.predicate q with
    | ok p => exact .inl ⟨⟨p, rfl⟩, hq, not_holdsEndless_of_predicate hp⟩
    | error f =>
      have hfails := failsOnly_predicate_made (c := c) hmade hq
      rw [hp] at hfails
      obtain ⟨hendless, m, rfl⟩ := hfails
      exact .inr (.inr ⟨⟨m, rfl⟩, .inr ⟨hq, hendless⟩⟩)

/-- A query read from a wire form compiles exactly if it is not malformed and no range without ends is tested. It is
    refused for a name or a missing field exactly if it is malformed, unless a required field cannot be looked for. What
    is left, and only that, ends with neither. -/
theorem checked_outcomes (c : Compiler) {d : Value} {q : Query} (h : Query.ofWire d = .ok q) :
    ((∃ p, c.checked q = .ok p) ↔ ¬ q.Malformed ∧ ¬ c.HoldsEndless q) ∧
      ((∃ e, c.checked q = .error (.query e) ∧ (e.family = .field ∨ e.family = .missingRequired)) ↔
        q.Malformed ∧ ¬ q.LooksInVain) ∧
      ((∃ m, c.checked q = .error (.misuse m)) ↔ q.LooksInVain ∨ ¬ q.Malformed ∧ c.HoldsEndless q) := by
  rcases c.checked_cases (Query.made_of_ofWire h) with ⟨⟨p, hp⟩, hq, hends⟩ | ⟨⟨e, he, hfamily⟩, hq, hvain⟩ | ⟨⟨m, hm⟩, hq⟩
  · refine ⟨⟨fun _ => ⟨hq, hends⟩, fun _ => ⟨p, hp⟩⟩, ⟨?_, fun hbad => absurd hbad.1 hq⟩, ?_, ?_⟩
    · rintro ⟨e, he, -⟩
      cases hp.symm.trans he
    · rintro ⟨m, hm⟩
      cases hp.symm.trans hm
    · rintro (hvain | ⟨-, hendless⟩)
      · exact absurd (malformed_of_looksInVain hvain) hq
      · exact absurd hendless hends
  · refine ⟨⟨?_, fun hgood => absurd hq hgood.1⟩, ⟨fun _ => ⟨hq, hvain⟩, fun _ => ⟨e, he, hfamily⟩⟩, ?_, ?_⟩
    · rintro ⟨p, hp⟩
      cases he.symm.trans hp
    · rintro ⟨m, hm⟩
      cases he.symm.trans hm
    · rintro (hvain' | ⟨hgood, -⟩)
      · exact absurd hvain' hvain
      · exact absurd hq hgood
  · refine ⟨⟨?_, ?_⟩, ⟨?_, ?_⟩, fun _ => hq, fun _ => ⟨m, hm⟩⟩
    · rintro ⟨p, hp⟩
      cases hm.symm.trans hp
    · rintro ⟨hgood, hends⟩
      rcases hq with hvain | ⟨-, hendless⟩
      · exact absurd (malformed_of_looksInVain hvain) hgood
      · exact absurd hendless hends
    · rintro ⟨e, he, -⟩
      cases hm.symm.trans he
    · rintro ⟨hbad, hvain'⟩
      rcases hq with hvain | ⟨hgood, -⟩
      · exact absurd hvain hvain'
      · exact absurd hbad hgood

/-- Nothing to search for between, on a field that is tested all the same; and a list among the required fields. -/
theorem checked_outcomes_endless :
    let c : Compiler := ⟨.sqlite, ["id"]⟩
    let d : Value := .dict [("search", .list [.list [.list [.text "id", .null, .text "between"]]])]
    let q : Query := { Query.empty with search := [⟨[⟨"id", .null, .between⟩], .and⟩] }
    let d' : Value := .dict [("required", .list [.list [.text "id"]])]
    let q' : Query := { Query.empty with required := [.list [.text "id"]] }
    (Query.ofWire d = .ok q ∧ c.HoldsEndless q ∧ ∃ m, c.checked q = .error (.misuse m)) ∧
      Query.ofWire d' = .ok q' ∧ q'.LooksInVain ∧ ∃ m, c.checked q' = .error (.misuse m) := by
  intro c d q d' q'
  have hread : Query.ofWire d = .ok q := rfl
  have hread' : Query.ofWire d' = .ok q' := rfl
  have hendless : c.HoldsEndless q :=
    ⟨_, List.mem_cons_self, _, List.mem_cons_self, ⟨rfl, rfl, List.mem_cons_self⟩⟩
  have hgood : ¬ q.Malformed := validate_eq_ok_iff.mp rfl
  have hvain : q'.LooksInVain :=
    ⟨[], _, [], rfl, fun _ h => (nomatch h), fun h => (nomatch h), fun _ _ h => (nomatch h)⟩
  exact ⟨⟨hread, hendless, (checked_outcomes c hread).2.2.mpr (.inr ⟨hgood, hendless⟩)⟩, hread', hvain,
    (checked_outcomes c hread').2.2.mpr (.inl hvain)⟩

end Compiler
end TableQuery
