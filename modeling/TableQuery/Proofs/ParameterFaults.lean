import TableQuery.Proofs.JsonText
import TableQuery.Proofs.ParameterItems
import TableQuery.Proofs.WireFaults

/-! What can be wrong with the parameters of a query, again as relations beside the readers: faults of search and order
    items, of counts, and of the JSON text that may stand in place of all others. -/

namespace TableQuery

namespace Query

/-! ### Search items -/

/-- What is wrong with a search item. -/
inductive ItemFault (item : String) : QueryError → Prop
  | colon : ':' ∉ item.toList → ItemFault item (.searchItem item)
  | range {field text : String} {op : Operator} : ItemSays item field text op → op.isRange = true →
    (cutText ',' text).length ≠ 2 → ItemFault item (.needsPair op.spelling field)

theorem ItemFault.family {item : String} {e : QueryError} (h : ItemFault item e) : e.family ∈ decodingFamilies := by
  cases h <;> simp [QueryError.family, decodingFamilies]

section
variable {text : String} {op : Operator}

/-- The value of an item for an operator that takes a sequence has as many members as there are pieces between commas,
    except that no text has none. -/
theorem sealed_itemValue_eq_tuple (htakes : op.takesSequence = true) (text : String) : ∃ xs,
    Condition.sealed (itemValue op text) = .tuple xs ∧ (xs.length = 2 ↔ (cutText ',' text).length = 2) ∧
      ∀ x ∈ xs, x.isScalar = true := by
  rw [itemValue, if_pos htakes]
  split
  · rename_i hempty
    have htext : text = "" := by simpa using hempty
    refine ⟨[], rfl, ?_, fun x hx => (nomatch hx)⟩
    rw [htext]
    exact ⟨fun h => (nomatch h), fun h => (nomatch h)⟩
  · refine ⟨_, rfl, by rw [List.length_map], fun x hx => ?_⟩
    obtain ⟨s, -, rfl⟩ := List.mem_map.mp hx
    rfl

theorem sealed_itemValue_eq_text (hsingle : op.takesSequence = false) (text : String) :
    Condition.sealed (itemValue op text) = .text text := by
  rw [itemValue, hsingle, if_neg Bool.false_ne_true]
  rfl

theorem failsBy_make_itemValue (field text : String) (op : Operator) :
    FailsBy (fun e => op.isRange = true ∧ (cutText ',' text).length ≠ 2 ∧ e = .needsPair op.spelling field)
      (Condition.make (.text field) (itemValue op text) (.text op.spelling)) := by
  refine (Condition.failsBy_make _ _ _).congr fun e => ⟨fun h => ?_, ?_⟩
  · cases h with
    | field hno => exact absurd rfl (hno field)
    | operator _ hspelled => exact absurd ⟨op, op.canonicalSpelling_spelling⟩ hspelled
    | @value name o _ hname hspelled _ _ hunfit =>
      cases hname
      obtain rfl : op = o := by
        have hop := Operator.ofValue_eq_ok.mpr hspelled
        rw [Operator.ofValue_spelling] at hop
        cases hop
        rfl
      -- an item gives text or a sequence of texts, so that only the number of members can be wrong
      by_cases htakes : op.takesSequence = true
      · obtain ⟨xs, hxs, hlength, hscalar⟩ := sealed_itemValue_eq_tuple htakes text
        rw [hxs] at hunfit
        cases hunfit with
        | sequence _ hno => exact absurd rfl (hno xs)
        | pair hrange hno =>
          refine ⟨hrange, fun h => ?_, rfl⟩
          obtain ⟨low, high, rfl⟩ := List.length_eq_two.mp (hlength.mpr h)
          exact hno low high rfl
        | single hsingle _ => exact absurd htakes (by simp [hsingle])
        | member _ heq hx hnot =>
          cases heq
          exact absurd (hscalar _ hx) (by simp [hnot])
      · have hsingle : op.takesSequence = false := Bool.eq_false_iff.mpr htakes
        rw [sealed_itemValue_eq_text hsingle] at hunfit
        exact absurd hunfit (Condition.not_unfit_of_isScalar hsingle rfl)
  · rintro ⟨hrange, hlength, rfl⟩
    obtain ⟨xs, hxs, hiff, -⟩ := sealed_itemValue_eq_tuple (Operator.takesSequence_of_isRange hrange) text
    refine .value rfl op.canonicalSpelling_spelling (Operator.isNullCheck_of_isRange hrange) (by rw [hxs]; rfl)
      (.pair hrange fun low high h => ?_)
    rw [hxs] at h
    cases h
    exact hlength (hiff.mp rfl)

theorem failsBy_conditionOfItem (item : String) : FailsBy (ItemFault item) (conditionOfItem item) := by
  have hparts := FailsBy.of_parts (S := fun p : String × String × Operator => ItemSays item p.1 p.2.1 p.2.2)
    (N := (· = .searchItem item)) (fun _ => conditionOfItem_eq_make) (fun p => failsBy_make_itemValue p.1 p.2.1 p.2.2)
    fun hno => ⟨_, conditionOfItem_eq_error fun hcolon => by
      obtain ⟨field, text, op, h⟩ := exists_itemSays hcolon
      exact hno (field, text, op) h, rfl⟩
  refine hparts.congr fun e => ⟨?_, fun h => ?_⟩
  · rintro (⟨p, hsays, hrange, hlength, rfl⟩ | ⟨hno, rfl⟩)
    · exact .range hsays hrange hlength
    · refine .colon fun hcolon => ?_
      obtain ⟨field, text, op, h⟩ := exists_itemSays hcolon
      exact hno (field, text, op) h
  · cases h with
    | colon hcolon => exact .inr ⟨fun p => not_itemSays hcolon, rfl⟩
    | range hsays hrange hlength => exact .inl ⟨(_, _, _), hsays, hrange, hlength, rfl⟩

end

/-! ### Order items -/

/-- What is wrong with an item of an order: what stands behind its first colon is something, but no direction. -/
inductive OrderItemFault (item : String) : QueryError → Prop
  | direction {field direction : String} : item = field ++ ":" ++ direction → ':' ∉ field.toList → direction ≠ "" →
    ¬ Direction.IsSpelled (.text direction) → OrderItemFault item (.direction (.text direction))

theorem OrderItemFault.family {item : String} {e : QueryError} (h : OrderItemFault item e) :
    e.family ∈ decodingFamilies := by
  cases h
  simp [QueryError.family, decodingFamilies]

theorem failsBy_orderOfItem (item : String) : FailsBy (OrderItemFault item) (orderOfItem item) := by
  refine .of_cases (fun e he => ?_) fun o ho e he => ?_
  · by_cases hcolon : ':' ∈ item.toList
    · obtain ⟨field, direction, hitem, hfield⟩ := exists_split hcolon
      rw [show String.singleton ':' = ":" from rfl] at hitem
      by_cases hne : direction = ""
      · have hend : item = field ++ ":" := by
          rw [hitem, hne, String.append_empty]
        obtain ⟨_, hasc⟩ := orderOfItem_eq_asc (.inr ⟨field, hend, hfield⟩)
        rw [hasc] at he
        cases he
      · rw [hitem, orderOfItem_eq_map hfield hne] at he
        cases hd : Direction.ofValue (.text direction) with
        | ok d =>
          rw [hd] at he
          cases he
        | error e' =>
          rw [hd] at he
          cases he
          obtain ⟨hspelled, rfl⟩ := (Direction.failsBy_ofValue _).of_eq_error hd
          exact .direction hitem hfield hne hspelled
    · obtain ⟨_, hasc⟩ := orderOfItem_eq_asc (.inl hcolon)
      rw [hasc] at he
      cases he
  · cases he with
    | @direction field direction hitem hfield hne hspelled =>
      rw [hitem, orderOfItem_eq_map hfield hne] at ho
      cases hd : Direction.ofValue (.text direction) with
      | ok d => exact (Direction.failsBy_ofValue _).not_of_eq_ok hd ⟨hspelled, rfl⟩
      | error e =>
        rw [hd] at ho
        cases ho

/-! ### Counts -/

/-- What is wrong with a count. -/
inductive CountFault (params : List (String × Value)) (part : String) : QueryError → Prop
  | numeral {raw : String} : parameter? params [part] = some raw → (∀ n, readInt raw.toList ≠ .ok n) →
    CountFault params part (.notInteger part raw)
  | negative {raw : String} {n : Int} : parameter? params [part] = some raw → readInt raw.toList = .ok n → n < 0 →
    CountFault params part (.notCount part)

section
variable {params : List (String × Value)} {part : String}

theorem CountFault.family {e : QueryError} (h : CountFault params part e) : e.family ∈ decodingFamilies := by
  cases h <;> simp [QueryError.family, decodingFamilies]

theorem countFault_of_integerParameter {e : QueryError} (h : integerParameter params part = .error e) :
    CountFault params part e := by
  unfold integerParameter at h
  split at h
  · cases h
  rename_i raw hraw
  split at h
  · cases h
  rename_i hread
  cases h
  refine .numeral hraw fun n hn => ?_
  rw [hn] at hread
  cases hread

theorem countFault_of_countOf {v : Value} {e : QueryError} (h : integerParameter params part = .ok v)
    (hcount : countOf part v = .error e) : CountFault params part e := by
  obtain ⟨hno, rfl⟩ := (failsBy_countOf part v).of_eq_error hcount
  unfold integerParameter at h
  split at h
  · cases h
    exact absurd (.inl rfl) hno
  rename_i raw hraw
  split at h
  · rename_i n hn
    cases h
    refine .negative hraw hn (Int.not_le.mp fun hpositive => hno ?_)
    obtain ⟨m, rfl⟩ := Int.eq_ofNat_of_zero_le hpositive
    exact .inr ⟨m, rfl⟩
  · cases h

theorem not_countFault {n : Option Nat} {e : QueryError} (h : CountedBy params part n) : ¬ CountFault params part e := by
  obtain ⟨v, hv, hcount⟩ := h
  unfold integerParameter at hv
  rintro (⟨hraw, hread⟩ | ⟨hraw, hread, hnegative⟩)
  · rw [hraw] at hv
    dsimp only at hv
    split at hv
    · rename_i n hn
      exact hread n hn
    · cases hv
  · rw [hraw] at hv
    dsimp only at hv
    rw [hread] at hv
    cases hv
    refine (failsBy_countOf part _).not_of_eq_ok hcount ⟨?_, rfl⟩
    rintro (h | ⟨m, h⟩)
    · cases h
    · cases h
      omega

end

/-! ### Parameters -/

/-- What is wrong with parameters other than `query`. -/
inductive PlainFault (params : List (String × Value)) : QueryError → Prop
  | search {item : String} {e : QueryError} : item ∈ pieces '|' (parameter? params ["search"]) → ItemFault item e →
    PlainFault params e
  | order {item : String} {e : QueryError} : item ∈ pieces '|' (parameter? params ["orderby", "order_by"]) →
    OrderItemFault item e → PlainFault params e
  | count {part : String} {e : QueryError} : part ∈ ["limit", "page", "page_size"] → CountFault params part e →
    PlainFault params e

/-- What is wrong with parameters. A `query` parameter is all that counts if there is one. -/
inductive ParameterFault (params : List (String × Value)) : QueryError → Prop
  | json {raw : String} : parameter? params ["query"] = some raw → (∀ d, ¬ Json.Holds none raw d) →
    ParameterFault params .notJson
  | wire {raw : String} {d : Value} {e : QueryError} : parameter? params ["query"] = some raw → Json.Holds none raw d →
    Fault d e → ParameterFault params e
  | plain {e : QueryError} : parameter? params ["query"] = none → PlainFault params e → ParameterFault params e

variable {params : List (String × Value)}

theorem PlainFault.family {e : QueryError} (h : PlainFault params e) : e.family ∈ decodingFamilies := by
  cases h with
  | search _ h => exact h.family
  | order _ h => exact h.family
  | count _ h => exact h.family

theorem ParameterFault.family {e : QueryError} (h : ParameterFault params e) : e.family ∈ decodingFamilies := by
  cases h with
  | json => simp [QueryError.family, decodingFamilies]
  | wire _ _ h => exact h.family
  | plain _ h => exact h.family

theorem plainFault_of_eq_error {e : QueryError} (h : ofPlainParameters params = .error e) : PlainFault params e := by
  simp only [ofPlainParameters, bind_eq_error] at h
  rcases h with h | ⟨_, -, h | ⟨_, -, h | ⟨limit, hlimit, h | ⟨page, hpage, h | ⟨size, hsize, h | ⟨_, -, h | ⟨_, -, h |
    ⟨_, -, h⟩⟩⟩⟩⟩⟩⟩⟩
  · obtain ⟨item, hitem, h⟩ := mapM_eq_error h
    exact .search hitem ((failsBy_conditionOfItem item).of_eq_error h)
  · obtain ⟨item, hitem, h⟩ := mapM_eq_error h
    exact .order hitem ((failsBy_orderOfItem item).of_eq_error h)
  · exact .count (by simp) (countFault_of_integerParameter h)
  · exact .count (by simp) (countFault_of_integerParameter h)
  · exact .count (by simp) (countFault_of_integerParameter h)
  · exact .count (by simp) (countFault_of_countOf hlimit h)
  · exact .count (by simp) (countFault_of_countOf hpage h)
  · exact .count (by simp) (countFault_of_countOf hsize h)
  · cases h

theorem failsBy_ofPlainParameters (params : List (String × Value)) :
    FailsBy (PlainFault params) (ofPlainParameters params) := by
  refine .of_cases (fun e he => plainFault_of_eq_error he) fun q hq e he => ?_
  obtain ⟨⟨conds, hconds, -⟩, horders, hlimit, hpage, hsize, -⟩ := ofPlainParameters_eq_ok.mp hq
  cases he with
  | search hitem hfault => exact FailsBy.not_of_mapM failsBy_conditionOfItem hconds hitem hfault
  | order hitem hfault => exact FailsBy.not_of_mapM failsBy_orderOfItem horders hitem hfault
  | count hpart hfault =>
    simp only [List.mem_cons, List.not_mem_nil, or_false] at hpart
    rcases hpart with rfl | rfl | rfl
    exacts [not_countFault hlimit hfault, not_countFault hpage hfault, not_countFault hsize hfault]

theorem failsBy_ofParametersWithin (params : List (String × Value)) :
    FailsBy (fun e => ∃ e', e = .query e' ∧ ParameterFault params e') (ofParametersWithin none params) := by
  unfold ofParametersWithin
  cases hquery : parameter? params ["query"] with
  | none =>
    cases hplain : ofPlainParameters params with
    | ok q =>
      refine .ok ?_
      rintro _ ⟨e, rfl, hfault⟩
      cases hfault with
      | json hraw | wire hraw => cases hquery.symm.trans hraw
      | plain _ hfault => exact (failsBy_ofPlainParameters params).not_of_eq_ok hplain hfault
    | error e => exact .error ⟨e, rfl, .plain hquery ((failsBy_ofPlainParameters params).of_eq_error hplain)⟩
  | some raw =>
    dsimp only
    cases hread : Json.readWithin none raw with
    | ok d =>
      dsimp only
      cases hwire : ofWire d with
      | ok q =>
        refine .ok ?_
        rintro _ ⟨e, rfl, hfault⟩
        cases hfault with
        | json hraw hnot =>
          cases hquery.symm.trans hraw
          exact hnot d (Json.readWithin_eq_ok.mp hread)
        | wire hraw hd hfault =>
          cases hquery.symm.trans hraw
          cases hread.symm.trans (Json.readWithin_eq_ok.mpr hd)
          exact (failsBy_ofWire d).not_of_eq_ok hwire hfault
        | plain hnone => cases hquery.symm.trans hnone
      | error e =>
        have hfault := (failsBy_ofWire d).of_eq_error hwire
        exact .error ⟨e, rfl, .wire hquery (Json.readWithin_eq_ok.mp hread) hfault⟩
    | error e =>
      cases Json.eq_malformed_of_readWithin hread
      refine .error ⟨.notJson, rfl, .json hquery fun d hd => ?_⟩
      cases hread.symm.trans (Json.readWithin_eq_ok.mpr hd)

/-- Whatever is decoded, a wire form or parameters, is either free of faults and gives a query, or is refused by one of
    its faults, which is an error of the query. -/
theorem decoding_refuses_faults :
    (∀ d : Value, (∃ q, ofWire d = .ok q ∧ ∀ e, ¬ Fault d e) ∨
      ∃ e, ofWire d = .error e ∧ Fault d e ∧ e.family ∈ decodingFamilies) ∧
    ∀ params : List (String × Value),
      (∃ q, ofParametersWithin none params = .ok q ∧ ∀ e, ¬ ParameterFault params e) ∨
      ∃ e, ofParametersWithin none params = .error (.query e) ∧ ParameterFault params e ∧ e.family ∈ decodingFamilies := by
  constructor
  · intro d
    cases h : ofWire d with
    | ok q => exact .inl ⟨q, rfl, fun e => (failsBy_ofWire d).not_of_eq_ok h⟩
    | error e =>
      have hfault := (failsBy_ofWire d).of_eq_error h
      exact .inr ⟨e, rfl, hfault, hfault.family⟩
  · intro params
    cases h : ofParametersWithin none params with
    | ok q => exact .inl ⟨q, rfl, fun e he => (failsBy_ofParametersWithin params).not_of_eq_ok h ⟨e, rfl, he⟩⟩
    | error e =>
      obtain ⟨e, rfl, hfault⟩ := (failsBy_ofParametersWithin params).of_eq_error h
      exact .inr ⟨e, rfl, hfault, hfault.family⟩

end Query
end TableQuery
