import TableQuery.Proofs.ValidValues
import TableQuery.Value.Storage

/-! What a value of a model becomes inside a JSON column, and what is read of that: plain values of the entities in it, lists
    in the place of tuples and sets, and from these, by the declared types, the value that was there before. -/

namespace TableQuery

/-! ### Stored forms of items and entries -/

namespace Value

variable {xs : List Value} {es : List (String × Value)}

theorem storableItems_eq_mapM : storableItems xs = xs.mapM storable := by
  induction xs with
  | nil => rfl
  | cons x xs ih =>
    rw [storableItems, ih, List.mapM_cons]
    rfl

theorem storableEntries_eq_mapM : storableEntries es = es.mapM fun e => (storable e.2).map (e.1, ·) := by
  induction es with
  | nil => rfl
  | cons e es ih =>
    obtain ⟨k, x⟩ := e
    rw [storableEntries, ih, List.mapM_cons]
    cases storable x <;> rfl

theorem storable_of_plain {limit : Option Nat} {v : Value} (h : Json.Plain limit v) : v.storable = .ok v := by
  induction h with
  | null | bool | int | text => rfl
  | list _ ih =>
    rw [storable, storableItems_eq_mapM, mapM_eq_ok_map (h := id) ih, List.map_id]
    rfl
  | dict _ _ ih =>
    rw [storable, storableEntries_eq_mapM, mapM_eq_ok_map (h := id) fun e he => by rw [ih e he]; rfl, List.map_id]
    rfl

end Value

/-! ### Ways through a JSON column -/

namespace FieldType
open Checked

/-- A value goes through a JSON column: it has a plain form, and of that a stored form that JSON knows, which is null only
    for null and which the check of its type takes for the value itself. -/
structure Returns (limit : Option Nat) (check : Value → Checked Fitted) (v p w : Value) (x : Fitted) : Prop where
  plain : v.plain false = .ok p
  storable : p.storable = .ok w
  known : Json.Plain limit w
  isNull : w.isNull = v.isNull
  checked : check w = .ok x
  value : x.value = v.fullyGiven

/-- There is such a way. -/
def CanReturn (limit : Option Nat) (check : Value → Checked Fitted) (v : Value) : Prop :=
  ∃ p w x, Returns limit check v p w x

instance : Inhabited Fitted := ⟨⟨.null, .perfect⟩⟩

section
variable {limit : Option Nat} {check : Value → Checked Fitted} {xs : List Value} {es : List (String × Value)}

theorem canReturn_of_plain {v : Value} (h : Json.Plain limit v) {fit : Fit} (hcheck : check v = .ok ⟨v, fit⟩) :
    CanReturn limit check v := by
  have hsettled := Value.settled_of_plain h
  exact ⟨v, v, ⟨v, fit⟩, hsettled.plain, Value.storable_of_plain h, h, rfl, hcheck, hsettled.fullyGiven.symm⟩

theorem all_map_ok {α β : Type} {f : α → β} : ∀ as : List α, Checked.all (as.map fun a => .ok (f a)) = .ok (as.map f)
  | [] => rfl
  | a :: as => by
    rw [List.map_cons, Checked.all, all_map_ok as]
    rfl

theorem all_checkEach {w : Value → Value} {r : Value → Fitted} (h : ∀ x ∈ xs, check (w x) = .ok (r x)) :
    ∀ i, Checked.all (checkEach check i (xs.map w)) = .ok (xs.map r) := by
  induction xs with
  | nil => exact fun _ => rfl
  | cons x xs ih =>
    obtain ⟨hx, hxs⟩ := List.forall_mem_cons.mp h
    intro i
    rw [List.map_cons, checkEach, hx]
    show (Checked.all _).map _ = _
    rw [ih hxs (i + 1)]
    rfl

theorem gathered_eq_ok {make : List Value → Value} {fit : Fit} {results : List (Checked Fitted)} {fitted : List Fitted}
    (h : Checked.all results = .ok fitted) : gathered make fit results =
      .ok ⟨make (fitted.map Fitted.value), fit.meet (.meetAll (fitted.map Fitted.fit))⟩ := by
  rw [gathered, h]
  rfl

/-- The items of a container on their way, whatever the container. -/
theorem returns_items (h : ∀ x ∈ xs, CanReturn limit check x) : ∃ ps ws fitted, Value.plainItems false xs = .ok ps ∧
    Value.storableItems ps = .ok ws ∧ (∀ w ∈ ws, Json.Plain limit w) ∧
    Checked.all (checkEach check 0 ws) = .ok fitted ∧ fitted.map Fitted.value = Value.fullyGivenItems xs := by
  choose! p w x hreturns using h
  refine ⟨xs.map p, xs.map w, xs.map x, ?_, ?_, ?_, all_checkEach (fun y hy => (hreturns y hy).checked) 0, ?_⟩
  · rw [Value.plainItems_eq_mapM, mapM_eq_ok_map fun y hy => (hreturns y hy).plain]
  · rw [Value.storableItems_eq_mapM, mapM_map_eq_ok_map fun y hy => (hreturns y hy).storable]
  · intro v hv
    obtain ⟨y, hy, rfl⟩ := List.mem_map.mp hv
    exact (hreturns y hy).known
  · rw [Value.fullyGivenItems_eq_map, List.map_map]
    exact List.map_congr_left fun y hy => (hreturns y hy).value

theorem canReturn_list (h : ∀ x ∈ xs, CanReturn limit check x) : CanReturn limit (checkList check) (.list xs) := by
  obtain ⟨ps, ws, fitted, hps, hws, hknown, hfitted, hvalues⟩ := returns_items h
  exact ⟨.list ps, .list ws, _, by rw [Value.plain, hps]; rfl, by rw [Value.storable, hws]; rfl, .list hknown, rfl,
    gathered_eq_ok hfitted, congrArg Value.list hvalues⟩

theorem canReturn_tuple (h : ∀ x ∈ xs, CanReturn limit check x) : CanReturn limit (checkTuple check) (.tuple xs) := by
  obtain ⟨ps, ws, fitted, hps, hws, hknown, hfitted, hvalues⟩ := returns_items h
  exact ⟨.tuple ps, .list ws, _, by rw [Value.plain, hps]; rfl, by rw [Value.storable, hws]; rfl, .list hknown, rfl,
    gathered_eq_ok hfitted, congrArg Value.tuple hvalues⟩

/-- Members that are each other's like nowhere stay as they are when each is to be there once. -/
theorem distinct_eq_self (h : xs.Pairwise fun x y => y.same x = false) : distinct xs = xs := by
  have hfold (seen : List Value) (hseen : (seen ++ xs).Pairwise fun x y => y.same x = false) :
      xs.foldl (fun seen x => if x.isAmong seen then seen else seen ++ [x]) seen = seen ++ xs := by
    clear h
    induction xs generalizing seen with
    | nil => exact (List.append_nil seen).symm
    | cons x xs ih =>
      have hnew : x.isAmong seen = false := by
        rw [List.pairwise_append] at hseen
        rw [Value.isAmong, List.any_eq_false]
        exact fun y hy => by rw [hseen.2.2 y hy x List.mem_cons_self]; decide
      rw [List.append_cons] at hseen ⊢
      rw [List.foldl_cons, hnew]
      exact ih _ hseen
  exact hfold [] h

theorem canReturn_set {frozen : Bool} (h : ∀ x ∈ xs, CanReturn limit check x) (hmembers : Value.Members xs)
    (hsettled : ∀ x ∈ xs, x.Settled) : CanReturn limit (checkSet frozen check) (.set frozen xs) := by
  have hmember : ∀ x ∈ xs, CanReturn limit (fun w => asMember (check w)) x := by
    intro x hx
    obtain ⟨p, w, r, hreturns⟩ := h x hx
    refine ⟨p, w, r, hreturns.plain, hreturns.storable, hreturns.known, hreturns.isNull, ?_, hreturns.value⟩
    have hkey : r.value.keyFault?.isSome = false := by
      rw [hreturns.value, (hsettled x hx).fullyGiven, hmembers.keys x hx]
      rfl
    simp only [asMember, hreturns.checked, bind, Except.bind, hkey, Bool.false_eq_true, ↓reduceIte]
  obtain ⟨ps, ws, fitted, hps, hws, hknown, hfitted, hvalues⟩ := returns_items hmember
  obtain rfl : ps = xs := Except.ok.inj (hps.symm.trans (Value.Settled.plainItems hsettled))
  have hset : Value.set frozen (distinct (fitted.map Fitted.value)) = (Value.set frozen ps).fullyGiven := by
    rw [Value.fullyGiven, hvalues, Value.Settled.fullyGivenItems hsettled, distinct_eq_self hmembers.apart]
  have hcheck : checkSet frozen check (.list ws) = gathered (fun xs => .set frozen (distinct xs)) ⟨.converted, none⟩
      (checkEach (fun x => asMember (check x)) 0 ws) := rfl
  exact ⟨.set frozen ps, .list ws, _, (Value.Settled.set hsettled hmembers.keys).plain,
    by rw [Value.storable, hws]; rfl, .list hknown, rfl, hcheck.trans (gathered_eq_ok hfitted), hset⟩

theorem canReturn_dict (hkeys : (es.map Prod.fst).Nodup) (h : ∀ e ∈ es, CanReturn limit check e.2) :
    CanReturn limit (checkDict check) (.dict es) := by
  choose! p w x hreturns using h
  have hkeysKept : (es.map fun e => (e.1, w e)).map Prod.fst = es.map Prod.fst := by
    rw [List.map_map]
    rfl
  have hresults : ((es.map fun e => (e.1, w e)).map fun e => under (.key e.1) (check e.2)) = es.map fun e => .ok (x e) := by
    rw [List.map_map]
    refine List.map_congr_left fun e he => ?_
    show under (.key e.1) (check (w e)) = .ok (x e)
    rw [(hreturns e he).checked]
    rfl
  have hvalues : (es.map Prod.fst).zip ((es.map x).map Fitted.value) = Value.fullyGivenEntries es := by
    rw [List.map_map, List.zip_map', Value.fullyGivenEntries_eq_map]
    refine List.map_congr_left fun e he => ?_
    show (e.1, (x e).value) = (e.1, e.2.fullyGiven)
    rw [(hreturns e he).value]
  have hchecked : checkDict check (.dict (es.map fun e => (e.1, w e))) =
      .ok ⟨.dict (Value.fullyGivenEntries es), Fit.perfect.meet (.meetAll ((es.map x).map Fitted.fit))⟩ := by
    unfold checkDict
    show gathered _ .perfect ((es.map fun e => (e.1, w e)).map fun e => under (.key e.1) (check e.2)) = _
    rw [hresults, gathered_eq_ok (all_map_ok es), hkeysKept, hvalues]
  refine ⟨.dict (es.map fun e => (e.1, p e)), .dict (es.map fun e => (e.1, w e)), ⟨.dict (Value.fullyGivenEntries es), _⟩,
    ?_, ?_, .dict (by rw [hkeysKept]; exact hkeys) ?_, rfl, hchecked, rfl⟩
  · rw [Value.plain, Value.plainEntries_eq_mapM,
      mapM_eq_ok_map (h := fun e => (e.1, p e)) fun e he => by rw [(hreturns e he).plain]; rfl]
    rfl
  · rw [Value.storable, Value.storableEntries_eq_mapM,
      mapM_map_eq_ok_map (h := fun e => (e.1, w e)) fun e he => by rw [(hreturns e he).storable]; rfl]
    rfl
  · intro entry hentry
    obtain ⟨e, he, rfl⟩ := List.mem_map.mp hentry
    exact (hreturns e he).known

end

/-! ### Entities -/

section
variable {limit : Option Nat} {cells : List Cell} {given : List String} {name : String}

theorem find?_of_nodup {α : Type} {f : α → String} {x : α} : ∀ {xs : List α}, (xs.map f).Nodup → x ∈ xs →
    xs.find? (fun y => f y = f x) = some x
  | [], _, hx => nomatch hx
  | y :: ys, h, hx => by
    rw [List.map_cons, List.nodup_cons] at h
    rw [List.find?_cons]
    rcases List.mem_cons.mp hx with rfl | hx
    · simp
    · have hne : f y ≠ f x := fun heq => h.1 (heq ▸ List.mem_map_of_mem hx)
      simp [hne, find?_of_nodup h.2 hx]

theorem keyOf_ofFields {c : Cell} (h : (cells.map (·.info.name)).Nodup) (hc : c ∈ cells) :
    (Layout.ofFields name (cells.map Cell.field) given).keyOf c.info.name = c.info.key := by
  have hfind := find?_of_nodup h hc
  simp only [Layout.keyOf, Layout.field?, Layout.ofFields, Cell.field, List.map_map, List.find?_map, Function.comp_def,
    hfind, Option.map_some, Option.getD_some]

theorem plainFields_entries {p : Cell → Value} (h : (cells.map (·.info.name)).Nodup)
    (hp : ∀ c ∈ cells, c.value.plain false = .ok (p c)) :
    Value.plainFields false (.ofFields name (cells.map Cell.field) given) (cells.map Cell.entry) =
      .ok (cells.map fun c => (c.info.key, p c)) := by
  rw [Value.plainFields_eq_mapM]
  refine mapM_map_eq_ok_map fun c hc => ?_
  show (c.value.plain false).map _ = _
  rw [hp c hc]
  exact congrArg (fun key => Except.ok (key, p c)) (keyOf_ofFields h hc)

theorem fullyGiven_entity : (Cell.entity name cells given).fullyGiven =
    .entity (.ofFields name (cells.map Cell.field) (cells.map (·.info.name)))
      (cells.map fun c => (c.info.name, c.value.fullyGiven)) := by
  simp only [Cell.entity, Value.fullyGiven, Value.fullyGivenEntries_eq_map, Layout.ofFields, List.map_map]
  rfl

theorem zip_fitted {x : Cell → Fitted} (h : ∀ c ∈ cells, (x c).value = c.value.fullyGiven) :
    (cells.map (·.info.name)).zip ((cells.map x).map Fitted.value) =
      cells.map fun c => (c.info.name, c.value.fullyGiven) := by
  rw [List.map_map, List.zip_map']
  refine List.map_congr_left fun c hc => ?_
  rw [← h c hc]
  rfl

section
variable {w : Cell → Value}

/-- The fields of a model find nothing wrong with a dictionary that has a value for each of them if each value passes the
    check of its type. -/
theorem checkFields_eq_ok {input : List (String × Value)} : ∀ {cells : List Cell} {r : FieldResults},
    (∀ c ∈ cells, Row.get? input c.info.key = some (w c)) → (checkFields input (cells.map Cell.field) = .ok r ↔
      ∃ fitted, List.Forall₂ (fun (c : Cell) x => check c.type (w c) = .ok x) cells fitted ∧
        r = ⟨(cells.map (·.info.name)).zip (fitted.map Fitted.value), cells.map (·.info.name), fitted.map Fitted.fit⟩)
  | [], r, _ => by
    constructor
    · intro h
      cases h
      exact ⟨[], .nil, rfl⟩
    · rintro ⟨_, ⟨⟩, rfl⟩
      rfl
  | c :: cells, r, h => by
    obtain ⟨hc, hcells⟩ := List.forall_mem_cons.mp h
    rw [List.map_cons, Cell.field, checkFields, hc]
    dsimp only
    cases hcheck : check c.type (w c) with
    | error problems =>
      constructor
      · exact fun h => nomatch h
      · rintro ⟨_, hfitted, -⟩
        cases hfitted with
        | cons hx _ => exact nomatch hcheck.symm.trans hx
    | ok x =>
      have ih := @checkFields_eq_ok input cells
      constructor
      · intro h
        cases hrest : checkFields input (cells.map Cell.field) with
        | error problems =>
          rw [hrest] at h
          cases h
        | ok others =>
          rw [hrest] at h
          cases h
          obtain ⟨fitted, hfitted, rfl⟩ := (ih hcells).mp hrest
          exact ⟨x :: fitted, .cons hcheck hfitted, rfl⟩
      · rintro ⟨_, hfitted, rfl⟩
        cases hfitted with
        | cons hx hfitted =>
          cases hcheck.symm.trans hx
          rw [(ih hcells).mpr ⟨_, hfitted, rfl⟩]
          rfl

variable (hdistinct : Cell.Distinct cells)
include hdistinct

theorem nodup_keyed : ((cells.map fun c => (c.info.key, w c)).map Prod.fst).Nodup := by
  rw [List.map_map]
  exact hdistinct.keys

theorem checkFields_keyed {r : FieldResults} :
    checkFields (cells.map fun c => (c.info.key, w c)) (cells.map Cell.field) = .ok r ↔
      ∃ fitted, List.Forall₂ (fun (c : Cell) x => check c.type (w c) = .ok x) cells fitted ∧
        r = ⟨(cells.map (·.info.name)).zip (fitted.map Fitted.value), cells.map (·.info.name), fitted.map Fitted.fit⟩ :=
  checkFields_eq_ok fun _ hc => Row.get?_of_mem (nodup_keyed hdistinct) (List.mem_map_of_mem hc)

end

theorem canReturn_entity (hdistinct : Cell.Distinct cells) (h : ∀ c ∈ cells, CanReturn limit (check c.type) c.value) :
    CanReturn limit (check (.model name (cells.map Cell.field))) (Cell.entity name cells given) := by
  choose! p w x hreturns using h
  have hfitted : List.Forall₂ (fun (c : Cell) x => check c.type (w c) = .ok x) cells (cells.map x) :=
    List.forall₂_map_right_iff.mpr (List.forall₂_same.mpr fun _ hc => (hreturns _ hc).checked)
  have hvalues := zip_fitted fun c hc => (hreturns c hc).value
  have hchecked : ∃ fit, check (.model name (cells.map Cell.field)) (.dict (cells.map fun c => (c.info.key, w c))) =
      .ok ⟨(Cell.entity name cells given).fullyGiven, fit⟩ := by
    refine ⟨Fit.meet ⟨.converted, some (cells.map (·.info.name)).length⟩ (.meetAll ((cells.map x).map Fitted.fit)), ?_⟩
    rw [check, (checkFields_keyed hdistinct).mpr ⟨_, hfitted, rfl⟩, fullyGiven_entity, ← hvalues]
    rfl
  obtain ⟨fit, hfit⟩ := hchecked
  refine ⟨.dict (cells.map fun c => (c.info.key, p c)), .dict (cells.map fun c => (c.info.key, w c)), ⟨_, fit⟩, ?_, ?_,
    .dict (nodup_keyed hdistinct) ?_, rfl, hfit, rfl⟩
  · rw [Cell.entity, Value.plain, plainFields_entries hdistinct.names fun c hc => (hreturns c hc).plain]
    exact congrArg (fun row => Except.ok (Value.dict row)) (Row.ofList_eq_self (nodup_keyed hdistinct))
  · rw [Value.storable, Value.storableEntries_eq_mapM, mapM_map_eq_ok_map (h := fun c => (c.info.key, w c)) fun c hc => by
      rw [(hreturns c hc).storable]; rfl]
    rfl
  · intro entry hentry
    obtain ⟨c, hc, rfl⟩ := List.mem_map.mp hentry
    exact (hreturns c hc).known

/-! ### Unions -/

theorem checkChoices_eq_map (v : Value) : ∀ ts, checkChoices ts v =
    (ts.filter fun t => !t.isNothing).map fun t => (t.label, check t v)
  | [] => rfl
  | t :: ts => by
    rw [checkChoices, checkChoices_eq_map v ts, List.filter_cons]
    cases t.isNothing <;> rfl

/-- Beside null an optional type checks what its only other type checks. -/
theorem check_union {spelledOut : Bool} {ts : List FieldType} {t : FieldType} {v : Value}
    (honly : (ts.filter fun t => !t.isNothing) = [t]) (h : (ts.any isNothing && v.isNull) = false) :
    check (.union spelledOut ts) v = check t v := by
  rw [check, h, if_neg Bool.false_ne_true, checkChoices_eq_map, honly]
  rfl

theorem canReturn_choice {spelledOut : Bool} {ts : List FieldType} {t : FieldType} {v : Value}
    (honly : (ts.filter fun t => !t.isNothing) = [t]) (h : CanReturn limit (check t) v) :
    CanReturn limit (check (.union spelledOut ts)) v := by
  obtain ⟨p, w, x, hreturns⟩ := h
  cases hnull : ts.any isNothing && w.isNull with
  | false => exact ⟨p, w, x, { hreturns with checked := (check_union honly hnull).trans hreturns.checked }⟩
  | true =>
    obtain ⟨hts, hw⟩ := Bool.and_eq_true_iff.mp hnull
    have hv : v = .null := by
      have hisNull := hreturns.isNull.symm.trans hw
      cases v <;> first | rfl | cases hisNull
    subst hv
    exact ⟨.null, .null, ⟨.null, .perfect⟩, rfl, rfl, .null, rfl, by rw [check, hts]; rfl, rfl⟩

/-- A list of a type that is stated is checked by the type; a list of any items takes them as they are. -/
theorem canReturn_listOf {plain : Bool} {t : FieldType} {xs : List Value} (h : ∀ x ∈ xs, t.Holds limit x)
    (hreturn : ∀ x ∈ xs, CanReturn limit (check t) x) : CanReturn limit (check (.listOf plain t)) (.list xs) := by
  by_cases hany : t = .any
  · subst hany
    have hitems : ∀ x ∈ xs, CanReturn limit Checked.same x := by
      intro x hx
      cases h x hx with
      | any hplain => exact canReturn_of_plain hplain rfl
    exact canReturn_list hitems
  · have hcheck : check (.listOf plain t) = checkList (check t) := by
      funext v
      cases t <;> first | rfl | exact absurd rfl hany
    rw [hcheck]
    exact canReturn_list hreturn

end

/-- Every valid value of a type goes through a JSON column. -/
theorem Holds.canReturn {limit : Option Nat} {t : FieldType} {v : Value} (h : t.Holds limit v) :
    CanReturn limit (check t) v := by
  have hplain {x : Value} (hx : Json.Plain limit x) : CanReturn limit checkAny x := canReturn_of_plain hx rfl
  induction h with
  | any h => exact hplain h
  | int h => exact canReturn_of_plain (.int h) rfl
  | bool b => exact canReturn_of_plain (.bool b) rfl
  | text s => exact canReturn_of_plain (.text s) rfl
  | nothing => exact canReturn_of_plain .null rfl
  | list h => exact canReturn_list fun x hx => canReturn_of_plain (h x hx) rfl
  | tuple h => exact canReturn_tuple fun x hx => hplain (h x hx)
  | dict hkeys h => exact canReturn_dict hkeys fun e he => hplain (h e he)
  | set h hmembers | frozenset h hmembers =>
    exact canReturn_set (fun x hx => hplain (h x hx)) hmembers fun x hx => Value.settled_of_plain (h x hx)
  | listOf h ih => exact canReturn_listOf h ih
  | tupleOf _ ih => exact canReturn_tuple ih
  | dictOf hkeys _ ih => exact canReturn_dict hkeys ih
  | setOf h hmembers ih =>
    exact canReturn_set ih hmembers fun x hx => (h x hx).settled (hmembers.keys x hx)
  | null h => exact canReturn_of_plain .null (by rw [check, h]; rfl)
  | choice honly _ ih => exact canReturn_choice honly ih
  | model hdistinct _ ih => exact canReturn_entity hdistinct ih

end FieldType
end TableQuery
