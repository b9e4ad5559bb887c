import TableQuery.Proofs.StoredForms
import TableQuery.Sql.Dialect

/-! Entities in rows. The values of an entity become a row, each column in a form that the driver takes, and the row is read
    as an entity of the same model again. What a column is made of on the way in is decided by its value, and on the way out
    by the type of its field. -/

namespace TableQuery

/-! ### Kinds of values and types -/

namespace Value

/-- Whether a value holds others. -/
def isContainer : Value → Bool
  | .list _ | .tuple _ | .set .. | .dict _ | .entity .. => true
  | _ => false

/-- Whether a value is a set that does not change. -/
def isFrozen : Value → Bool
  | .set frozen _ => frozen
  | _ => false

/-- Whether a value is a container that is written as JSON. -/
def isBoxed (v : Value) : Bool := v.isContainer && !v.isFrozen

theorem isContainer_fullyGiven (v : Value) : v.fullyGiven.isContainer = v.isContainer := by cases v <;> rfl

/-- What is not written as JSON holds no others, or is a set that does not change. -/
theorem not_container_or_frozen {v : Value} (h : v.isBoxed = false) : v.isContainer = false ∨ ∃ xs, v = .set true xs := by
  cases v with
  | set frozen xs =>
    cases frozen with
    | false => cases h
    | true => exact .inr ⟨xs, rfl⟩
  | list | tuple | dict | entity => cases h
  | _ => exact .inl rfl

end Value

namespace FieldType
variable {limit : Option Nat} {t : FieldType} {v : Value}

theorem exists_of_anyContainer {ts : List FieldType} (h : anyContainer ts = true) : ∃ t ∈ ts, t.isContainer = true := by
  induction ts with
  | nil => cases h
  | cons t ts ih =>
    rw [anyContainer, Bool.or_eq_true] at h
    rcases h with ht | hts
    · exact ⟨t, List.mem_cons_self, ht⟩
    · obtain ⟨u, hu, hcontainer⟩ := ih hts
      exact ⟨u, List.mem_cons_of_mem t hu, hcontainer⟩

theorem isContainer_of_only {spelledOut : Bool} {ts : List FieldType} (honly : (ts.filter fun t => !t.isNothing) = [t])
    (h : (union spelledOut ts).isContainer = true) : t.isContainer = true := by
  rw [isContainer, Bool.and_eq_true] at h
  obtain ⟨u, hu, hcontainer⟩ := exists_of_anyContainer h.2
  have hmem : u ∈ ts.filter fun t => !t.isNothing := by
    refine List.mem_filter.mpr ⟨hu, ?_⟩
    cases u <;> first | rfl | cases hcontainer
  rw [honly, List.mem_singleton] at hmem
  exact hmem ▸ hcontainer

/-- A value that holds no others is null or a leaf. -/
theorem Holds.leaf (h : t.Holds limit v) (hv : v.isContainer = false) :
    v = .null ∨ (∃ b, v = .bool b) ∨ (∃ n, v = .int n) ∨ ∃ s, v = .text s := by
  induction h with
  | any h =>
    cases h with
    | null => exact .inl rfl
    | bool b => exact .inr (.inl ⟨b, rfl⟩)
    | int => exact .inr (.inr (.inl ⟨_, rfl⟩))
    | text s => exact .inr (.inr (.inr ⟨s, rfl⟩))
    | list | dict => cases hv
  | nothing | null => exact .inl rfl
  | bool b => exact .inr (.inl ⟨b, rfl⟩)
  | int => exact .inr (.inr (.inl ⟨_, rfl⟩))
  | text s => exact .inr (.inr (.inr ⟨s, rfl⟩))
  | choice _ _ ih => exact ih hv
  | _ => cases hv

/-- Where a container is declared, there is one, or null. -/
theorem Holds.null_of_isContainer (h : t.Holds limit v) (ht : t.isContainer = true) (hv : v.isContainer = false) :
    v = .null := by
  induction h with
  | any | int | bool | text | nothing => cases ht
  | null => rfl
  | choice honly _ ih => exact ih (isContainer_of_only honly ht) hv
  | _ => cases hv

/-- What is not written as JSON can serve as a key. -/
theorem Holds.keyFault?_of_not_boxed (h : t.Holds limit v) (hv : v.isBoxed = false) : v.keyFault? = none := by
  rcases Value.not_container_or_frozen hv with hleaf | ⟨xs, rfl⟩
  · rcases h.leaf hleaf with rfl | ⟨b, rfl⟩ | ⟨n, rfl⟩ | ⟨s, rfl⟩
    all_goals rfl
  · rfl

end FieldType

/-! ### Columns on the way in -/

namespace Dialect

/-- A row in the form that the driver takes. -/
def adaptRow (d : Dialect) (row : Row) : Outcome Row := row.mapM fun (column, v) => (d.adapt v).map (column, ·)

variable {t : FieldType} {v p w : Value} {check : Value → Checked Fitted} {x : Fitted}

theorem adapt_eq_text {s : String} (d : Dialect) (hcommon : adaptCommon p = jsonText p) (hw : p.storable = .ok w)
    (hs : Json.write w = .ok s) : d.adapt p = .ok (.text s) := by
  have hjson : jsonText p = .ok (.text s) := by
    rw [jsonText, hw]
    dsimp only [bind, Except.bind]
    rw [hs]
  rw [adapt, hcommon, hjson]
  cases d <;> rfl

/-- A container that is written as JSON becomes JSON text of its stored form. -/
theorem adapt_boxed (d : Dialect) (h : FieldType.Returns (some maxNumeralDigits) check v p w x) (hv : v.isBoxed = true) :
    ∃ s, d.adapt p = .ok (.text s) ∧ Json.read s = .ok w := by
  obtain ⟨s, hs, hread⟩ := Json.readWithin_write h.known
  refine ⟨s, adapt_eq_text d ?_ h.storable hs, hread⟩
  have hp := h.plain
  cases v with
  | list xs | tuple xs =>
    obtain ⟨ps, -, rfl⟩ := map_eq_ok.mp hp
    rfl
  | dict es | entity layout fs =>
    obtain ⟨ps, -, rfl⟩ := map_eq_ok.mp hp
    rfl
  | set frozen xs =>
    obtain ⟨ps, -, hps⟩ := bind_eq_ok.mp hp
    obtain ⟨keys, -, hkeys⟩ := bind_eq_ok.mp hps
    cases hkeys
    cases frozen with
    | false => rfl
    | true => cases hv
  | _ => cases hv

theorem adapt_not_boxed (d : Dialect) {limit : Option Nat} (h : t.Holds limit v) (hv : v.isBoxed = false) :
    d.adapt v = .ok v := by
  rcases Value.not_container_or_frozen hv with hleaf | ⟨xs, rfl⟩
  · rcases h.leaf hleaf with rfl | ⟨b, rfl⟩ | ⟨n, rfl⟩ | ⟨s, rfl⟩
    all_goals cases d <;> rfl
  · cases d <;> rfl

end Dialect

/-! ### Columns on the way out -/

namespace FieldType
open Checked

section
variable {limit : Option Nat} {t : FieldType} {v : Value}

/-- A check of text in the place of a container does not find the container. -/
theorem Holds.check_text (h : t.Holds limit v) (hv : v.isContainer = true) {s : String} {x : Fitted} :
    check t (.text s) = .ok x → x.value = .text s := by
  induction h with
  | any h => exact fun hx => by cases hx; rfl
  | int | bool | text | nothing | null => cases hv
  | choice honly _ ih =>
    intro hx
    rw [check_union honly (Bool.and_false _)] at hx
    exact ih hv hx
  | @listOf _ t _ _ _ => cases t <;> exact fun hx => nomatch hx
  | _ => exact fun hx => nomatch hx

/-! ### Values that are checked as they stand -/

instance : Inhabited Fit := ⟨.perfect⟩

section
variable {check : Value → Checked Fitted} {xs : List Value} (hitems : ∀ x ∈ xs, ∃ fit, check x = .ok ⟨x, fit⟩)
include hitems

theorem all_items : ∃ fitted, Checked.all (checkEach check 0 xs) = .ok fitted ∧ fitted.map Fitted.value = xs := by
  choose! fit hfit using hitems
  have hall : Checked.all (checkEach check 0 (xs.map id)) = .ok (xs.map fun x => ⟨x, fit x⟩) := all_checkEach hfit 0
  rw [List.map_id] at hall
  refine ⟨_, hall, ?_⟩
  rw [List.map_map]
  exact List.map_id xs

theorem checkTuple_itself : ∃ fit, checkTuple check (.tuple xs) = .ok ⟨.tuple xs, fit⟩ := by
  obtain ⟨fitted, hfitted, hvalues⟩ := all_items hitems
  have hcheck : checkTuple check (.tuple xs) = gathered .tuple .perfect (checkEach check 0 xs) := rfl
  rw [hcheck, gathered_eq_ok hfitted, hvalues]
  exact ⟨_, rfl⟩

theorem checkSet_itself (hmembers : Value.Members xs) : ∃ fit, checkSet true check (.set true xs) = .ok ⟨.set true xs, fit⟩ := by
  have hmember : ∀ x ∈ xs, ∃ fit, asMember (check x) = .ok ⟨x, fit⟩ := by
    intro x hx
    obtain ⟨fit, hfit⟩ := hitems x hx
    have hkey : x.keyFault?.isSome = false := by rw [hmembers.keys x hx]; rfl
    exact ⟨fit, by simp only [asMember, hfit, bind, Except.bind, hkey, Bool.false_eq_true, ↓reduceIte]⟩
  obtain ⟨fitted, hfitted, hvalues⟩ := all_items hmember
  have hcheck : checkSet true check (.set true xs) = gathered (fun xs => .set true (distinct xs)) .perfect
      (checkEach (fun x => asMember (check x)) 0 xs) := rfl
  rw [hcheck, gathered_eq_ok hfitted, hvalues, distinct_eq_self hmembers.apart]
  exact ⟨_, rfl⟩

end

/-- A valid value that can serve as a key passes the check of its type as it stands. -/
theorem Holds.check_key (h : t.Holds limit v) : v.keyFault? = none → ∃ fit, check t v = .ok ⟨v, fit⟩ := by
  induction h with
  | any | int | bool | text | nothing => exact fun _ => ⟨_, rfl⟩
  | null h =>
    intro _
    rw [check, h]
    exact ⟨_, rfl⟩
  | tuple => exact fun _ => checkTuple_itself fun _ _ => ⟨_, rfl⟩
  | frozenset _ hmembers => exact fun _ => checkSet_itself (fun _ _ => ⟨_, rfl⟩) hmembers
  | tupleOf _ ih => exact fun hkey => checkTuple_itself fun x hx => ih x hx (Value.itemFault?_eq_none.mp hkey x hx)
  | @setOf frozen _ _ _ hmembers ih =>
    cases frozen with
    | false =>
      intro hkey
      cases hkey
    | true => exact fun _ => checkSet_itself (fun x hx => ih x hx (hmembers.keys x hx)) hmembers
  | @choice _ ts _ v honly _ ih =>
    intro hkey
    cases hnull : ts.any isNothing && v.isNull with
    | false =>
      obtain ⟨fit, hfit⟩ := ih hkey
      exact ⟨fit, (check_union honly hnull).trans hfit⟩
    | true =>
      rw [check, hnull]
      exact ⟨_, rfl⟩
  | list | dict | set | listOf | dictOf | model =>
    intro hkey
    cases hkey

end
end FieldType

theorem Row.decodeColumn_text {s : String} {w : Value} (h : Json.read s = .ok w) : decodeColumn (.text s) = .ok w := by
  simp only [decodeColumn, h]

theorem FieldInfo.column_eq_key {f : FieldInfo} (h : f.alias? ≠ some "") : f.column = f.key := by
  unfold FieldInfo.column FieldInfo.key
  split
  · rename_i a ha
    have hne : a ≠ "" := fun heq => h (heq ▸ ha)
    simp [hne, ha]
  · rename_i hnone
    rw [hnone]
    rfl

/-- The way of a field through a row: its plain form, what the driver takes, and what is decoded of that. -/
structure Cell.Passage (d : Dialect) (c : Cell) (p a y : Value) : Prop where
  plain : c.value.plain false = .ok p
  adapted : d.adapt p = .ok a
  decoded : (if c.type.isContainer then Row.decodeColumn a else .ok a) = .ok y
  boxed : c.value.isBoxed = true → ∃ s w, a = .text s ∧ Json.read s = .ok w
  kept : c.value.isBoxed = false → a = c.value
  found : (∃ x, FieldType.check c.type y = .ok x ∧ x.value = c.value.fullyGiven) ↔
    (c.value.isBoxed = true → c.type.isContainer = true)

namespace Cell
variable {d : Dialect} {c : Cell}

theorem passage_boxed (d : Dialect) (h : c.type.Holds (some maxNumeralDigits) c.value) (hv : c.value.isBoxed = true) :
    ∃ p a y, c.Passage d p a y := by
  obtain ⟨p, w, x, hreturns⟩ := h.canReturn
  obtain ⟨s, hs, hread⟩ := d.adapt_boxed hreturns hv
  have hunboxed {a : Value} : c.value.isBoxed = false → a = c.value := fun hne => nomatch hv.symm.trans hne
  cases ht : c.type.isContainer with
  | true =>
    exact ⟨p, .text s, w, hreturns.plain, hs, by rw [ht, if_pos rfl, Row.decodeColumn_text hread],
      fun _ => ⟨s, w, rfl, hread⟩, hunboxed, iff_of_true ⟨x, hreturns.checked, hreturns.value⟩ fun _ => ht⟩
  | false =>
    refine ⟨p, .text s, .text s, hreturns.plain, hs, by rw [ht, if_neg Bool.false_ne_true],
      fun _ => ⟨s, w, rfl, hread⟩, hunboxed, iff_of_false ?_ fun hall => nomatch ht.symm.trans (hall hv)⟩
    -- What was not decoded is still text, and the check of no type makes a container of text.
    rintro ⟨x, hx, hvalue⟩
    have hcontainer : c.value.isContainer = true := (Bool.and_eq_true_iff.mp hv).1
    rw [h.check_text hcontainer hx] at hvalue
    exact nomatch (congrArg Value.isContainer hvalue).trans (c.value.isContainer_fullyGiven.trans hcontainer)

theorem passage_unboxed (d : Dialect) {limit : Option Nat} (h : c.type.Holds limit c.value) (hv : c.value.isBoxed = false) :
    ∃ p a y, c.Passage d p a y := by
  have hkey := h.keyFault?_of_not_boxed hv
  have hsettled := h.settled hkey
  have hboxed {p : Prop} : c.value.isBoxed = true → p := fun hne => nomatch hv.symm.trans hne
  have hdecoded : (if c.type.isContainer then Row.decodeColumn c.value else .ok c.value) = .ok c.value := by
    cases ht : c.type.isContainer with
    | false => rw [if_neg Bool.false_ne_true]
    | true =>
      rw [if_pos rfl]
      rcases Value.not_container_or_frozen hv with hleaf | ⟨xs, hc⟩
      · rw [h.null_of_isContainer ht hleaf]
        rfl
      · rw [hc]
        rfl
  have hfound : ∃ x, FieldType.check c.type c.value = .ok x ∧ x.value = c.value.fullyGiven := by
    obtain ⟨fit, hfit⟩ := h.check_key hkey
    exact ⟨_, hfit, hsettled.fullyGiven.symm⟩
  exact ⟨c.value, c.value, c.value, hsettled.plain, d.adapt_not_boxed h hv, hdecoded, hboxed, fun _ => rfl,
    iff_of_true hfound hboxed⟩

/-- The value of a field is valid for its type, and inside JSON text whole numbers have no more digits than are read. -/
def Valid (c : Cell) : Prop := c.type.Holds (if c.value.isBoxed then some maxNumeralDigits else none) c.value

theorem exists_passage (d : Dialect) (h : c.Valid) : ∃ p a y, c.Passage d p a y := by
  unfold Valid at h
  cases hv : c.value.isBoxed with
  | true =>
    rw [hv, if_pos rfl] at h
    exact passage_boxed d h hv
  | false => exact passage_unboxed d h hv

/-! ### Entities -/

section
variable {cells : List Cell} {given : List String} {name : String}

section
variable (hdistinct : Cell.Distinct cells)
include hdistinct

/-- The columns that are decoded are those of the containers that are declared. -/
theorem contains_jsonColumns (haliases : ∀ c ∈ cells, c.info.alias? ≠ some "") {c : Cell} (hc : c ∈ cells) :
    (Model.jsonColumns ⟨name, cells.map Cell.field⟩).contains c.info.key = c.type.isContainer := by
  have hmem : c.info.key ∈ Model.jsonColumns ⟨name, cells.map Cell.field⟩ ↔
      ∃ c' ∈ cells, c'.type.isContainer = true ∧ c'.info.column = c.info.key := by
    simp only [Model.jsonColumns, List.mem_eraseDups, List.filterMap_map, List.mem_filterMap]
    refine exists_congr fun c' => and_congr_right fun _ => ?_
    cases ht : c'.type.isContainer <;> simp [Cell.field, ht]
  rw [Bool.eq_iff_iff, List.contains_iff_mem, hmem]
  constructor
  · rintro ⟨c', hc', hcontainer, hcolumn⟩
    rw [FieldInfo.column_eq_key (haliases c' hc')] at hcolumn
    rwa [List.inj_on_of_nodup_map hdistinct.keys hc hc' hcolumn.symm]
  · exact fun hcontainer => ⟨c, hc, hcontainer, FieldInfo.column_eq_key (haliases c hc)⟩

/-- A dictionary with a value for each field is read as an entity if each value passes the check of its type, and as this
    one if what the checks find are its values. -/
theorem validate_eq_ok (y : Cell → Value) :
    Model.validate ⟨name, cells.map Cell.field⟩ (cells.map fun c => (c.info.key, y c)) =
      .ok (Cell.entity name cells given).fullyGiven ↔
    ∀ c ∈ cells, ∃ x, FieldType.check c.type (y c) = .ok x ∧ x.value = c.value.fullyGiven := by
  rw [FieldType.fullyGiven_entity, Model.validate]
  constructor
  · intro h
    cases hcheck : FieldType.checkFields (cells.map fun c => (c.info.key, y c)) (cells.map Cell.field) with
    | error problems =>
      rw [hcheck] at h
      cases h
    | ok r =>
      obtain ⟨fitted, hfitted, rfl⟩ := (FieldType.checkFields_keyed hdistinct).mp hcheck
      rw [hcheck] at h
      have hvalues := congrArg (List.map Prod.snd) (Value.entity.inj (Except.ok.inj h)).2
      dsimp only at hvalues
      rw [List.map_snd_zip (by simp [hfitted.length_eq]), List.map_map] at hvalues
      exact exists_of_map_eq hfitted hvalues
  · intro h
    choose! x hx hvalue using h
    have hfitted : List.Forall₂ (fun (c : Cell) x => FieldType.check c.type (y c) = .ok x) cells (cells.map x) :=
      List.forall₂_map_right_iff.mpr (List.forall₂_same.mpr hx)
    rw [(FieldType.checkFields_keyed hdistinct).mpr ⟨_, hfitted, rfl⟩]
    dsimp only
    rw [FieldType.zip_fitted hvalue]

end
end

/-- A valid entity is stored and read again. Its containers, sets that do not change apart, are stored as JSON text, and
    everything else as it is. The row is decoded, and read as an entity that is the same exactly if each container that is
    JSON text belongs to a type that is looked into for containers: a union that is written with bars is not. -/
theorem stored_entity_returns (d : Dialect) (name : String) (cells : List Cell) (given : List String)
    (hdistinct : Distinct cells) (haliases : ∀ c ∈ cells, c.info.alias? ≠ some "") (hvalid : ∀ c ∈ cells, c.Valid) :
    ∃ row stored decoded, (entity name cells given).toRow false = .ok row ∧ d.adaptRow row = .ok stored ∧
      Row.decode (some ⟨name, cells.map field⟩) stored = .ok decoded ∧
      (∀ c ∈ cells, c.value.isBoxed = true → ∃ s w, Row.get? stored c.info.column = some (.text s) ∧ Json.read s = .ok w) ∧
      (∀ c ∈ cells, c.value.isBoxed = false → Row.get? stored c.info.column = some c.value) ∧
      (Row.toEntity ⟨name, cells.map field⟩ false decoded = .ok (entity name cells given).fullyGiven ↔
        ∀ c ∈ cells, c.value.isBoxed = true → c.type.isContainer = true) ∧
      (entity name cells given).same (entity name cells given).fullyGiven = true := by
  choose! p a y hpassage using fun c hc => Cell.exists_passage d (hvalid c hc)
  -- All three rows have the same columns, so that each step can be taken cell by cell.
  have hrow : (Cell.entity name cells given).toRow false = .ok (cells.map fun c => (c.info.key, p c)) := by
    rw [Cell.entity, Value.toRow, FieldType.plainFields_entries hdistinct.names fun c hc => (hpassage c hc).plain]
    exact congrArg Except.ok (Row.ofList_eq_self (FieldType.nodup_keyed hdistinct))
  have hstored : d.adaptRow (cells.map fun c => (c.info.key, p c)) = .ok (cells.map fun c => (c.info.key, a c)) :=
    mapM_map_eq_ok_map fun c hc => by
      dsimp only
      rw [(hpassage c hc).adapted]
      rfl
  have hdecoded : Row.decode (some ⟨name, cells.map Cell.field⟩) (cells.map fun c => (c.info.key, a c)) =
      .ok (cells.map fun c => (c.info.key, y c)) :=
    mapM_map_eq_ok_map fun c hc => by
      have hcell := (hpassage c hc).decoded
      simp only [contains_jsonColumns hdistinct haliases hc]
      cases ht : c.type.isContainer with
      | true =>
        rw [ht, if_pos rfl] at hcell
        simp only [↓reduceIte, hcell]
        rfl
      | false =>
        rw [ht, if_neg Bool.false_ne_true] at hcell
        simp only [Bool.false_eq_true, ↓reduceIte, hcell]
        rfl
  have hget : ∀ c ∈ cells, Row.get? (cells.map fun c => (c.info.key, a c)) c.info.column = some (a c) := by
    intro c hc
    rw [FieldInfo.column_eq_key (haliases c hc)]
    exact Row.get?_of_mem (FieldType.nodup_keyed hdistinct) (List.mem_map_of_mem hc)
  refine ⟨_, _, _, hrow, hstored, hdecoded, fun c hc hboxed => ?_, fun c hc hboxed => ?_, ?_,
    Cell.same_fullyGiven hdistinct fun c hc => (hvalid c hc).same_fullyGiven⟩
  · obtain ⟨s, w, ha, hread⟩ := (hpassage c hc).boxed hboxed
    exact ⟨s, w, (hget c hc).trans (congrArg some ha), hread⟩
  · exact (hget c hc).trans (congrArg some ((hpassage c hc).kept hboxed))
  · exact (validate_eq_ok hdistinct y).trans (forall₂_congr fun c hc => (hpassage c hc).found)

/-- A post with an alias, an optional list, an author, and a set that does not change. -/
theorem stored_entity_returns_post :
    let author : List Cell := [⟨⟨"name", none, none⟩, .text, .text "Ann"⟩]
    let cells : List Cell :=
      [⟨⟨"id", none, none⟩, .int, .int 7⟩,
       ⟨⟨"tags", some "labels", none⟩, .union true [.listOf false .text, .nothing], .list [.text "new", .text "short"]⟩,
       ⟨⟨"author", none, none⟩, .model "User" (author.map field), entity "User" author []⟩,
       ⟨⟨"seen", none, none⟩, .frozenset, .set true [.int 1]⟩,
       ⟨⟨"parts", none, none⟩, .union false [.listOf true .int, .nothing], .null⟩]
    (Distinct cells ∧ (∀ c ∈ cells, c.info.alias? ≠ some "") ∧ ∀ c ∈ cells, c.Valid) ∧
      ∃ row stored decoded, (entity "Post" cells []).toRow false = .ok row ∧ Dialect.sqlite.adaptRow row = .ok stored ∧
        Row.decode (some ⟨"Post", cells.map field⟩) stored = .ok decoded ∧
        Row.toEntity ⟨"Post", cells.map field⟩ false decoded = .ok (entity "Post" cells []).fullyGiven := by
  intro author cells
  have hdistinct : Distinct cells := ⟨by decide, by decide⟩
  have haliases : ∀ c ∈ cells, c.info.alias? ≠ some "" := by
    simp [cells]
  have hvalid : ∀ c ∈ cells, c.Valid := by
    have hnew : ∀ x ∈ [Value.text "new", .text "short"], FieldType.text.Holds (some maxNumeralDigits) x :=
      List.forall_mem_cons.mpr ⟨.text "new", List.forall_mem_singleton.mpr (.text "short")⟩
    have hauthor : Distinct author ∧ ∀ c ∈ author, c.type.Holds (some maxNumeralDigits) c.value :=
      ⟨⟨by decide, by decide⟩, List.forall_mem_singleton.mpr (.text "Ann")⟩
    have hseen : ∀ x ∈ [Value.int 1], Json.Plain none x := List.forall_mem_singleton.mpr (.int fun _ h => nomatch h)
    have hmembers : Value.Members [.int 1] := ⟨List.forall_mem_singleton.mpr rfl, List.pairwise_singleton _ _⟩
    refine List.forall_mem_cons.mpr ⟨.int (fun _ h => nomatch h), List.forall_mem_cons.mpr ⟨.choice rfl (.listOf hnew), ?_⟩⟩
    refine List.forall_mem_cons.mpr ⟨.model hauthor.1 hauthor.2, List.forall_mem_cons.mpr ⟨.frozenset hseen hmembers, ?_⟩⟩
    exact List.forall_mem_singleton.mpr (.null rfl)
  have hdeclared : ∀ c ∈ cells, c.value.isBoxed = true → c.type.isContainer = true := by
    simp [cells, Value.isBoxed, Value.isContainer, Value.isFrozen, FieldType.isContainer, FieldType.anyContainer]
  obtain ⟨row, stored, decoded, hrow, hstored, hdecoded, -, -, hread, -⟩ :=
    stored_entity_returns .sqlite "Post" cells [] hdistinct haliases hvalid
  exact ⟨⟨hdistinct, haliases, hvalid⟩, row, stored, decoded, hrow, hstored, hdecoded, hread.mpr hdeclared⟩

end Cell
end TableQuery
