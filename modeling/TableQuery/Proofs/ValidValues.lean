import TableQuery.Model.Rows
import TableQuery.Proofs.JsonRoundTrip

/-! Valid values of the types of a model, and entities as lists of fields with their values. Validity is stated by the types
    alone: it does not speak of what the check of a type would do with a value. -/

namespace TableQuery

/-! ### Values as they are read back -/

namespace Value

mutual

/-- A value with all fields of its entities counted as given. -/
def fullyGiven : Value → Value
  | .list xs => .list (fullyGivenItems xs)
  | .tuple xs => .tuple (fullyGivenItems xs)
  | .set frozen xs => .set frozen (fullyGivenItems xs)
  | .dict es => .dict (fullyGivenEntries es)
  | .entity layout fs => .entity { layout with given := layout.fields.map (·.name) } (fullyGivenEntries fs)
  | v => v

def fullyGivenItems : List Value → List Value
  | [] => []
  | x :: xs => fullyGiven x :: fullyGivenItems xs

def fullyGivenEntries : List (String × Value) → List (String × Value)
  | [] => []
  | (k, x) :: es => (k, fullyGiven x) :: fullyGivenEntries es

end

/-- Members of a set: they can serve as keys, and no two of them are the same. -/
structure Members (xs : List Value) : Prop where
  keys : ∀ x ∈ xs, x.keyFault? = none
  apart : xs.Pairwise fun x y => y.same x = false

end Value

/-- A field of an entity: what is known of it, its type, and its value. -/
structure Cell where
  info : FieldInfo
  type : FieldType
  value : Value

namespace Cell

def field (c : Cell) : FieldInfo × FieldType := (c.info, c.type)

/-- The value by the name of the field. -/
def entry (c : Cell) : String × Value := (c.info.name, c.value)

/-- The entity of some fields. -/
def entity (model : String) (cells : List Cell) (given : List String) : Value :=
  .entity (.ofFields model (cells.map field) given) (cells.map entry)

/-- No two fields have one name, and no two have one key. -/
structure Distinct (cells : List Cell) : Prop where
  names : (cells.map (·.info.name)).Nodup
  keys : (cells.map (·.info.key)).Nodup

end Cell

namespace FieldType

/-- The valid values of a type whose leaves are null, truth values, whole numbers and texts. Where no type is stated, for a
    place or for the items of a container, stand values that JSON knows, and keys among them in sets. Optional types have
    one type beside that of null. -/
inductive Holds (limit : Option Nat) : FieldType → Value → Prop
  | any {v : Value} (h : Json.Plain limit v) : Holds limit .any v
  | int {n : Int} (h : ∀ most ∈ limit, digitCount n.natAbs ≤ most) : Holds limit .int (.int n)
  | bool (b : Bool) : Holds limit .bool (.bool b)
  | text (s : String) : Holds limit .text (.text s)
  | nothing : Holds limit .nothing .null
  | list {xs : List Value} (h : ∀ x ∈ xs, Json.Plain limit x) : Holds limit .list (.list xs)
  | tuple {xs : List Value} (h : ∀ x ∈ xs, Json.Plain limit x) : Holds limit .tuple (.tuple xs)
  | dict {es : List (String × Value)} (hkeys : (es.map Prod.fst).Nodup) (h : ∀ e ∈ es, Json.Plain limit e.2) :
    Holds limit .dict (.dict es)
  | set {xs : List Value} (h : ∀ x ∈ xs, Json.Plain limit x) (hmembers : Value.Members xs) :
    Holds limit .set (.set false xs)
  | frozenset {xs : List Value} (h : ∀ x ∈ xs, Json.Plain limit x) (hmembers : Value.Members xs) :
    Holds limit .frozenset (.set true xs)
  | listOf {plain : Bool} {t : FieldType} {xs : List Value} (h : ∀ x ∈ xs, Holds limit t x) :
    Holds limit (.listOf plain t) (.list xs)
  | tupleOf {t : FieldType} {xs : List Value} (h : ∀ x ∈ xs, Holds limit t x) : Holds limit (.tupleOf t) (.tuple xs)
  | dictOf {t : FieldType} {es : List (String × Value)} (hkeys : (es.map Prod.fst).Nodup)
    (h : ∀ e ∈ es, Holds limit t e.2) : Holds limit (.dictOf t) (.dict es)
  | setOf {frozen : Bool} {t : FieldType} {xs : List Value} (h : ∀ x ∈ xs, Holds limit t x) (hmembers : Value.Members xs) :
    Holds limit (.setOf frozen t) (.set frozen xs)
  | null {spelledOut : Bool} {ts : List FieldType} (h : ts.any isNothing = true) : Holds limit (.union spelledOut ts) .null
  | choice {spelledOut : Bool} {ts : List FieldType} {t : FieldType} {v : Value}
    (honly : (ts.filter fun t => !t.isNothing) = [t]) (h : Holds limit t v) : Holds limit (.union spelledOut ts) v
  | model {name : String} {cells : List Cell} {given : List String} (hdistinct : Cell.Distinct cells)
    (h : ∀ c ∈ cells, Holds limit c.type c.value) :
    Holds limit (.model name (cells.map Cell.field)) (Cell.entity name cells given)

end FieldType

/-! ### Items and entries -/

namespace Value
section
variable {givenOnly : Bool} {xs : List Value} {es : List (String × Value)}

theorem plainItems_eq_mapM : plainItems givenOnly xs = xs.mapM (plain givenOnly) := by
  induction xs with
  | nil => rfl
  | cons x xs ih =>
    rw [plainItems, ih, List.mapM_cons]
    rfl

theorem plainEntries_eq_mapM : plainEntries givenOnly es = es.mapM fun e => (plain givenOnly e.2).map (e.1, ·) := by
  induction es with
  | nil => rfl
  | cons e es ih =>
    obtain ⟨k, x⟩ := e
    rw [plainEntries, ih, List.mapM_cons]
    cases plain givenOnly x <;> rfl

theorem plainFields_eq_mapM (layout : Layout) :
    plainFields false layout es = es.mapM fun e => (plain false e.2).map (layout.keyOf e.1, ·) := by
  induction es with
  | nil => rfl
  | cons e es ih =>
    obtain ⟨k, x⟩ := e
    rw [plainFields, ih, List.mapM_cons]
    cases plain false x <;> rfl

theorem fullyGivenItems_eq_map : fullyGivenItems xs = xs.map fullyGiven := by
  induction xs with
  | nil => rfl
  | cons x xs ih => rw [fullyGivenItems, ih, List.map_cons]

theorem fullyGivenEntries_eq_map : fullyGivenEntries es = es.map fun e => (e.1, e.2.fullyGiven) := by
  induction es with
  | nil => rfl
  | cons e es ih =>
    obtain ⟨k, x⟩ := e
    rw [fullyGivenEntries, ih, List.map_cons]

theorem itemFault?_eq_none : itemFault? xs = none ↔ ∀ x ∈ xs, x.keyFault? = none := by
  induction xs with
  | nil => exact ⟨fun _ _ hx => (nomatch hx), fun _ => rfl⟩
  | cons x xs ih =>
    rw [itemFault?, List.forall_mem_cons, ← ih]
    cases x.keyFault? <;> simp

theorem setOf_of_keys {frozen : Bool} (h : ∀ x ∈ xs, x.keyFault? = none) : setOf frozen xs = .ok (.set frozen xs) := by
  have hkey : ∀ x ∈ xs, asKey x = .ok (id x) := fun x hx => by rw [asKey, h x hx]; rfl
  rw [setOf, mapM_eq_ok_map hkey, List.map_id]
  rfl

/-! ### Values that JSON knows -/

/-- A value that is as plain as it can be, with nothing in it that could count as given. -/
structure Settled (v : Value) : Prop where
  plain : v.plain false = .ok v
  fullyGiven : v.fullyGiven = v

theorem Settled.plainItems (h : ∀ x ∈ xs, x.Settled) : plainItems false xs = .ok xs := by
  rw [plainItems_eq_mapM, mapM_eq_ok_map (h := id) fun x hx => (h x hx).plain, List.map_id]

theorem Settled.fullyGivenItems (h : ∀ x ∈ xs, x.Settled) : fullyGivenItems xs = xs := by
  rw [fullyGivenItems_eq_map, List.map_congr_left (g := id) fun x hx => (h x hx).fullyGiven, List.map_id]

theorem Settled.list (h : ∀ x ∈ xs, x.Settled) : (Value.list xs).Settled := by
  refine ⟨?_, ?_⟩
  · rw [Value.plain, Settled.plainItems h]
    rfl
  · rw [Value.fullyGiven, Settled.fullyGivenItems h]

theorem Settled.tuple (h : ∀ x ∈ xs, x.Settled) : (Value.tuple xs).Settled := by
  refine ⟨?_, ?_⟩
  · rw [Value.plain, Settled.plainItems h]
    rfl
  · rw [Value.fullyGiven, Settled.fullyGivenItems h]

theorem Settled.set {frozen : Bool} (h : ∀ x ∈ xs, x.Settled) (hkeys : ∀ x ∈ xs, x.keyFault? = none) :
    (Value.set frozen xs).Settled := by
  refine ⟨?_, ?_⟩
  · rw [Value.plain, Settled.plainItems h]
    exact setOf_of_keys hkeys
  · rw [Value.fullyGiven, Settled.fullyGivenItems h]

theorem Settled.dict (h : ∀ e ∈ es, e.2.Settled) : (Value.dict es).Settled := by
  refine ⟨?_, ?_⟩
  · rw [Value.plain, plainEntries_eq_mapM, mapM_eq_ok_map (h := id) fun e he => by rw [(h e he).plain]; rfl, List.map_id]
    rfl
  · rw [Value.fullyGiven, fullyGivenEntries_eq_map,
      List.map_congr_left (g := id) fun e he => by rw [(h e he).fullyGiven]; rfl, List.map_id]

variable {limit : Option Nat} {v : Value}

theorem settled_of_plain (h : Json.Plain limit v) : v.Settled := by
  induction h with
  | null | bool | int | text => exact ⟨rfl, rfl⟩
  | list _ ih => exact Settled.list ih
  | dict _ _ ih => exact Settled.dict ih

end
end Value

/-- A value that can serve as a key is settled. -/
theorem FieldType.Holds.settled {limit : Option Nat} {t : FieldType} {v : Value} (h : t.Holds limit v) :
    v.keyFault? = none → v.Settled := by
  induction h with
  | any h => exact fun _ => Value.settled_of_plain h
  | int | bool | text | nothing | null => exact fun _ => ⟨rfl, rfl⟩
  | tuple h => exact fun _ => .tuple fun x hx => Value.settled_of_plain (h x hx)
  | frozenset h hmembers => exact fun _ => .set (fun x hx => Value.settled_of_plain (h x hx)) hmembers.keys
  | tupleOf _ ih => exact fun hkey => .tuple fun x hx => ih x hx (Value.itemFault?_eq_none.mp hkey x hx)
  | choice _ _ ih => exact ih
  | setOf _ hmembers ih => exact fun _ => .set (fun x hx => ih x hx (hmembers.keys x hx)) hmembers.keys
  | list | dict | set | listOf | dictOf | model => exact fun hkey => nomatch hkey

/-! ### Equality -/

namespace Value
section
variable {xs : List Value} {es : List (String × Value)}

theorem same_int (n : Int) : (Value.int n).same (.int n) = true := by
  simp [same, sameNumber, Quantity.ofValue?]

theorem same_bool (b : Bool) : (Value.bool b).same (.bool b) = true := by
  simp [same, sameNumber, Quantity.ofValue?]

theorem sameItems_fullyGiven (h : ∀ x ∈ xs, x.same x.fullyGiven = true) : sameItems xs (fullyGivenItems xs) = true := by
  induction xs with
  | nil => rfl
  | cons x xs ih =>
    obtain ⟨hx, hxs⟩ := List.forall_mem_cons.mp h
    rw [fullyGivenItems, sameItems, hx, ih hxs]
    rfl

theorem sameEntries_of_lookup {fs : List (String × Value)}
    (h : ∀ e ∈ es, ∃ w, List.lookup e.1 fs = some w ∧ e.2.same w = true) : sameEntries es fs = true := by
  induction es with
  | nil => rfl
  | cons e es ih =>
    obtain ⟨⟨w, hw, hsame⟩, hes⟩ := List.forall_mem_cons.mp h
    rw [sameEntries, hw, ih hes]
    simp [hsame]

/-- Entries by different names are found again by their names. -/
theorem sameEntries_fullyGiven (hkeys : (es.map Prod.fst).Nodup) (h : ∀ e ∈ es, e.2.same e.2.fullyGiven = true) :
    sameEntries es (fullyGivenEntries es) = true ∧ es.length = (fullyGivenEntries es).length := by
  rw [fullyGivenEntries_eq_map]
  refine ⟨sameEntries_of_lookup fun e he => ⟨e.2.fullyGiven, ?_, h e he⟩, (List.length_map _).symm⟩
  have hkeysKept : ((es.map fun e => (e.1, e.2.fullyGiven)).map Prod.fst).Nodup := by
    rw [List.map_map]
    exact hkeys
  exact Row.get?_of_mem hkeysKept (List.mem_map_of_mem he)

theorem same_dict (hkeys : (es.map Prod.fst).Nodup) (h : ∀ e ∈ es, e.2.same e.2.fullyGiven = true) :
    (Value.dict es).same (Value.dict es).fullyGiven = true := by
  obtain ⟨hentries, hlength⟩ := sameEntries_fullyGiven hkeys h
  rw [Value.fullyGiven, same, hentries, hlength]
  simp

theorem same_of_plain {limit : Option Nat} {v : Value} (h : Json.Plain limit v) : v.same v.fullyGiven = true := by
  induction h with
  | null => rfl
  | bool b => exact same_bool b
  | int => exact same_int _
  | text s => exact beq_self_eq_true s
  | list _ ih => exact sameItems_fullyGiven ih
  | dict hkeys _ ih => exact same_dict hkeys ih

end
end Value

/-- Which fields of an entity count as given makes no difference to what it is the same as. -/
theorem Cell.same_fullyGiven {name : String} {cells : List Cell} {given : List String} (hdistinct : Cell.Distinct cells)
    (h : ∀ c ∈ cells, c.value.same c.value.fullyGiven = true) :
    (Cell.entity name cells given).same (Cell.entity name cells given).fullyGiven = true := by
  have hnames : ((cells.map Cell.entry).map Prod.fst).Nodup := by
    rw [List.map_map]
    exact hdistinct.names
  have hentries : ∀ e ∈ cells.map Cell.entry, e.2.same e.2.fullyGiven = true := by
    intro e he
    obtain ⟨c, hc, rfl⟩ := List.mem_map.mp he
    exact h c hc
  obtain ⟨hsame, hlength⟩ := Value.sameEntries_fullyGiven hnames hentries
  rw [Cell.entity, Value.fullyGiven, Value.same, hsame, hlength]
  simp

theorem FieldType.Holds.same_fullyGiven {limit : Option Nat} {t : FieldType} {v : Value} (h : t.Holds limit v) :
    v.same v.fullyGiven = true := by
  induction h with
  | any h => exact Value.same_of_plain h
  | int => exact Value.same_int _
  | bool b => exact Value.same_bool b
  | text s => exact beq_self_eq_true s
  | nothing | null => rfl
  | list h | tuple h | set h | frozenset h => exact Value.sameItems_fullyGiven fun x hx => Value.same_of_plain (h x hx)
  | dict hkeys h => exact Value.same_dict hkeys fun e he => Value.same_of_plain (h e he)
  | listOf _ ih | tupleOf _ ih | setOf _ _ ih => exact Value.sameItems_fullyGiven ih
  | dictOf hkeys _ ih => exact Value.same_dict hkeys ih
  | choice _ _ ih => exact ih
  | model hdistinct _ ih => exact Cell.same_fullyGiven hdistinct ih

end TableQuery
