import TableQuery.Model.Conversion
import TableQuery.Proofs.UncheckedRows

/-! Conversion of a record to another model. What the record offers belongs to a field by name, by column or by snake case,
    in this order of preference for each offer. Among the offers that belong to one field there is no such order: the field
    takes the last of them. -/

namespace TableQuery

/-! ### The last of a list -/

/-- The last item of a list with a property. -/
def LastWith {α : Type} (p : α → Prop) (xs : List α) (x : α) : Prop :=
  ∃ front back, xs = front ++ x :: back ∧ p x ∧ ∀ y ∈ back, ¬ p y

section
variable {α : Type} {p q : α → Prop} {xs : List α} {x y : α}

theorem LastWith.mem (h : LastWith p xs x) : x ∈ xs := by
  obtain ⟨front, back, rfl, -⟩ := h
  exact List.mem_append_right front List.mem_cons_self

theorem LastWith.property (h : LastWith p xs x) : p x := by
  obtain ⟨_, _, -, hx, -⟩ := h
  exact hx

theorem LastWith.congr (h : LastWith p xs x) (hiff : ∀ x, p x ↔ q x) : LastWith q xs x := by
  obtain ⟨front, back, heq, hx, hback⟩ := h
  exact ⟨front, back, heq, (hiff x).mp hx, fun y hy hq => hback y hy ((hiff y).mpr hq)⟩

variable [DecidablePred p]

theorem find?_reverse_eq_some : xs.reverse.find? (fun x => decide (p x)) = some x ↔ LastWith p xs x := by
  rw [List.find?_eq_some_iff_append]
  constructor
  · rintro ⟨hx, back, front, heq, hback⟩
    refine ⟨front.reverse, back.reverse, ?_, of_decide_eq_true hx, fun y hy => ?_⟩
    · rw [← List.reverse_reverse xs, heq, List.reverse_append, List.reverse_cons, List.append_assoc,
        List.singleton_append]
    · simpa using hback y (List.mem_reverse.mp hy)
  · rintro ⟨front, back, rfl, hx, hback⟩
    refine ⟨decide_eq_true hx, back.reverse, front.reverse, ?_, fun y hy => ?_⟩
    · rw [List.reverse_append, List.reverse_cons, List.append_assoc, List.singleton_append]
    · simpa using hback y (List.mem_reverse.mp hy)

theorem LastWith.unique (h : LastWith p xs x) (h' : LastWith p xs y) : x = y :=
  Option.some.inj ((find?_reverse_eq_some.mpr h).symm.trans (find?_reverse_eq_some.mpr h'))

theorem exists_lastWith (hx : x ∈ xs) (hp : p x) : ∃ y, LastWith p xs y := by
  cases h : xs.reverse.find? (fun x => decide (p x)) with
  | some y => exact ⟨y, find?_reverse_eq_some.mp h⟩
  | none =>
    have hnone := List.find?_eq_none.mp h x (List.mem_reverse.mpr hx)
    exact absurd (decide_eq_true hp) hnone

end

/-- A lookup among the entries that are made of some of the items. -/
theorem lookup_filterMap {α β : Type} (g : α → Option String) (h : α → β) (k : String) (xs : List α) :
    List.lookup k (xs.filterMap fun x => (g x).map fun key => (key, h x)) =
      (xs.find? fun x => decide (g x = some k)).map h := by
  induction xs with
  | nil => rfl
  | cons x xs ih =>
    rw [List.filterMap_cons, List.find?_cons]
    cases hx : g x with
    | none => simpa using ih
    | some key =>
      by_cases hkey : key = k
      · simp [hkey]
      · have hother : (k == key) = false := beq_eq_false_iff_ne.mpr (Ne.symm hkey)
        simpa [hkey, hother, List.lookup_cons] using ih

namespace Model

theorem lastOf_eq_some {α : Type} {key val : α → String} {xs : List α} {k v : String} :
    lastOf (xs.map fun x => (key x, val x)) k = some v ↔ ∃ x, LastWith (fun x => key x = k) xs x ∧ val x = v := by
  have hmap : (xs.map fun x => (key x, val x)).reverse =
      xs.reverse.filterMap fun x => (some (key x)).map fun c => (c, val x) := by
    rw [← List.map_reverse, ← List.filterMap_eq_map]
    rfl
  rw [lastOf, hmap, lookup_filterMap, Option.map_eq_some_iff]
  simp only [Option.some.injEq, find?_reverse_eq_some]

theorem lastOf_eq_none {α : Type} {key val : α → String} {xs : List α} {k : String} :
    lastOf (xs.map fun x => (key x, val x)) k = none ↔ ∀ x ∈ xs, key x ≠ k := by
  rw [lastOf, List.lookup_eq_none_iff]
  simp only [List.mem_reverse, List.mem_map, forall_exists_index, and_imp, forall_apply_eq_imp_iff₂, bne_iff_ne]
  exact forall₂_congr fun _ _ => ne_comm

/-! ### What belongs to a field -/

/-- What a record offers: a value under a name and a column. -/
structure Offer where
  name : String
  column : String
  value : Value

/-- The offers of a record. An entry of a dictionary has its key for name and column; a field of an entity has both. -/
def offers : Value → List Offer
  | .dict es => es.map fun e => ⟨e.1, e.1, e.2⟩
  | .entity layout fs => layout.columns.map fun c => ⟨c.1, c.2, Row.getD fs c.1⟩
  | _ => []

/-- How an offer comes to belong to a field. -/
inductive Tier
  | name
  | column
  | snake
  deriving DecidableEq

/-- By name is better than by column, and by column better than by snake case. -/
def Tier.rank : Tier → Nat
  | name => 0
  | column => 1
  | snake => 2

/-- An offer belongs to the field that it names, else to the last field in its column, else to the last field that is the
    same in snake case. -/
inductive Belongs (m : Model) (o : Offer) : Tier → FieldInfo → Prop
  | name {f : FieldInfo} (hf : f ∈ m.fieldInfos) (h : f.name = o.name) : Belongs m o .name f
  | column {f : FieldInfo} (hname : ∀ g ∈ m.fieldInfos, g.name ≠ o.name)
    (h : LastWith (fun g => g.column = o.column) m.fieldInfos f) : Belongs m o .column f
  | snake {f : FieldInfo} (hname : ∀ g ∈ m.fieldInfos, g.name ≠ o.name) (hcolumn : ∀ g ∈ m.fieldInfos, g.column ≠ o.column)
    (h : LastWith (fun g => snakeCase g.name = snakeCase o.name) m.fieldInfos f) : Belongs m o .snake f

section
variable {m : Model} {o : Offer} {f : FieldInfo} {tier : Tier} {name : String}

theorem Belongs.mem (h : Belongs m o tier f) : f ∈ m.fieldInfos := by
  cases h with
  | name hf => exact hf
  | column _ h | snake _ _ h => exact h.mem

theorem columnOf?_isSome_iff : (m.columnOf? name).isSome = true ↔ ∃ f ∈ m.fieldInfos, f.name = name := by
  rw [← not_iff_not, Bool.not_eq_true, Option.isSome_eq_false_iff, Option.isNone_iff_eq_none, columnOf?, columns,
    lastOf_eq_none]
  simp only [ne_eq, not_exists, not_and]

theorem fieldOf?_eq_some_iff {column : String} : m.fieldOf? column = some name ↔
    ∃ f, LastWith (fun f => f.column = column) m.fieldInfos f ∧ f.name = name := by
  rw [fieldOf?, columns, List.map_map]
  exact lastOf_eq_some

theorem fieldOfSnake?_eq_some_iff {snake : String} : m.fieldOfSnake? snake = some name ↔
    ∃ f, LastWith (fun f => snakeCase f.name = snake) m.fieldInfos f ∧ f.name = name := lastOf_eq_some

/-- The field that is found for an offer is the one that it belongs to. -/
theorem matching?_eq_some : m.matching? o.name o.column = some name ↔ ∃ f tier, Belongs m o tier f ∧ f.name = name := by
  unfold matching?
  by_cases hname : (m.columnOf? o.name).isSome = true
  · rw [if_pos hname]
    obtain ⟨g, hg, hgname⟩ := columnOf?_isSome_iff.mp hname
    constructor
    · rintro h
      exact ⟨g, .name, .name hg hgname, hgname.trans (Option.some.inj h)⟩
    · rintro ⟨f, tier, h, rfl⟩
      cases h with
      | name hf h => rw [h]
      | column hnone | snake hnone => exact absurd hgname (hnone g hg)
  · rw [if_neg hname]
    have hnone : ∀ g ∈ m.fieldInfos, g.name ≠ o.name := fun g hg heq => hname (columnOf?_isSome_iff.mpr ⟨g, hg, heq⟩)
    cases hfield : m.fieldOf? o.column with
    | some found =>
      obtain ⟨g, hlast, rfl⟩ := fieldOf?_eq_some_iff.mp hfield
      constructor
      · rintro h
        exact ⟨g, .column, .column hnone hlast, Option.some.inj h⟩
      · rintro ⟨f, tier, h, rfl⟩
        cases h with
        | name hf h => exact absurd h (hnone f hf)
        | column _ h => rw [hlast.unique h]
        | snake _ hcolumn => exact absurd hlast.property (hcolumn g hlast.mem)
    | none =>
      have hcolumn : ∀ g ∈ m.fieldInfos, g.column ≠ o.column := fun g hg heq =>
        fieldOf?_eq_none_iff.mp hfield (heq ▸ List.mem_map_of_mem hg)
      dsimp only
      rw [fieldOfSnake?_eq_some_iff]
      constructor
      · rintro ⟨f, h, hf⟩
        exact ⟨f, .snake, .snake hnone hcolumn h, hf⟩
      · rintro ⟨f, tier, h, rfl⟩
        cases h with
        | name hf h => exact absurd h (hnone f hf)
        | column _ h => exact absurd h.property (hcolumn f h.mem)
        | snake _ _ h => exact ⟨f, h, rfl⟩

/-- What is offered to a field. -/
def OfferedTo (m : Model) (f : FieldInfo) (o : Offer) : Prop := ∃ tier, Belongs m o tier f

theorem matching?_eq_field (hnames : (m.fieldInfos.map (·.name)).Nodup) (hf : f ∈ m.fieldInfos) :
    m.matching? o.name o.column = some f.name ↔ m.OfferedTo f o := by
  rw [matching?_eq_some]
  constructor
  · rintro ⟨g, tier, h, hname⟩
    rw [← List.inj_on_of_nodup_map hnames h.mem hf hname]
    exact ⟨tier, h⟩
  · rintro ⟨tier, h⟩
    exact ⟨f, tier, h, rfl⟩

end

/-! ### The row that is checked -/

/-- The offers that belong to a field, by field. -/
def matched (m : Model) (os : List Offer) : List (String × Value) :=
  os.filterMap fun o => (m.matching? o.name o.column).map fun f => (f, o.value)

/-- The offers that belong to a field, by the column of the field. -/
def converted (m : Model) (os : List Offer) : Row :=
  Row.ofList ((Row.ofList (m.matched os)).map fun e => ((m.columnOf? e.1).getD e.1, e.2))

/-- Whether a record holds a value for each of its fields. -/
def Complete : Value → Prop
  | .entity layout fs => ∀ c ∈ layout.columns, ∃ v, Row.get? fs c.1 = some v
  | _ => True

theorem convert_eq_validate (m : Model) {source : Value} (h : Complete source) :
    m.convert source = m.validate (m.converted (offers source)) := by
  cases source with
  | dict es =>
    have hmatched : m.matched (offers (.dict es)) = es.filterMap fun e => (m.matching? e.1 e.1).map fun f => (f, e.2) :=
      List.filterMap_map
    rw [converted, hmatched]
    rfl
  | entity layout fs =>
    have hmatched : (fieldPairs layout.columns m).map (fun pair => (pair.2, Row.getD fs pair.1)) =
        m.matched (offers (.entity layout fs)) := by
      rw [fieldPairs, List.map_filterMap, matched, offers, List.filterMap_map]
      refine List.filterMap_congr fun c _ => ?_
      show Option.map _ (Option.map _ (m.matching? c.1 c.2)) = Option.map _ (m.matching? c.1 c.2)
      rw [Option.map_map]
      rfl
    rw [converted, ← hmatched]
    unfold convert
    dsimp only
    rw [mapM_eq_ok_map (h := fun pair => (pair.2, Row.getD fs pair.1)) fun pair hpair => ?_]
    · rfl
    · obtain ⟨c, hc, hpair⟩ := List.mem_filterMap.mp hpair
      obtain ⟨f, -, rfl⟩ := Option.map_eq_some_iff.mp hpair
      obtain ⟨v, hv⟩ := h c hc
      dsimp only
      rw [hv, Row.getD_of_get? hv]
  | _ => rfl

section
variable {m : Model} {os : List Offer} {f g : FieldInfo} {v : Value} {k : String}

theorem columnOf?_name (hnames : (m.fieldInfos.map (·.name)).Nodup) (hf : f ∈ m.fieldInfos) :
    m.columnOf? f.name = some f.column := by
  obtain ⟨g, hlast⟩ := exists_lastWith (p := fun g => g.name = f.name) hf rfl
  rw [columnOf?, columns, lastOf_eq_some]
  exact ⟨g, hlast, by rw [List.inj_on_of_nodup_map hnames hlast.mem hf hlast.property]⟩

theorem get?_matched (hnames : (m.fieldInfos.map (·.name)).Nodup) (hf : f ∈ m.fieldInfos) :
    Row.get? (Row.ofList (m.matched os)) f.name = some v ↔ ∃ o, LastWith (m.OfferedTo f) os o ∧ o.value = v := by
  rw [Row.get?_ofList, matched, ← List.filterMap_reverse, lookup_filterMap, Option.map_eq_some_iff]
  have hoffered (o : Offer) := matching?_eq_field (o := o) hnames hf
  constructor
  · rintro ⟨o, ho, rfl⟩
    exact ⟨o, (find?_reverse_eq_some.mp ho).congr hoffered, rfl⟩
  · rintro ⟨o, ho, rfl⟩
    exact ⟨o, find?_reverse_eq_some.mpr (ho.congr fun o => (hoffered o).symm), rfl⟩

/-- What stands under a key was offered last to a field with this column. -/
theorem get?_converted (hnames : (m.fieldInfos.map (·.name)).Nodup) (h : (m.converted os).get? k = some v) :
    ∃ g ∈ m.fieldInfos, g.column = k ∧ ∃ o, LastWith (m.OfferedTo g) os o ∧ o.value = v := by
  obtain ⟨⟨name, w⟩, hmem, hentry⟩ := List.mem_map.mp (Row.mem_of_get?_ofList h)
  obtain ⟨hcolumn, rfl⟩ := Prod.mk.inj hentry
  have hheld := Row.get?_of_mem (Row.nodup_ofList _) hmem
  obtain ⟨o, -, ho⟩ := List.mem_filterMap.mp (Row.mem_of_get?_ofList hheld)
  obtain ⟨found, hfound, hpair⟩ := Option.map_eq_some_iff.mp ho
  obtain ⟨rfl, -⟩ := Prod.mk.inj hpair
  obtain ⟨g, tier, hbelongs, rfl⟩ := matching?_eq_some.mp hfound
  rw [columnOf?_name hnames hbelongs.mem] at hcolumn
  exact ⟨g, hbelongs.mem, hcolumn, (get?_matched hnames hbelongs.mem).mp hheld⟩

/-- What is offered to a field leaves something under its column. -/
theorem exists_get?_converted (hnames : (m.fieldInfos.map (·.name)).Nodup) (hg : g ∈ m.fieldInfos) {o : Offer}
    (ho : LastWith (m.OfferedTo g) os o) : ∃ v, (m.converted os).get? g.column = some v := by
  have hheld := (get?_matched hnames hg).mpr ⟨o, ho, rfl⟩
  cases h : (m.converted os).get? g.column with
  | some v => exact ⟨v, rfl⟩
  | none =>
    refine absurd ?_ (Row.get?_ofList_eq_none_iff.mp h)
    rw [List.map_map]
    refine List.mem_map.mpr ⟨_, Row.mem_of_get? hheld, ?_⟩
    show (m.columnOf? g.name).getD g.name = g.column
    rw [columnOf?_name hnames hg]
    rfl

/-- The key of the field is its column, and no other field has this column. -/
def StandsAlone (m : Model) (f : FieldInfo) : Prop := f.key = f.column ∧ ∀ g ∈ m.fieldInfos, g.column = f.column → g = f

/-- A field that stands alone takes the last of what is offered to it. -/
theorem get?_converted_alone (hnames : (m.fieldInfos.map (·.name)).Nodup) (hf : f ∈ m.fieldInfos) (halone : m.StandsAlone f) :
    (m.converted os).get? f.key = some v ↔ ∃ o, LastWith (m.OfferedTo f) os o ∧ o.value = v := by
  rw [halone.1]
  have hlast {v : Value} (h : (m.converted os).get? f.column = some v) :
      ∃ o, LastWith (m.OfferedTo f) os o ∧ o.value = v := by
    obtain ⟨g, hg, hcolumn, hoffer⟩ := get?_converted hnames h
    rwa [halone.2 g hg hcolumn] at hoffer
  refine ⟨hlast, ?_⟩
  rintro ⟨o, ho, rfl⟩
  classical
  obtain ⟨v, hv⟩ := exists_get?_converted hnames hf ho
  obtain ⟨o', ho', rfl⟩ := hlast hv
  rw [ho.unique ho']
  exact hv

end

/-! ### What the fields hold -/

/-- A field that is given a value holds what its type makes of the value. -/
theorem get?_checkFields {input : List (String × Value)} {f : FieldInfo} {t : FieldType} {v : Value}
    (hv : Row.get? input f.key = some v) : ∀ {fields : List (FieldInfo × FieldType)} {r : FieldType.FieldResults},
    FieldType.checkFields input fields = .ok r → (fields.map fun field => field.1.name).Nodup → (f, t) ∈ fields →
      ∃ x, FieldType.check t v = .ok x ∧ Row.get? r.values f.name = some x.value
  | [], _, _, _, hmem => nomatch hmem
  | (g, u) :: fields, r, h, hnames, hmem => by
    rw [List.map_cons, List.nodup_cons] at hnames
    have hother {x : Value} {values : List (String × Value)} (hmem : (f, t) ∈ fields) :
        Row.get? ((g.name, x) :: values) f.name = Row.get? values f.name := by
      rw [Row.get?_cons, if_neg]
      exact ne_of_mem_of_not_mem (List.mem_map_of_mem (f := fun field => field.1.name) hmem) hnames.1
    unfold FieldType.checkFields at h
    dsimp only at h
    split at h
    · rename_i w hw
      split at h
      · rename_i x hx
        have hcheck := mapError_eq_ok.mp hx
        obtain ⟨r', hrest, rfl⟩ := map_eq_ok.mp h
        rcases List.mem_cons.mp hmem with heq | hmem
        · cases heq
          cases hv.symm.trans hw
          exact ⟨x, hcheck, by rw [Row.get?_cons, if_pos rfl]⟩
        · obtain ⟨y, hy, hheld⟩ := get?_checkFields hv hrest hnames.2 hmem
          exact ⟨y, hy, (hother hmem).trans hheld⟩
      · cases h
    · rename_i hnone
      split at h
      · obtain ⟨r', hrest, rfl⟩ := map_eq_ok.mp h
        rcases List.mem_cons.mp hmem with heq | hmem
        · cases heq
          cases hv.symm.trans hnone
        · obtain ⟨y, hy, hheld⟩ := get?_checkFields hv hrest hnames.2 hmem
          exact ⟨y, hy, (hother hmem).trans hheld⟩
      · cases h

/-- A field of a checked entity that was given a value holds what its type makes of it. -/
theorem lookup?_of_validate {m : Model} {input : List (String × Value)} {e : Value}
    (hnames : (m.fieldInfos.map (·.name)).Nodup) (h : m.validate input = .ok e) {f : FieldInfo} {t : FieldType} {v : Value}
    (hmem : (f, t) ∈ m.fields) (hv : Row.get? input f.key = some v) :
    ∃ x, FieldType.check t v = .ok x ∧ e.lookup? f.name = some x.value := by
  unfold validate at h
  split at h
  · rename_i r hr
    cases h
    rw [fieldInfos, List.map_map] at hnames
    obtain ⟨x, hx, hheld⟩ := get?_checkFields hv hr hnames hmem
    exact ⟨x, hx, (lookup?_entity (List.mem_map_of_mem hmem)).trans hheld⟩
  · cases h

/-! ### Preference -/

/-- An offer to a field to which no better one is made. -/
def Prevails (m : Model) (os : List Offer) (f : FieldInfo) (o : Offer) : Prop :=
  o ∈ os ∧ ∃ tier, Belongs m o tier f ∧ ∀ o' ∈ os, ∀ tier', Belongs m o' tier' f → tier.rank ≤ tier'.rank

/-- A field is given the value of an offer that prevails if there are offers to it, and nothing otherwise. -/
def GivenByPreference (m : Model) (os : List Offer) (f : FieldInfo) (given : Option Value) : Prop := match given with
  | some v => ∃ o, Prevails m os f o ∧ o.value = v
  | none => ∀ o ∈ os, ¬ m.OfferedTo f o

/-- What a field is given is the last of what is offered to it. -/
structure TakesLast (m : Model) (os : List Offer) (f : FieldInfo) (given : Option Value) : Prop where
  last : ∀ v, given = some v ↔ ∃ o, LastWith (m.OfferedTo f) os o ∧ o.value = v
  /-- A single offer is taken wherever it stands. -/
  single : ∀ o ∈ os, m.OfferedTo f o → (∀ o' ∈ os, m.OfferedTo f o' → o' = o) → given = some o.value
  /-- The field is given by preference if the last offer prevails. -/
  preferred : (∀ o, LastWith (m.OfferedTo f) os o → Prevails m os f o) → GivenByPreference m os f given
  /-- Where all values are different, it is so only then. -/
  prevailing : (os.map Offer.value).Nodup → GivenByPreference m os f given →
    ∀ o, LastWith (m.OfferedTo f) os o → Prevails m os f o

theorem takesLast_of_last {m : Model} {os : List Offer} {f : FieldInfo} {given : Option Value}
    (hlast : ∀ v, given = some v ↔ ∃ o, LastWith (m.OfferedTo f) os o ∧ o.value = v) : TakesLast m os f given where
  last := hlast
  single o ho hoffered hsingle := by
    classical
    obtain ⟨o', ho'⟩ := exists_lastWith ho hoffered
    exact (hlast o.value).mpr ⟨o', ho', by rw [hsingle o' ho'.mem ho'.property]⟩
  preferred h := by
    classical
    cases hv : given with
    | some v =>
      obtain ⟨o, ho, hvalue⟩ := (hlast v).mp hv
      exact ⟨o, h o ho, hvalue⟩
    | none =>
      intro o ho hoffered
      obtain ⟨o', ho'⟩ := exists_lastWith ho hoffered
      cases hv.symm.trans ((hlast o'.value).mpr ⟨o', ho', rfl⟩)
  prevailing hvalues h o ho := by
    rw [(hlast o.value).mpr ⟨o, ho, rfl⟩] at h
    obtain ⟨o', hprevails, hvalue⟩ := h
    rwa [List.inj_on_of_nodup_map hvalues hprevails.1 ho.mem hvalue] at hprevails

end Model

end TableQuery
