import TableQuery.Proofs.StoredEntities

/-! Entities from rows that are not checked. A row whose values are already of the types of their fields becomes the
    same entity with and without checks, if its fields come to take the values of their own columns: without checks the
    columns are renamed to fields first, and then each field takes what stands under its key, or else under its name,
    which may have been meant for another field. -/

namespace TableQuery

namespace FieldType
open Checked

/-! ### Values of single types -/

/-- A type of single values. -/
def isSingle : FieldType → Bool
  | any | int | float | bool | text | instant | nothing => true
  | _ => false

/-- A value that is of a type of single values as it stands, or of one of several such types. -/
inductive HasSingle : FieldType → Value → Prop
  | any (v : Value) : HasSingle .any v
  | int (n : Int) : HasSingle .int (.int n)
  | float (x : Double) : HasSingle .float (.double x)
  | bool (b : Bool) : HasSingle .bool (.bool b)
  | text (s : String) : HasSingle .text (.text s)
  | instant (i : Instant) : HasSingle .instant (.instant i)
  | nothing : HasSingle .nothing .null
  | choice {spelledOut : Bool} {ts : List FieldType} {t : FieldType} {v : Value} (hts : ∀ t ∈ ts, t.isSingle = true)
    (ht : t ∈ ts) (hne : t ≠ .any) (h : HasSingle t v) : HasSingle (.union spelledOut ts) v

/-- Where a check finds that a value suits perfectly, it leaves it as it is. -/
def KeepsPerfect (v : Value) (r : Checked Fitted) : Prop := ∀ x, r = .ok x → x.fit = .perfect → x.value = v

section
variable {v w : Value}

theorem keepsPerfect_same : KeepsPerfect v (Checked.same v) := fun x hx _ => by cases hx; rfl

theorem keepsPerfect_akin : KeepsPerfect v (akin w) := fun x hx hfit => by cases hx; cases hfit

theorem keepsPerfect_converted : KeepsPerfect v (converted w) := fun x hx hfit => by cases hx; cases hfit

theorem keepsPerfect_problem {kind : String} : KeepsPerfect v (problem kind) := fun _ hx => nomatch hx

theorem KeepsPerfect.bind {α : Type} {r : Checked α} {k : α → Checked Fitted} (h : ∀ a, KeepsPerfect v (k a)) :
    KeepsPerfect v (r >>= k) := fun x hx hfit => by
  obtain ⟨a, -, hx⟩ := bind_eq_ok.mp hx
  exact h a x hx hfit

theorem keepsPerfect_int (v : Value) : KeepsPerfect v (Scalar.int v) := by
  refine KeepsPerfect.bind fun cs => ?_
  split
  · unfold Scalar.intOfText
    dsimp only
    repeat' split
    all_goals first | exact keepsPerfect_converted | exact keepsPerfect_problem
  · split
    · exact keepsPerfect_same
    · exact keepsPerfect_converted
    · exact KeepsPerfect.bind fun n => keepsPerfect_converted
    · unfold Scalar.intOfDecimal
      repeat' split
      all_goals first | exact keepsPerfect_converted | exact keepsPerfect_problem
    · exact keepsPerfect_converted
    · exact keepsPerfect_problem

theorem keepsPerfect_float (v : Value) : KeepsPerfect v (Scalar.float v) := by
  refine KeepsPerfect.bind fun cs => ?_
  split
  · unfold Scalar.floatOfText
    split
    · exact keepsPerfect_converted
    · exact keepsPerfect_problem
  · split
    · exact keepsPerfect_same
    · exact keepsPerfect_converted
    · exact keepsPerfect_akin
    · exact keepsPerfect_problem

theorem keepsPerfect_boolOfInt (n : Int) : KeepsPerfect v (Scalar.boolOfInt n) := by
  unfold Scalar.boolOfInt
  repeat' split
  all_goals first | exact keepsPerfect_converted | exact keepsPerfect_problem

theorem keepsPerfect_bool (v : Value) : KeepsPerfect v (Scalar.bool v) := by
  refine KeepsPerfect.bind fun cs => ?_
  split
  · split
    · exact keepsPerfect_converted
    · exact keepsPerfect_problem
  · split
    · exact keepsPerfect_same
    · split
      · exact keepsPerfect_boolOfInt _
      · exact keepsPerfect_problem
    · split
      · split
        · exact keepsPerfect_boolOfInt _
        · exact keepsPerfect_problem
      · exact keepsPerfect_problem

theorem keepsPerfect_text (v : Value) : KeepsPerfect v (Scalar.text v) := by
  unfold Scalar.text
  split
  · exact keepsPerfect_same
  · exact keepsPerfect_converted
  · refine KeepsPerfect.bind fun cs => ?_
    split
    · exact keepsPerfect_converted
    · exact keepsPerfect_problem

theorem keepsPerfect_instant (v : Value) : KeepsPerfect v (Scalar.instant v) := by
  unfold Scalar.instant
  dsimp only
  repeat' split
  all_goals first | exact keepsPerfect_same | exact keepsPerfect_converted | exact keepsPerfect_problem

theorem keepsPerfect_check {t : FieldType} (ht : t.isSingle = true) (v : Value) : KeepsPerfect v (check t v) := by
  cases t with
  | any => exact keepsPerfect_akin
  | int => exact keepsPerfect_int v
  | float => exact keepsPerfect_float v
  | bool => exact keepsPerfect_bool v
  | text => exact keepsPerfect_text v
  | instant => exact keepsPerfect_instant v
  | nothing =>
    rw [check]
    split
    · exact keepsPerfect_same
    · exact keepsPerfect_problem
  | _ => cases ht

/-- A value of a single type that is named suits it perfectly. -/
theorem check_of_hasSingle {t : FieldType} (h : t.HasSingle v) (ht : t.isSingle = true) (hne : t ≠ .any) :
    check t v = .ok ⟨v, .perfect⟩ := by
  cases h with
  | any => exact absurd rfl hne
  | choice => cases ht
  | _ => rfl

/-- Among the results of several types one that suits perfectly is taken, and all of these are alike. -/
theorem settle_of_perfect {results : List (String × Checked Fitted)} (hkeeps : ∀ r ∈ results, KeepsPerfect v r.2)
    {label : String} (hmem : (label, .ok ⟨v, .perfect⟩) ∈ results) : ∃ fit, settle results = .ok ⟨v, fit⟩ := by
  have hfound : ∃ x, (results.filterMap fun r => r.2.toOption).find? (fun x => x.fit == .perfect) = some x := by
    rw [← Option.isSome_iff_exists, List.find?_isSome]
    exact ⟨⟨v, .perfect⟩, List.mem_filterMap.mpr ⟨_, hmem, rfl⟩, rfl⟩
  obtain ⟨x, hx⟩ := hfound
  have hfit : x.fit = .perfect := by simpa using List.find?_some hx
  obtain ⟨⟨label', r⟩, hr, hsome⟩ := List.mem_filterMap.mp (List.mem_of_find?_eq_some hx)
  have hok : r = .ok x := by
    cases r with
    | ok y => exact congrArg Except.ok (Option.some.inj hsome)
    | error ps => cases hsome
  have hvalue : x.value = v := hkeeps _ hr x hok hfit
  have hchoose : choose results = .ok x := by
    rw [choose]
    simp only [hx]
    rfl
  unfold settle
  split
  · rename_i label'' r' heq
    rw [List.mem_singleton] at hmem
    rw [← (Prod.mk.inj hmem).2]
    exact ⟨_, rfl⟩
  · rw [hchoose]
    exact ⟨x.fit, by rw [← hvalue]⟩

/-- What is of its type already passes the check unchanged. -/
theorem HasSingle.check {t : FieldType} (h : t.HasSingle v) : ∃ fit, check t v = .ok ⟨v, fit⟩ := by
  cases h with
  | any => exact ⟨_, rfl⟩
  | @choice spelledOut ts t _ hts ht hne h =>
    have hperfect := check_of_hasSingle h (hts t ht) hne
    rw [FieldType.check]
    split
    · exact ⟨_, rfl⟩
    · rename_i hnull
      have hsome : t.isNothing = false := by
        rw [← Bool.not_eq_true]
        intro hnothing
        cases h with
        | nothing => exact hnull (Bool.and_eq_true_iff.mpr ⟨List.any_eq_true.mpr ⟨_, ht, rfl⟩, rfl⟩)
        | any => exact hne rfl
        | choice => cases hts _ ht
        | _ => cases hnothing
      have hmem : (t.label, .ok ⟨v, .perfect⟩) ∈ checkChoices ts v := by
        rw [checkChoices_eq_map]
        exact List.mem_map.mpr ⟨t, List.mem_filter.mpr ⟨ht, by rw [hsome]; rfl⟩, by rw [hperfect]⟩
      refine settle_of_perfect (fun r hr => ?_) hmem
      rw [checkChoices_eq_map] at hr
      obtain ⟨u, hu, rfl⟩ := List.mem_map.mp hr
      exact keepsPerfect_check (hts u (List.mem_filter.mp hu).1) v
  | _ => exact ⟨_, rfl⟩

end

end FieldType

namespace Model

/-! ### Fields that take their values -/

section
variable {input : List (String × Value)} {fields : List FieldInfo} {f : FieldInfo}

theorem heldUnder?_pair (input : List (String × Value)) (key name : String) : heldUnder? input [key, name] =
    if Row.hasColumn input key then some key else if Row.hasColumn input name then some name else none := by
  simp [heldUnder?, List.find?]
  cases Row.hasColumn input key <;> cases Row.hasColumn input name <;> rfl

theorem fill_cons_some {name : String} (h : heldUnder? input [f.key, f.name] = some name) :
    fill input (f :: fields) = ((f.name, Row.getD input name) :: (fill (Row.erase input name) fields).1,
      f.name :: (fill (Row.erase input name) fields).2) := by
  rw [fill, h]

theorem fill_cons_none (h : heldUnder? input [f.key, f.name] = none) :
    (fill input (f :: fields)).1 = match f.default? with
      | some v => (f.name, v) :: (fill input fields).1
      | none => (fill input fields).1 := by
  rw [fill, h]
  cases f.default? <;> rfl

/-- Only fields are given values. -/
theorem mem_names_of_mem_fill : ∀ {fields : List FieldInfo} {input : List (String × Value)} {entry : String × Value},
    entry ∈ (fill input fields).1 → entry.1 ∈ fields.map (·.name)
  | [], _, _, h => nomatch h
  | f :: fields, input, entry, h => by
    rw [List.map_cons, List.mem_cons]
    cases hheld : heldUnder? input [f.key, f.name] with
    | some name =>
      rw [fill_cons_some hheld] at h
      rcases List.mem_cons.mp h with rfl | h
      · exact .inl rfl
      · exact .inr (mem_names_of_mem_fill h)
    | none =>
      rw [fill_cons_none hheld] at h
      split at h
      · rcases List.mem_cons.mp h with rfl | h
        · exact .inl rfl
        · exact .inr (mem_names_of_mem_fill h)
      · exact .inr (mem_names_of_mem_fill h)

-- By induction on the fields. What is left of the input when it is the turn of a field holds a value under the name of
-- each field that is still to come, and nothing under the key of any of them that is not such a name.
theorem fill_of_turns {w : FieldInfo → Value} : ∀ {fields : List FieldInfo} {input : List (String × Value)},
    (fields.map (·.name)).Nodup → (fields.Pairwise fun f g => f.key ≠ g.name) →
      (∀ f ∈ fields, Row.get? input f.name = some (w f)) →
      (∀ f ∈ fields, ∀ v, Row.get? input f.key = some v → ∃ g ∈ fields, g.name = f.key) →
      fill input fields = (fields.map fun f => (f.name, w f), fields.map (·.name))
  | [], _, _, _, _, _ => rfl
  | f :: fields, input, hnames, hturns, hheld, hkeys => by
    rw [List.map_cons, List.nodup_cons] at hnames
    obtain ⟨hf, hfields⟩ := List.forall_mem_cons.mp hheld
    obtain ⟨hlater, hturns⟩ := List.pairwise_cons.mp hturns
    have hname : Row.hasColumn input f.name = true := by rw [Row.hasColumn, hf]; rfl
    have htaken : heldUnder? input [f.key, f.name] = some f.name := by
      rw [heldUnder?_pair]
      split
      · rename_i hkey
        obtain ⟨v, hv⟩ := Option.isSome_iff_exists.mp hkey
        obtain ⟨g, hg, hgkey⟩ := hkeys f List.mem_cons_self v hv
        rcases List.mem_cons.mp hg with rfl | hg
        · rw [hgkey]
        · exact absurd hgkey.symm (hlater g hg)
      · rfl
    have hne : ∀ g ∈ fields, g.name ≠ f.name := fun g hg heq => hnames.1 (heq ▸ List.mem_map_of_mem hg)
    have hrest : fill (Row.erase input f.name) fields = (fields.map fun f => (f.name, w f), fields.map (·.name)) := by
      refine fill_of_turns hnames.2 hturns (fun g hg => ?_) fun g hg v hv => ?_
      · rw [Row.get?_erase, if_neg (hne g hg)]
        exact hfields g hg
      · rw [Row.get?_erase] at hv
        split at hv
        · cases hv
        · rename_i hkey
          obtain ⟨h, hh, hhkey⟩ := hkeys g (List.mem_cons_of_mem f hg) v hv
          rcases List.mem_cons.mp hh with rfl | hh
          · exact absurd hhkey.symm hkey
          · exact ⟨h, hh, hhkey⟩
    rw [fill_cons_some htaken, hrest, Row.getD_of_get? hf]
    rfl

-- By induction on the fields again, where what each field takes is known by its value. Nothing is taken twice, and a
-- field does not pass over what stands under its key.
theorem turns_of_fill {w : FieldInfo → Value} {source : FieldInfo → String} :
    ∀ {fields : List FieldInfo} {input : List (String × Value)}, (fields.map (·.name)).Nodup →
      (∀ f ∈ fields, ∀ name, Row.get? input name = some (w f) → name = source f) →
      (∀ f ∈ fields, f.default? ≠ some (w f)) →
      (∀ f ∈ fields, Row.get? (fill input fields).1 f.name = some (w f)) →
      (fields.Pairwise fun f g => source f ≠ source g ∧ f.key ≠ source g) ∧
        ∀ f ∈ fields, (source f = f.key ∨ source f = f.name) ∧ Row.get? input (source f) = some (w f)
  | [], _, _, _, _, _ => ⟨.nil, fun _ hf => nomatch hf⟩
  | f :: fields, input, hnames, hsource, hdefault, hvalues => by
    rw [List.map_cons, List.nodup_cons] at hnames
    obtain ⟨hf, hfields⟩ := List.forall_mem_cons.mp hvalues
    obtain ⟨hfsource, hsource⟩ := List.forall_mem_cons.mp hsource
    obtain ⟨hfdefault, hdefault⟩ := List.forall_mem_cons.mp hdefault
    have hne : ∀ g ∈ fields, g.name ≠ f.name := fun g hg heq => hnames.1 (heq ▸ List.mem_map_of_mem hg)
    cases hheld : heldUnder? input [f.key, f.name] with
    | none =>
      rw [fill_cons_none hheld] at hf
      split at hf
      · rename_i v hv
        rw [Row.get?_cons, if_pos rfl] at hf
        exact absurd (hv.trans hf) hfdefault
      · exact absurd (mem_names_of_mem_fill (Row.mem_of_get? hf)) hnames.1
    | some name =>
      rw [fill_cons_some hheld] at hf hfields
      rw [Row.get?_cons, if_pos rfl] at hf
      have hhas : Row.hasColumn input name = true := List.find?_some hheld
      have hname : Row.get? input name = some (w f) := by
        obtain ⟨v, hv⟩ := Option.isSome_iff_exists.mp hhas
        rw [hv, ← hf, Row.getD_of_get? hv]
      have htaken : name = source f := hfsource name hname
      have hcase : name = f.key ∨ ¬ Row.hasColumn input f.key = true ∧ name = f.name := by
        rw [heldUnder?_pair] at hheld
        split at hheld
        · exact .inl (Option.some.inj hheld).symm
        · rename_i hkey
          split at hheld
          · exact .inr ⟨hkey, (Option.some.inj hheld).symm⟩
          · cases hheld
      have hothers : ∀ g ∈ fields, ∀ other, Row.get? (Row.erase input name) other = some (w g) → other = source g := by
        intro g hg other hother
        rw [Row.get?_erase] at hother
        split at hother
        · cases hother
        · exact hsource g hg other hother
      have hfilled : ∀ g ∈ fields, Row.get? (fill (Row.erase input name) fields).1 g.name = some (w g) := by
        intro g hg
        have hg' := hfields g hg
        rwa [Row.get?_cons, if_neg (hne g hg)] at hg'
      obtain ⟨hpairs, hrest⟩ := turns_of_fill hnames.2 hothers hdefault hfilled
      have hleft : ∀ g ∈ fields, source g ≠ name ∧ Row.get? input (source g) = some (w g) := by
        intro g hg
        have hg' := (hrest g hg).2
        rw [Row.get?_erase] at hg'
        split at hg'
        · cases hg'
        · exact ⟨‹_›, hg'⟩
      refine ⟨List.pairwise_cons.mpr ⟨fun g hg => ⟨?_, fun hkey => ?_⟩, hpairs⟩, ?_⟩
      · rw [← htaken]
        exact Ne.symm (hleft g hg).1
      · rcases hcase with rfl | ⟨hmissing, -⟩
        · exact (hleft g hg).1 hkey.symm
        · rw [hkey] at hmissing
          exact hmissing (by rw [Row.hasColumn, (hleft g hg).2]; rfl)
      · intro g hg
        rcases List.mem_cons.mp hg with rfl | hg
        · rw [← htaken]
          refine ⟨?_, hname⟩
          rcases hcase with hkey | ⟨-, hfield⟩
          · exact .inl hkey
          · exact .inr hfield
        · exact ⟨(hrest g hg).1, (hleft g hg).2⟩

end

/-! ### Columns that become fields -/

/-- What a column of a row is called without checks: by the field that it belongs to, else as it is. -/
def rename (m : Model) (column : String) : String := (m.fieldOf? column).getD column

/-- A row as its columns are called without checks. Of several columns that are called alike the last counts. -/
def renamed (m : Model) (row : Row) : Row := Row.ofList (row.map fun entry => (m.rename entry.1, entry.2))

/-- The fields of a model take the values of their own columns from a row: each has a column of its own, none has one
    with the name of a later field, and no further column that is named like a field stands behind that of the field. -/
structure TakesInTurn (m : Model) (row : Row) : Prop where
  apart : (m.fieldInfos.map FieldInfo.column).Nodup
  turns : m.fieldInfos.Pairwise fun f g => f.column ≠ g.name
  unhidden : ∀ f ∈ m.fieldInfos, f.name ∉ m.fieldInfos.map FieldInfo.column →
    ¬ [f.column, f.name].Sublist row.columns

section
variable {m : Model} {row : Row} {f : FieldInfo} {column name : String} {v : Value}

theorem fieldOf?_eq_some (h : m.fieldOf? column = some name) :
    ∃ f ∈ m.fieldInfos, f.column = column ∧ f.name = name := by
  obtain ⟨front, back, hentries, -⟩ := List.lookup_eq_some_iff.mp h
  have hmem : (column, name) ∈ front ++ (column, name) :: back := List.mem_append_right front List.mem_cons_self
  rw [← hentries, List.mem_reverse] at hmem
  simp only [columns, List.map_map, List.mem_map, Function.comp_apply, Prod.mk.injEq] at hmem
  exact hmem

theorem fieldOf?_eq_none_iff : m.fieldOf? column = none ↔ column ∉ m.fieldInfos.map FieldInfo.column := by
  simp only [fieldOf?, lastOf, columns, List.lookup_eq_none_iff, List.mem_reverse, List.map_map, List.mem_map,
    Function.comp_apply, forall_exists_index, and_imp, not_exists, not_and]
  constructor
  · rintro h f hf rfl
    simpa using h (f.column, f.name) f hf rfl
  · rintro h _ f hf rfl
    simpa using Ne.symm (h f hf)

theorem rename_of_notMem (h : column ∉ m.fieldInfos.map FieldInfo.column) : m.rename column = column := by
  rw [rename, fieldOf?_eq_none_iff.mpr h]
  rfl

/-- A column is called like a field, or it is none of the columns of the model. -/
theorem rename_cases (m : Model) (column : String) :
    (∃ f ∈ m.fieldInfos, f.column = column ∧ f.name = m.rename column) ∨
    column ∉ m.fieldInfos.map FieldInfo.column ∧ m.rename column = column := by
  cases h : m.fieldOf? column with
  | some name =>
    have hname : m.rename column = name := by rw [rename, h]; rfl
    rw [hname]
    exact .inl (fieldOf?_eq_some h)
  | none =>
    have hnone := fieldOf?_eq_none_iff.mp h
    exact .inr ⟨hnone, rename_of_notMem hnone⟩

theorem rename_column (hapart : (m.fieldInfos.map FieldInfo.column).Nodup) (hf : f ∈ m.fieldInfos) :
    m.rename f.column = f.name := by
  rcases m.rename_cases f.column with ⟨g, hg, hcolumn, hname⟩ | ⟨hnone, -⟩
  · rw [← hname, List.inj_on_of_nodup_map hapart hg hf hcolumn]
  · exact absurd (List.mem_map_of_mem hf) hnone

theorem toEntity_unchecked (m : Model) (row : Row) : row.toEntity m true = .ok (m.construct (m.renamed row)) := rfl

theorem renamed_append (m : Model) (front back : Row) (name : String) : Row.get? (m.renamed (front ++ back)) name =
    (Row.get? (m.renamed back) name).or (Row.get? (m.renamed front) name) := by
  rw [renamed, List.map_append]
  exact Row.get?_ofList_append ..

theorem get?_renamed_eq_none_iff {name : String} :
    Row.get? (m.renamed row) name = none ↔ ∀ column ∈ row.columns, m.rename column ≠ name := by
  rw [renamed, Row.get?_ofList_eq_none_iff, List.map_map, Row.columns, List.mem_map]
  constructor
  · rintro h _ hcolumn rfl
    obtain ⟨entry, hentry, rfl⟩ := List.mem_map.mp hcolumn
    exact h ⟨entry, hentry, rfl⟩
  · rintro h ⟨entry, hentry, rfl⟩
    exact h entry.1 (List.mem_map_of_mem hentry) rfl

theorem mem_renamed {name : String} (h : Row.get? (m.renamed row) name = some v) :
    ∃ column, (column, v) ∈ row ∧ m.rename column = name := by
  obtain ⟨⟨column, w⟩, hmem, heq⟩ := List.mem_map.mp (Row.mem_of_get?_ofList h)
  obtain ⟨hname, rfl⟩ := Prod.mk.inj heq
  exact ⟨column, hmem, hname⟩

/-- Without checks a field has the value of its column under its name. -/
theorem TakesInTurn.get?_renamed (h : m.TakesInTurn row) (hnames : (m.fieldInfos.map (·.name)).Nodup)
    (hcolumns : row.columns.Nodup) (hf : f ∈ m.fieldInfos) (hv : row.get? f.column = some v) :
    Row.get? (m.renamed row) f.name = some v := by
  obtain ⟨front, back, rfl⟩ := List.append_of_mem (Row.mem_of_get? hv)
  have hback : Row.get? (m.renamed back) f.name = none := by
    rw [get?_renamed_eq_none_iff]
    intro column hbehind hname
    rcases m.rename_cases column with ⟨g, hg, rfl, hgname⟩ | ⟨hnone, hsame⟩
    · rw [List.inj_on_of_nodup_map hnames hg hf (hgname.trans hname)] at hbehind
      rw [Row.columns, List.map_append, List.map_cons] at hcolumns
      exact (List.nodup_cons.mp hcolumns.of_append_right).1 hbehind
    · rw [hsame] at hname
      rw [hname] at hnone hbehind
      refine h.unhidden f hf hnone ?_
      rw [Row.columns, List.map_append, List.map_cons]
      exact ((List.singleton_sublist.mpr hbehind).cons_cons f.column).trans (List.sublist_append_right ..)
  have hentry : Row.get? (m.renamed [(f.column, v)]) f.name = some v := by
    rw [renamed, List.map_singleton, rename_column h.apart hf, Row.get?_ofList]
    simp
  rw [← List.singleton_append, ← List.append_assoc, renamed_append, hback, Option.none_or, renamed_append, hentry,
    Option.some_or]

end

/-! ### Entities with and without checks -/

section
variable {m : Model} {row : Row} {f : FieldInfo} {v : Value} {given : List String} {values : List (String × Value)}

theorem mem_fields_of_mem (hf : f ∈ m.fieldInfos) : ∃ t, (f, t) ∈ m.fields := by
  obtain ⟨⟨_, t⟩, hmem, rfl⟩ := List.mem_map.mp hf
  exact ⟨t, hmem⟩

/-- An entity of a model holds under the name of a field what is recorded for the field. -/
theorem lookup?_entity (hf : f ∈ m.fieldInfos) :
    (Value.entity (.ofFields m.name m.fields given) values).lookup? f.name = Row.get? values f.name := by
  obtain ⟨t, hmem⟩ := mem_fields_of_mem hf
  have hnamed : (Layout.ofFields m.name m.fields given).columns.any (fun entry => entry.1 = f.name) = true := by
    simp only [Layout.columns, Layout.ofFields, List.map_map, List.any_map, List.any_eq_true]
    exact ⟨(f, t), hmem, decide_eq_true rfl⟩
  exact if_pos hnamed

theorem get?_named (hnames : (m.fieldInfos.map (·.name)).Nodup) (w : FieldInfo → Value) (hf : f ∈ m.fieldInfos) :
    Row.get? (m.fieldInfos.map fun f => (f.name, w f)) f.name = some (w f) := by
  refine Row.get?_of_mem ?_ (List.mem_map_of_mem hf)
  rw [List.map_map]
  exact hnames

/-- A row that holds under each key a value of the type of its field passes the checks, and each field has its value. -/
theorem validate_of_hasSingle
    (htyped : ∀ field ∈ m.fields, ∃ v, row.get? field.1.key = some v ∧ field.2.HasSingle v) :
    m.validate row = .ok (.entity (.ofFields m.name m.fields (m.fieldInfos.map (·.name)))
      (m.fieldInfos.map fun f => (f.name, row.getD f.key))) := by
  have hcell : ∀ field ∈ m.fields, row.get? field.1.key = some (row.getD field.1.key) ∧
      ∃ fit, FieldType.check field.2 (row.getD field.1.key) = .ok ⟨row.getD field.1.key, fit⟩ := by
    intro field hfield
    obtain ⟨v, hv, htype⟩ := htyped field hfield
    rw [Row.getD_of_get? hv]
    exact ⟨hv, htype.check⟩
  have : Nonempty Fit := ⟨.perfect⟩
  choose! fit hfit using fun field hfield => (hcell field hfield).2
  let cells : List Cell := m.fields.map fun field => ⟨field.1, field.2, row.getD field.1.key⟩
  have hfields : cells.map Cell.field = m.fields := (List.map_map ..).trans (List.map_id m.fields)
  have hchecked : FieldType.checkFields row (cells.map Cell.field) =
      .ok ⟨(cells.map (·.info.name)).zip ((cells.map fun c => (⟨c.value, fit c.field⟩ : Fitted)).map Fitted.value),
        cells.map (·.info.name), (cells.map fun c => (⟨c.value, fit c.field⟩ : Fitted)).map Fitted.fit⟩ := by
    refine (FieldType.checkFields_eq_ok (w := Cell.value) fun c hc => ?_).mpr
      ⟨_, List.forall₂_map_right_iff.mpr (List.forall₂_same.mpr fun c hc => ?_), rfl⟩
    · obtain ⟨field, hfield, rfl⟩ := List.mem_map.mp hc
      exact (hcell field hfield).1
    · obtain ⟨field, hfield, rfl⟩ := List.mem_map.mp hc
      exact hfit field hfield
  rw [hfields] at hchecked
  rw [validate, hchecked]
  simp [cells, fieldInfos, List.map_map, List.zip_map', Function.comp_def]

/-- Without checks nothing stands under the key of a field but what is meant for a field of that name. -/
theorem exists_name_eq_key (halias : ∀ f ∈ m.fieldInfos, f.alias? ≠ some "") (hf : f ∈ m.fieldInfos)
    (h : Row.get? (m.renamed row) f.key = some v) : ∃ g ∈ m.fieldInfos, g.name = f.key := by
  obtain ⟨column, -, hname⟩ := mem_renamed h
  rcases m.rename_cases column with ⟨g, hg, -, hgname⟩ | ⟨hnone, hsame⟩
  · exact ⟨g, hg, hgname.trans hname⟩
  · rw [hsame] at hname
    rw [hname, ← FieldInfo.column_eq_key (halias f hf)] at hnone
    exact absurd (List.mem_map_of_mem hf) hnone

/-- Where the fields come to take the values of their own columns, an entity without checks is as with them. -/
theorem TakesInTurn.construct_eq (h : m.TakesInTurn row) (hnames : (m.fieldInfos.map (·.name)).Nodup)
    (hcolumns : row.columns.Nodup) (halias : ∀ f ∈ m.fieldInfos, f.alias? ≠ some "")
    (hheld : ∀ f ∈ m.fieldInfos, row.get? f.column = some (row.getD f.column)) :
    m.construct (m.renamed row) = .entity (.ofFields m.name m.fields (m.fieldInfos.map (·.name)))
      (m.fieldInfos.map fun f => (f.name, row.getD f.column)) := by
  have hturns : m.fieldInfos.Pairwise fun f g => f.key ≠ g.name :=
    h.turns.imp_of_mem fun hf _ hne => by rwa [← FieldInfo.column_eq_key (halias _ hf)]
  rw [construct, fill_of_turns (w := fun f => row.getD f.column) hnames hturns
    (fun f hf => h.get?_renamed hnames hcolumns hf (hheld f hf)) fun f hf _ hv => exists_name_eq_key halias hf hv]

/-- A field that has the value of its own column, which no other column has, has it from no column behind. -/
theorem unhidden_of_get?_renamed (hvalues : (row.map Prod.snd).Nodup) (hcolumns : row.columns.Nodup)
    (hheld : (f.column, v) ∈ row) (hnone : f.name ∉ m.fieldInfos.map FieldInfo.column)
    (h : Row.get? (m.renamed row) f.name = some v) : ¬ [f.column, f.name].Sublist row.columns := by
  intro hsub
  obtain ⟨before, behind, hsplit, hmem, hlater⟩ := List.cons_sublist_iff.mp hsub
  obtain ⟨front, back, rfl, rfl, rfl⟩ := List.map_eq_append_iff.mp hsplit
  obtain ⟨⟨_, u⟩, hfront, rfl⟩ := List.mem_map.mp hmem
  have huv : u = v := (Prod.mk.inj (List.inj_on_of_nodup_map hcolumns (List.mem_append_left back hfront) hheld rfl)).2
  have hbehind := List.singleton_sublist.mp hlater
  obtain ⟨y, hy⟩ : ∃ y, Row.get? (m.renamed back) f.name = some y := by
    rw [← Option.ne_none_iff_exists']
    exact fun hmissing => get?_renamed_eq_none_iff.mp hmissing f.name hbehind (rename_of_notMem hnone)
  rw [renamed_append, hy, Option.some_or] at h
  obtain ⟨column, hcolumn, -⟩ := mem_renamed (hy.trans h)
  rw [List.map_append] at hvalues
  exact (List.nodup_append.mp hvalues).2.2 u (List.mem_map_of_mem hfront) v (List.mem_map_of_mem hcolumn) huv

/-- Fields that have the values of their own columns, which no other column has and no default is, have taken them in
    turn. -/
theorem takesInTurn_of_fill (hnames : (m.fieldInfos.map (·.name)).Nodup) (hcolumns : row.columns.Nodup)
    (halias : ∀ f ∈ m.fieldInfos, f.alias? ≠ some "")
    (hheld : ∀ f ∈ m.fieldInfos, row.get? f.column = some (row.getD f.column)) (hvalues : (row.map Prod.snd).Nodup)
    (hdefaults : ∀ f ∈ m.fieldInfos, ∀ v, f.default? = some v → v ∉ row.map Prod.snd)
    (h : ∀ f ∈ m.fieldInfos, Row.get? (fill (m.renamed row) m.fieldInfos).1 f.name = some (row.getD f.column)) :
    m.TakesInTurn row := by
  have hentry : ∀ f ∈ m.fieldInfos, (f.column, row.getD f.column) ∈ row := fun f hf => Row.mem_of_get? (hheld f hf)
  have hsource : ∀ f ∈ m.fieldInfos, ∀ name, Row.get? (m.renamed row) name = some (row.getD f.column) →
      name = m.rename f.column := by
    intro f hf name hname
    obtain ⟨column, hcolumn, rfl⟩ := mem_renamed hname
    exact congrArg (fun entry => m.rename entry.1) (List.inj_on_of_nodup_map hvalues hcolumn (hentry f hf) rfl)
  have hgiven : ∀ f ∈ m.fieldInfos, f.default? ≠ some (row.getD f.column) :=
    fun f hf hdefault => hdefaults f hf _ hdefault (List.mem_map_of_mem (hentry f hf))
  obtain ⟨hpairs, hsources⟩ := turns_of_fill hnames hsource hgiven h
  have hapart : (m.fieldInfos.map FieldInfo.column).Nodup :=
    List.pairwise_map.mpr (hpairs.imp fun hne hcolumn => hne.1 (congrArg m.rename hcolumn))
  refine ⟨hapart, hpairs.imp_of_mem fun hf hg hne => ?_, fun f hf hnone => ?_⟩
  · rw [rename_column hapart hg, ← FieldInfo.column_eq_key (halias _ hf)] at hne
    exact hne.2
  · have htaken := (hsources f hf).2
    rw [rename_column hapart hf] at htaken
    exact unhidden_of_get?_renamed hvalues hcolumns (hentry f hf) hnone htaken

end

/-- A row that has for the column of every field a value of the type of the field becomes an entity with checks and
    without them. With checks each field has the value of its column, and without them the entity is the same if the
    fields take the values of their own columns in turn. If they do not, some field gets another value, unless equal
    values or defaults conceal it. -/
theorem unchecked_entity_agrees (m : Model) (row : Row) (hnames : (m.fieldInfos.map (·.name)).Nodup)
    (hcolumns : row.columns.Nodup) (halias : ∀ f ∈ m.fieldInfos, f.alias? ≠ some "")
    (htyped : ∀ field ∈ m.fields, ∃ v, row.get? field.1.column = some v ∧ field.2.HasSingle v) :
    ∃ checked unchecked, row.toEntity m false = .ok checked ∧ row.toEntity m true = .ok unchecked ∧
      (∀ f ∈ m.fieldInfos, checked.lookup? f.name = row.get? f.column) ∧
      (m.TakesInTurn row → unchecked = checked) ∧
      ((row.map Prod.snd).Nodup → (∀ f ∈ m.fieldInfos, ∀ v, f.default? = some v → v ∉ row.map Prod.snd) →
        (∀ f ∈ m.fieldInfos, unchecked.lookup? f.name = checked.lookup? f.name) → m.TakesInTurn row) := by
  have hheld : ∀ f ∈ m.fieldInfos, row.get? f.column = some (row.getD f.column) := by
    intro f hf
    obtain ⟨t, hmem⟩ := mem_fields_of_mem hf
    obtain ⟨v, hv, -⟩ := htyped _ hmem
    rw [Row.getD_of_get? hv]
    exact hv
  have hvalidated : m.validate row = .ok (.entity (.ofFields m.name m.fields (m.fieldInfos.map (·.name)))
      (m.fieldInfos.map fun f => (f.name, row.getD f.column))) := by
    have hkeys : ∀ f ∈ m.fieldInfos, f.key = f.column := fun f hf => (FieldInfo.column_eq_key (halias f hf)).symm
    have hvalues : m.fieldInfos.map (fun f => (f.name, row.getD f.key)) =
        m.fieldInfos.map fun f => (f.name, row.getD f.column) :=
      List.map_congr_left fun f hf => by rw [hkeys f hf]
    rw [← hvalues]
    refine validate_of_hasSingle fun field hfield => ?_
    rw [hkeys field.1 (List.mem_map_of_mem hfield)]
    exact htyped field hfield
  refine ⟨_, _, hvalidated, m.toEntity_unchecked row, ?_, ?_, ?_⟩
  · intro f hf
    rw [lookup?_entity hf, get?_named hnames (fun f => row.getD f.column) hf, hheld f hf]
  · exact fun h => h.construct_eq hnames hcolumns halias hheld
  · intro hvalues hdefaults hagree
    refine takesInTurn_of_fill hnames hcolumns halias hheld hvalues hdefaults fun f hf => ?_
    have hfield := hagree f hf
    rwa [construct, lookup?_entity hf, lookup?_entity hf, get?_named hnames (fun f => row.getD f.column) hf] at hfield

/-- A field that stands in a column with the name of the next field gets the value of that field without checks. -/
theorem unchecked_entity_agrees_crossed :
    let m : Model := ⟨"M", [(⟨"a", some "b", none⟩, .int), (⟨"b", some "c", none⟩, .int)]⟩
    let row : Row := [("b", .int 1), ("c", .int 2)]
    ∃ checked unchecked, row.toEntity m false = .ok checked ∧ row.toEntity m true = .ok unchecked ∧
      checked.lookup? "a" = some (.int 1) ∧ checked.lookup? "b" = some (.int 2) ∧ unchecked ≠ checked ∧
      ∃ f ∈ m.fieldInfos, unchecked.lookup? f.name ≠ checked.lookup? f.name := by
  intro m row
  obtain ⟨checked, unchecked, hchecked, hunchecked, hvalues, -, hagree⟩ := m.unchecked_entity_agrees row (by decide)
    (by decide) (by decide) (by
      simp only [m, List.forall_mem_cons]
      exact ⟨⟨_, rfl, .int 1⟩, ⟨_, rfl, .int 2⟩, fun _ h => nomatch h⟩)
  have hcrossed : ¬ m.TakesInTurn row := fun h => absurd h.turns (by decide)
  have hdiffers : ∃ f ∈ m.fieldInfos, unchecked.lookup? f.name ≠ checked.lookup? f.name := by
    by_contra hnone
    have hsame : ∀ f ∈ m.fieldInfos, unchecked.lookup? f.name = checked.lookup? f.name :=
      fun f hf => by_contra fun hne => hnone ⟨f, hf, hne⟩
    exact hcrossed (hagree (by simp [row]) (by simp [m, fieldInfos]) hsame)
  refine ⟨checked, unchecked, hchecked, hunchecked, hvalues ⟨"a", some "b", none⟩ (by simp [m, fieldInfos]),
    hvalues ⟨"b", some "c", none⟩ (by simp [m, fieldInfos]), fun heq => ?_, hdiffers⟩
  obtain ⟨f, -, hf⟩ := hdiffers
  exact hf (by rw [heq])

end Model

end TableQuery
