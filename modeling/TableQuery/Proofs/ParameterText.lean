import TableQuery.Proofs.MadeQueries
import TableQuery.Proofs.Numerals
import TableQuery.Proofs.ParameterItems

/-! Queries written out as parameters. Each part of the text carries the conditions under which its separators can be
    told from what it says; text that meets them is read as what was written. -/

namespace TableQuery

/-! ### Pieces -/

/-- Text without a blank at either end. -/
structure Trimmed (s : String) : Prop where
  front : ∀ c ∈ s.toList.head?, isBlank c = false
  back : ∀ c ∈ s.toList.getLast?, isBlank c = false

theorem trimmed_iff {s : String} : Trimmed s ↔
    s.toList.head?.all (fun c => !isBlank c) = true ∧ s.toList.getLast?.all (fun c => !isBlank c) = true := by
  simp only [Option.all_eq_true, Bool.not_eq_true']
  exact ⟨fun h => ⟨h.front, h.back⟩, fun ⟨front, back⟩ => ⟨front, back⟩⟩

instance (s : String) : Decidable (Trimmed s) := decidable_of_iff _ trimmed_iff.symm

theorem Trimmed.trimText_eq {s : String} (h : Trimmed s) : trimText s = s := by
  rw [trimText, trim_eq_self h.front h.back, String.ofList_toList]

theorem map_trimText {ss : List String} (h : ∀ s ∈ ss, Trimmed s) : ss.map trimText = ss := by
  rw [List.map_congr_left fun s hs => (h s hs).trimText_eq, List.map_id']

/-- A piece that can stand in a list with a given separator. -/
structure Listed (sep : Char) (s : String) : Prop extends Trimmed s where
  nonempty : s ≠ ""
  unseparated : sep ∉ s.toList

instance (sep : Char) (s : String) : Decidable (Listed sep s) :=
  decidable_of_iff (Trimmed s ∧ s ≠ "" ∧ sep ∉ s.toList)
    ⟨fun ⟨trimmed, nonempty, unseparated⟩ => ⟨trimmed, nonempty, unseparated⟩,
      fun h => ⟨h.toTrimmed, h.nonempty, h.unseparated⟩⟩

/-- A parameter gives text; one that gives the empty text may be left out. -/
def Gives (params : List (String × Value)) (name text : String) : Prop :=
  Row.getD params name = .text text ∨ text = "" ∧ Row.getD params name = .null

namespace Query
variable {params : List (String × Value)} {name text : String}

theorem parameter?_of_gives (h : Gives params name text) :
    parameter? params [name] = if text = "" then none else some text := by
  rcases h with h | ⟨rfl, h⟩
  · by_cases htext : text = "" <;> simp [parameter?, h, Value.isBlankValue, htext, Value.display]
  · simp [parameter?, h, Value.isBlankValue]

theorem parameter?_cons {names : List String} :
    parameter? params (name :: names) = (parameter? params [name]).or (parameter? params names) := by
  simp only [parameter?, List.findSome?_cons, List.findSome?_nil]
  split <;> rfl

/-- A list between separators is taken apart into what was put together. -/
theorem pieces_of_gives {sep : Char} {ss : List String} (h : Gives params name (joinWith (String.singleton sep) ss))
    (hss : ∀ s ∈ ss, Listed sep s) : pieces sep (parameter? params [name]) = ss := by
  rw [parameter?_of_gives h]
  by_cases hne : ss = []
  · rw [hne, joinWith_nil, if_pos rfl]
    rfl
  have hjoin : joinWith (String.singleton sep) ss ≠ "" := by
    rw [ne_eq, joinWith_eq_empty_iff fun s hs => (hss s hs).nonempty]
    exact hne
  have hkept : ∀ s ∈ ss, (!s.isEmpty) = true := by
    intro s hs
    simpa using (hss s hs).nonempty
  rw [if_neg hjoin, pieces, cutText_joinWith hne fun s hs => (hss s hs).unseparated,
    map_trimText fun s hs => (hss s hs).toTrimmed, List.filter_eq_self.mpr hkept]

end Query

/-! ### Items -/

/-- A field as it can be written in an item. A colon or a bar would end it, and blanks in front of it are lost. -/
structure ItemField where
  text : String
  noColon : ':' ∉ text.toList
  noBar : '|' ∉ text.toList
  noBlank : ∀ c ∈ text.toList.head?, isBlank c = false

/-- What an operator is given to compare with: any text without a bar, which may have colons in it, or the members of
    a sequence. A single empty member cannot be told from none. -/
inductive Operand (op : Operator)
  | single (s : String) (takes : op.takesSequence = false) (noBar : '|' ∉ s.toList)
  | members (xs : List String) (takes : op.takesSequence = true) (trimmed : ∀ x ∈ xs, Trimmed x)
    (noComma : ∀ x ∈ xs, ',' ∉ x.toList) (noBar : ∀ x ∈ xs, '|' ∉ x.toList) (notBlank : xs ≠ [""])
    (pair : op.isRange = true → xs.length = 2)

namespace Operand
variable {op : Operator}

/-- The text of an operand: its members with commas in between. -/
def text : Operand op → String
  | single s .. => s
  | members xs .. => joinWith "," xs

def value : Operand op → Value
  | single s .. => .text s
  | members xs .. => .tuple (xs.map .text)

theorem bar_notMem_text (o : Operand op) : '|' ∉ o.text.toList := by
  cases o with
  | single s _ noBar => exact noBar
  | members xs _ _ _ noBar =>
    intro h
    rcases mem_joinWith h with h | ⟨x, hx, h⟩
    · exact absurd h (by decide)
    · exact noBar x hx h

theorem sealed_itemValue (o : Operand op) : Condition.sealed (Query.itemValue op o.text) = o.value := by
  cases o with
  | single s takes => simp [Query.itemValue, takes, Condition.sealed, Value.items?, text, value]
  | members xs takes trimmed noComma _ notBlank =>
    rw [Query.itemValue, if_pos takes]
    by_cases hxs : xs = []
    · simp [hxs, text, value, Condition.sealed, Value.items?]
    have hne : joinWith "," xs ≠ "" := fun h => (eq_of_joinWith_eq_empty (by decide) h).elim hxs notBlank
    have hcut : cutText ',' (joinWith "," xs) = xs := cutText_joinWith hxs noComma
    have hmembers : (xs.map fun x => Value.text (trimText x)) = xs.map .text :=
      List.map_congr_left fun x hx => congrArg Value.text (trimmed x hx).trimText_eq
    rw [if_neg (by simpa [text] using hne), text, hcut, hmembers]
    rfl

theorem checkValue_value (o : Operand op) (field : String) : Condition.checkValue field op o.value = .ok () := by
  have hscalar (xs : List String) : Condition.checkMembers field op (xs.map .text) = .ok () := by
    have hnone : Condition.nonScalar? (xs.map Value.text) = none := by
      simp [Condition.nonScalar?, Value.isScalar]
    rw [Condition.checkMembers, hnone]
  unfold Condition.checkValue
  split
  · rfl
  cases o with
  | single s takes =>
    obtain ⟨hmember, hrange⟩ := Bool.or_eq_false_iff.mp takes
    rw [hmember, hrange]
    rfl
  | members xs takes _ _ _ _ pair =>
    have hlength (hrange : op.isRange = true) : (xs.map Value.text).length = 2 := by
      rw [List.length_map, pair hrange]
    split
    · exact hscalar xs
    · rename_i hmember
      have hrange : op.isRange = true := by
        rcases Bool.or_eq_true_iff.mp takes with h | h
        · exact absurd h hmember
        · exact h
      rw [if_pos hrange]
      dsimp only [value]
      rw [if_pos (hlength hrange), hscalar]

end Operand

/-- A search item. -/
structure SearchItem where
  field : ItemField
  operator : Operator
  operand : Operand operator

/-- An item of an order. -/
structure OrderItem where
  field : ItemField
  direction : Direction

/-- An item is trimmed text without bars: its field does not start with a blank, and its last part is a spelling. -/
theorem ItemField.listed (f : ItemField) {s : String} (hbar : '|' ∉ s.toList)
    (hlast : ∃ c, s.toList.getLast? = some c ∧ isBlank c = false) : Listed '|' (f.text ++ ":" ++ s) := by
  obtain ⟨c, hc, hblank⟩ := hlast
  have hchars : (f.text ++ ":" ++ s).toList = f.text.toList ++ ':' :: s.toList := by
    simp
  refine ⟨⟨?_, ?_⟩, ?_, ?_⟩
  · rw [hchars]
    cases hfront : f.text.toList with
    | nil => exact fun d hd => by cases hd; rfl
    | cons d ds => exact fun e he => f.noBlank e (by rwa [hfront])
  · rw [hchars, List.getLast?_append, List.getLast?_cons, hc]
    intro d hd
    cases hd
    exact hblank
  · intro h
    rw [h] at hchars
    cases hfront : f.text.toList <;> simp [hfront] at hchars
  · rw [hchars]
    simp [f.noBar, hbar]

namespace SearchItem

/-- The text of an item: field, operand and operator with colons in between. -/
def text (i : SearchItem) : String := i.field.text ++ ":" ++ (i.operand.text ++ ":" ++ i.operator.spelling)

def condition (i : SearchItem) : Condition := ⟨i.field.text, i.operand.value, i.operator⟩

theorem listed (i : SearchItem) : Listed '|' i.text := by
  obtain ⟨c, hc, hblank⟩ := i.operator.exists_getLast_spelling
  refine i.field.listed ?_ ⟨c, ?_, hblank⟩
  · simp [i.operand.bar_notMem_text, i.operator.bar_notMem_spelling]
  · rw [String.toList_append, List.getLast?_append, hc]
    rfl

theorem conditionOfItem_text (i : SearchItem) : Query.conditionOfItem i.text = .ok i.condition := by
  have hsays : Query.ItemSays i.text i.field.text i.operand.text i.operator :=
    .spelled i.field.noColon i.operator.colon_notMem_spelling i.operator.canonicalSpelling_spelling
  rw [Query.conditionOfItem_eq_make hsays, Condition.make_eq_ok]
  exact ⟨rfl, Operator.ofValue_spelling i.operator, i.operand.sealed_itemValue.symm,
    i.operand.checkValue_value i.field.text⟩

end SearchItem

namespace OrderItem

/-- The text of an item: field and direction with a colon in between. -/
def text (i : OrderItem) : String := i.field.text ++ ":" ++ i.direction.spelling

def order (i : OrderItem) : OrderBy := ⟨.text i.field.text, i.direction⟩

theorem listed (i : OrderItem) : Listed '|' i.text :=
  i.field.listed i.direction.bar_notMem_spelling i.direction.exists_getLast_spelling

theorem orderOfItem_text (i : OrderItem) : Query.orderOfItem i.text = .ok i.order := by
  rw [text, Query.orderOfItem_eq_map i.field.noColon i.direction.spelling_ne_empty, Direction.ofValue_spelling]
  rfl

end OrderItem

/-! ### Counts -/

/-- A count that can be written: a number from one up that is not too long. -/
structure WrittenCount where
  number : Nat
  positive : 0 < number
  short : digitCount number ≤ maxNumeralDigits

/-- The text of a count, empty if there is none. -/
def countText : Option WrittenCount → String
  | some n => natText n.number
  | none => ""

theorem Query.countedBy_of_gives {params : List (String × Value)} {part : String} {n : Option WrittenCount}
    (h : Gives params part (countText n)) : CountedBy params part (n.map WrittenCount.number) := by
  unfold CountedBy integerParameter
  rw [parameter?_of_gives h]
  cases n with
  | none => exact ⟨.null, rfl, rfl⟩
  | some n =>
    have hne : natText n.number ≠ "" := fun hempty => toList_natText_ne_nil n.number (by rw [hempty]; rfl)
    refine ⟨.int n.number, ?_, ?_⟩
    · rw [countText, if_neg hne]
      dsimp only
      rw [readInt_natText n.short]
    · have hpositive : n.number ≠ 0 := Nat.pos_iff_ne_zero.mp n.positive
      simp [countOf, hpositive]

/-! ### Queries -/

/-- A query as it can be written out as parameters. -/
structure ParameterText where
  search : List SearchItem
  orders : List OrderItem
  filter : List String
  required : List String
  relations : List String
  limit : Option WrittenCount
  page : Option WrittenCount
  pageSize : Option WrittenCount
  filter_listed : ∀ s ∈ filter, Listed ',' s
  required_listed : ∀ s ∈ required, Listed ',' s
  relations_listed : ∀ s ∈ relations, Listed '|' s

namespace ParameterText

/-- The query that is written. All conditions stand in one group. -/
def query (t : ParameterText) : Query where
  filter := t.filter.map .text
  search := if t.search = [] then [] else [⟨t.search.map SearchItem.condition, .and⟩]
  orderBy := t.orders.map OrderItem.order
  limit := t.limit.map WrittenCount.number
  page := t.page.map WrittenCount.number
  pageSize := t.pageSize.map WrittenCount.number
  required := t.required.map .text
  relations := t.relations.map .text

/-- Parameters that write a query: each part is given under its name, and no JSON text or order under another name stands
    beside them. -/
structure WrittenIn (t : ParameterText) (params : List (String × Value)) : Prop where
  search : Gives params "search" (joinWith "|" (t.search.map SearchItem.text))
  orders : Gives params "orderby" (joinWith "|" (t.orders.map OrderItem.text))
  filter : Gives params "filter" (joinWith "," t.filter)
  required : Gives params "required" (joinWith "," t.required)
  relations : Gives params "include" (joinWith "|" t.relations)
  limit : Gives params "limit" (countText t.limit)
  page : Gives params "page" (countText t.page)
  pageSize : Gives params "page_size" (countText t.pageSize)
  noJson : Gives params "query" ""
  noAlias : Gives params "order_by" ""

variable {t : ParameterText} {params : List (String × Value)}

theorem WrittenIn.pieces_search (h : t.WrittenIn params) :
    Query.pieces '|' (Query.parameter? params ["search"]) = t.search.map SearchItem.text := by
  refine Query.pieces_of_gives h.search fun s hs => ?_
  obtain ⟨i, -, rfl⟩ := List.mem_map.mp hs
  exact i.listed

theorem WrittenIn.pieces_orders (h : t.WrittenIn params) :
    Query.pieces '|' (Query.parameter? params ["orderby", "order_by"]) = t.orders.map OrderItem.text := by
  have halias : Query.parameter? params ["order_by"] = none := Query.parameter?_of_gives h.noAlias
  rw [Query.parameter?_cons, halias, Option.or_none]
  refine Query.pieces_of_gives h.orders fun s hs => ?_
  obtain ⟨i, -, rfl⟩ := List.mem_map.mp hs
  exact i.listed

/-- What is written as parameters is read from them, whatever other parameters there are. -/
theorem parameters_read_as_written (h : t.WrittenIn params) : Query.ofParameters params = .ok t.query := by
  have hplain : Query.ofPlainParameters params = .ok t.query := by
    rw [Query.ofPlainParameters_eq_ok, h.pieces_search, h.pieces_orders, Query.pieces_of_gives h.filter t.filter_listed,
      Query.pieces_of_gives h.required t.required_listed, Query.pieces_of_gives h.relations t.relations_listed]
    have hconditions : (t.search.map SearchItem.text).mapM Query.conditionOfItem =
        .ok (t.search.map SearchItem.condition) := mapM_map_eq_ok_map fun i _ => i.conditionOfItem_text
    have horders : (t.orders.map OrderItem.text).mapM Query.orderOfItem = .ok (t.orders.map OrderItem.order) :=
      mapM_map_eq_ok_map fun i _ => i.orderOfItem_text
    refine ⟨⟨_, hconditions, ?_⟩, horders, Query.countedBy_of_gives h.limit, Query.countedBy_of_gives h.page,
      Query.countedBy_of_gives h.pageSize, rfl, rfl, rfl⟩
    simp [query]
  rw [Query.ofParameters, Query.ofParametersWithin, Query.parameter?_of_gives h.noJson, if_pos rfl, hplain]
  rfl

/-- A value with colons and the name of an operator in it, a range, and an order; nothing is required. -/
theorem parameters_read_as_written_range :
    let params : List (String × Value) := [("search", .text "note:from 9:30 :in:LIKE|age:18,30:BETWEEN"),
      ("orderby", .text "age:desc"), ("filter", .text "id,note"), ("include", .text "posts.author|tags"),
      ("limit", .text "20")]
    Query.ofParameters params = .ok { Query.empty with
      filter := [.text "id", .text "note"]
      search := [⟨[⟨"note", .text "from 9:30 :in", .like⟩, ⟨"age", .tuple [.text "18", .text "30"], .between⟩], .and⟩]
      orderBy := [⟨.text "age", .desc⟩]
      limit := some 20
      relations := [.text "posts.author", .text "tags"] } := by
  intro params
  let note : ItemField := ⟨"note", by decide, by decide, fun _ hc => by cases hc; rfl⟩
  let age : ItemField := ⟨"age", by decide, by decide, fun _ hc => by cases hc; rfl⟩
  let t : ParameterText := {
    search := [⟨note, .like, .single "from 9:30 :in" rfl (by decide)⟩,
      ⟨age, .between, .members ["18", "30"] rfl (by decide) (by decide) (by decide) (by decide) fun _ => rfl⟩]
    orders := [⟨age, .desc⟩]
    filter := ["id", "note"]
    required := []
    relations := ["posts.author", "tags"]
    limit := some ⟨20, by decide, by decide⟩
    page := none
    pageSize := none
    filter_listed := by decide
    required_listed := by decide
    relations_listed := by decide }
  exact parameters_read_as_written (t := t) ⟨.inl rfl, .inl rfl, .inl rfl, .inr ⟨rfl, rfl⟩, .inl rfl, .inl rfl, .inr ⟨rfl, rfl⟩,
    .inr ⟨rfl, rfl⟩, .inr ⟨rfl, rfl⟩, .inr ⟨rfl, rfl⟩⟩

end ParameterText
end TableQuery
