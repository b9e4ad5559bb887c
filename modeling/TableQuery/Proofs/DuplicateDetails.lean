import TableQuery.Proofs.DecisiveCodes

/-! Field and value of a duplicate, as they are cut out of what the two servers say of it. A MySQL server names the
    key, of which the part behind the last underscore is taken for the field; a PostgreSQL server names the column
    itself. Values may hold anything that does not end them: quotes end the one, line breaks the other. -/

namespace TableQuery

/-! ### The last part of a name -/

section
variable {sep : Char} {s : String}

theorem afterLast_of_notMem (h : sep ∉ s.toList) : afterLast sep s = s := by
  have hall : ∀ c ∈ s.toList.reverse, decide (c ≠ sep) = true := fun c hc =>
    decide_eq_true fun heq => h (heq ▸ List.mem_reverse.mp hc)
  rw [afterLast, List.takeWhile_eq_self_iff.mpr hall, List.reverse_reverse, String.ofList_toList]

theorem afterLast_append_cons (sep : Char) (front back : List Char) :
    afterLast sep (String.ofList (front ++ sep :: back)) = afterLast sep (String.ofList back) := by
  have hstop : List.takeWhile (· ≠ sep) (sep :: front.reverse) = [] := by simp
  have hreverse : (front ++ sep :: back).reverse = back.reverse ++ sep :: front.reverse := by simp
  rw [afterLast, afterLast, String.toList_ofList, String.toList_ofList, hreverse, List.takeWhile_append, hstop,
    List.append_nil]
  split
  · rename_i hlength
    rw [(List.takeWhile_sublist _).eq_of_length hlength]
  · rfl

/-- What stands behind a separator, if the separator does not occur in it. -/
theorem afterLast_behind {front back : String} (h : sep ∉ back.toList) :
    afterLast sep (front ++ String.singleton sep ++ back) = back := by
  have hlist : front ++ String.singleton sep ++ back = String.ofList (front.toList ++ sep :: back.toList) := by
    rw [← String.toList_inj]
    simp
  rw [hlist, afterLast_append_cons, String.ofList_toList, afterLast_of_notMem h]

end

namespace PatternPart

/-! ### Matches at the start -/

section
variable {parts : List PatternPart} {captures : List String} {cs front back : List Char} {c : Char}

theorem searchFrom_of_matchAt (h : matchAt parts cs = some captures) : searchFrom parts cs = some captures := by
  cases cs with
  | nil => exact h
  | cons c cs => rw [searchFrom, h]

@[simp]
theorem matchAt_exactly_append (piece : List Char) :
    matchAt (.exactly piece :: parts) (piece ++ cs) = matchAt parts cs := by
  rw [matchAt, stripFront?_append]

/-- A run takes what is of its class, up to the first character that is not. -/
theorem matchAt_run_append {isIn : Char → Bool} (hfront : ∀ d ∈ front, isIn d = true) (hc : isIn c = false) :
    matchAt (.run isIn :: parts) (front ++ c :: back) =
      (matchAt parts (c :: back)).map (String.ofList front :: ·) := by
  have hstop : ¬ isIn c = true := by rw [hc]; decide
  rw [matchAt, List.takeWhile_append_of_pos hfront, List.dropWhile_append_of_pos hfront,
    List.takeWhile_cons_of_neg hstop, List.dropWhile_cons_of_neg hstop, List.append_nil]

theorem matchAt_run1_append {isIn : Char → Bool} (hne : front ≠ []) (hfront : ∀ d ∈ front, isIn d = true)
    (hc : isIn c = false) :
    matchAt (.run1 isIn :: parts) (front ++ c :: back) =
      (matchAt parts (c :: back)).map (String.ofList front :: ·) := by
  have hstop : ¬ isIn c = true := by rw [hc]; decide
  rw [matchAt, List.takeWhile_append_of_pos hfront, List.dropWhile_append_of_pos hfront,
    List.takeWhile_cons_of_neg hstop, List.dropWhile_cons_of_neg hstop, List.append_nil,
    if_neg (by rwa [List.isEmpty_iff])]

theorem splitLast?_append (h : c ∉ back) : splitLast? c (front ++ c :: back) = some (front, back) := by
  have hback : ∀ d ∈ back.reverse, decide (d ≠ c) = true := fun d hd =>
    decide_eq_true fun heq => h (heq ▸ List.mem_reverse.mp hd)
  have hdrop : (front ++ c :: back).reverse.dropWhile (· ≠ c) = c :: front.reverse := by
    rw [List.reverse_append, List.reverse_cons, List.append_assoc, List.dropWhile_append_of_pos hback]
    simp
  have hrest : (front ++ c :: back).drop (front.reverse.length + 1) = back := by
    rw [List.length_reverse, List.drop_append, List.drop_of_length_le (Nat.le_succ _)]
    simp
  rw [splitLast?, hdrop]
  dsimp only
  rw [hrest, List.reverse_reverse]

/-- A stretch goes on to the last occurrence of its character, where the text is one line. -/
theorem matchAt_upToLast_append (hline : '\n' ∉ front ++ c :: back) (h : c ∉ back) :
    matchAt (.upToLast c :: parts) (front ++ c :: back) =
      (matchAt parts (c :: back)).map (String.ofList front :: ·) := by
  have hall : ∀ d ∈ front ++ c :: back, decide (d ≠ '\n') = true := fun d hd =>
    decide_eq_true fun heq => hline (heq ▸ hd)
  have hnone : (front ++ c :: back).dropWhile (· ≠ '\n') = [] := List.dropWhile_eq_nil_iff.mpr hall
  rw [matchAt, List.takeWhile_eq_self_iff.mpr hall, splitLast?_append h, hnone]
  dsimp only
  rw [List.append_nil]

end

end PatternPart

namespace Classification

/-! ### What the servers say -/

/-- What a MySQL server says of a value that is there already in a key of a table. -/
def duplicateEntry (value table field : String) : String :=
  "Duplicate entry " ++ inQuotes value ++ " for key " ++ inQuotes (table ++ "." ++ field)

/-- The detail with which a PostgreSQL server says that a value is there already. -/
def keyExists (field value : String) : String := "Key (" ++ field ++ ")=(" ++ value ++ ") already exists."

section
variable {table field : String}

/-- Any customary beginning of a key ends with an underscore, so it makes no difference for the last part. -/
theorem afterLast_withoutFront (key : String) :
    afterLast '_' (withoutFront ["uk_", "idx_", "uniq_"] key) = afterLast '_' key := by
  have hfronts : ∀ front ∈ ["uk_", "idx_", "uniq_"], ∃ start, front.toList = start ++ ['_'] := by
    simp only [List.forall_mem_cons, List.not_mem_nil, false_implies, implies_true, and_true]
    exact ⟨⟨['u', 'k'], rfl⟩, ⟨['i', 'd', 'x'], rfl⟩, ['u', 'n', 'i', 'q'], rfl⟩
  unfold withoutFront
  split
  · rename_i rest hrest
    obtain ⟨front, hmem, hstrip⟩ := List.exists_of_findSome?_eq_some hrest
    obtain ⟨start, hstart⟩ := hfronts front hmem
    have hkey : key = String.ofList (start ++ '_' :: rest) := by
      rw [← String.toList_inj, String.toList_ofList, stripFront?_eq_some.mp hstrip, hstart]
      simp
    rw [hkey, afterLast_append_cons]
  · rfl

/-- The field of a key that is named after a column: the part of the column behind its last underscore. -/
theorem fieldOfKey_behind_table (hfield : IsWord field) (hprimary : field ≠ "PRIMARY") :
    fieldOfKey (table ++ "." ++ field) = afterLast '_' field := by
  have hdot : '.' ∈ (table ++ "." ++ field).toList := by simp
  have hlast : afterLast '.' (table ++ "." ++ field) = field :=
    afterLast_behind (hfield.notMem (by decide))
  have hwhole : ¬ table ++ "." ++ field = "PRIMARY" := by
    intro heq
    rw [heq] at hdot
    revert hdot
    decide
  have hend : endsWith ".PRIMARY".toList (table ++ "." ++ field).toList = false := by
    rw [endsWith, ← Bool.not_eq_true, startsWith_iff, List.reverse_prefix]
    rintro ⟨front, hfront⟩
    have hsplit : table ++ "." ++ field = String.ofList front ++ String.singleton '.' ++ "PRIMARY" := by
      rw [← String.toList_inj, ← hfront]
      simp
    rw [hsplit, afterLast_behind (by decide)] at hlast
    exact hprimary hlast.symm
  have hcontains : (table ++ "." ++ field).toList.contains '.' = true := List.contains_iff_mem.mpr hdot
  rw [fieldOfKey, hend, decide_eq_false hwhole, Bool.or_false, if_neg Bool.false_ne_true, hcontains, if_pos rfl, hlast,
    afterLast_withoutFront]

end

/-! ### What is cut out -/

section
variable {table field value : String}

theorem search_duplicateEntry (htable : IsWord table) (hfield : IsWord field) (hvalue : '\'' ∉ value.toList) :
    PatternPart.search duplicatePattern (duplicateEntry value table field) =
      some [value, table ++ "." ++ field] := by
  have hquiet : ∀ {s : String}, '\'' ∉ s.toList → ∀ c ∈ s.toList, notQuote c = true := fun hs c hc =>
    decide_eq_true fun heq => hs (heq ▸ hc)
  have hkey : '\'' ∉ (table ++ "." ++ field).toList := by
    simp [htable.notMem (c := '\'') (by decide), hfield.notMem (c := '\'') (by decide)]
  have hne : (table ++ "." ++ field).toList ≠ [] := by simp
  have hfront : "Duplicate entry '" = "Duplicate entry " ++ "'" := by decide
  have hmiddle : "' for key '" = "'" ++ " for key " ++ "'" := by decide
  have htext : duplicateEntry value table field =
      "Duplicate entry '" ++ (value ++ ("' for key '" ++ ((table ++ "." ++ field) ++ "'"))) := by
    rw [hfront, hmiddle]
    unfold duplicateEntry inQuotes
    simp only [String.append_assoc]
  have hbetween : "' for key '".toList = '\'' :: " for key '".toList := by decide
  have hclose : "'".toList = ['\''] := by decide
  have hrest : PatternPart.matchAt [exactly "'"] ['\''] = some [] := by decide
  refine PatternPart.searchFrom_of_matchAt ?_
  rw [htext, String.toList_append, String.toList_append, String.toList_append, String.toList_append,
    duplicatePattern, exactly, PatternPart.matchAt_exactly_append, hbetween, List.cons_append,
    PatternPart.matchAt_run_append (hquiet hvalue) rfl, ← List.cons_append, exactly, ← hbetween,
    PatternPart.matchAt_exactly_append, hclose, PatternPart.matchAt_run1_append hne (hquiet hkey) rfl, hrest,
    String.ofList_toList, String.ofList_toList]
  rfl

theorem ofDuplicate_duplicateEntry (htable : IsWord table) (hfield : IsWord field) (hprimary : field ≠ "PRIMARY")
    (hvalue : '\'' ∉ value.toList) :
    ofDuplicate (duplicateEntry value table field) =
      .make .duplicate (duplicateValue value (afterLast '_' field)) (.text (afterLast '_' field)) (.text value) := by
  rw [ofDuplicate, search_duplicateEntry htable hfield hvalue]
  dsimp only
  rw [fieldOfKey_behind_table hfield hprimary]

theorem keyDetail?_keyExists (hfield : IsWord field) (hne : field ≠ "") (hvalue : '\n' ∉ value.toList) :
    keyDetail? (keyExists field value) = some (field, value) := by
  have hname : ∀ c ∈ field.toList, decide (c ≠ ')') = true := fun c hc =>
    decide_eq_true fun heq => hfield.notMem (by decide) (heq ▸ hc)
  have hsome : field.toList ≠ [] := fun hnil => hne (String.toList_eq_nil_iff.mp hnil)
  have htext : (keyExists field value).toList = "Key (".toList ++
      (field.toList ++ ')' :: ("=(".toList ++ (value.toList ++ ')' :: " already exists.".toList))) := by
    simp [keyExists]
  have hbetween : ')' :: "=(".toList = ")=(".toList := by decide
  have hclose : ')' :: " already exists.".toList = ")".toList ++ " already exists.".toList := by decide
  have hline : '\n' ∉ value.toList ++ ')' :: " already exists.".toList := by
    rw [List.mem_append, not_or]
    exact ⟨hvalue, by decide⟩
  have hsearch : PatternPart.search keyDetailPattern (keyExists field value) = some [field, value] := by
    refine PatternPart.searchFrom_of_matchAt ?_
    rw [htext, keyDetailPattern, exactly, PatternPart.matchAt_exactly_append,
      PatternPart.matchAt_run1_append hsome hname rfl, ← List.cons_append, hbetween, exactly,
      PatternPart.matchAt_exactly_append, PatternPart.matchAt_upToLast_append hline (by decide), hclose, exactly,
      PatternPart.matchAt_exactly_append, PatternPart.matchAt, String.ofList_toList, String.ofList_toList]
    rfl
  rw [keyDetail?, hsearch]

end

/-! ### What callers are told -/

section
variable {field value : String} {a : ErrorAttributes}

theorem detailOf_text {detail : String} (h : a.detail = some (.text detail)) (hne : detail ≠ "") :
    detailOf a = .ok detail := by
  have hsays : (Value.text detail).isFalsy = false := by simpa [Value.isFalsy, Value.isZero] using hne
  rw [detailOf, h]
  simp only [attributeText, hsays, Bool.false_eq_true, ↓reduceIte]

theorem keyExists_ne_empty (field value : String) : keyExists field value ≠ "" := by
  intro hempty
  have hnil := String.toList_eq_nil_iff.mpr hempty
  simp [keyExists] at hnil

theorem ofDuplicateKey_keyExists (hdetail : a.detail = some (.text (keyExists field value))) (hfield : IsWord field)
    (hne : field ≠ "") (hvalue : '\n' ∉ value.toList) :
    ∃ d, ofDuplicateKey a = .ok d ∧ d.field = .text field ∧ d.value = .text value := by
  have hkey : ofDuplicateKey a = .ok (.make .duplicate (if value.isEmpty then "" else duplicateValue value field)
      (.text field) (.text value)) :=
    bind_eq_ok.mpr ⟨_, detailOf_text hdetail (keyExists_ne_empty field value), by
      rw [keyDetail?_keyExists hfield hne hvalue]⟩
  exact ⟨_, hkey, rfl, rfl⟩

theorem classify_of_duplicate_state {d : DatabaseError} (hstate : a.sqlstate = some (.text "23505"))
    (h : ofDuplicateKey a = .ok d) (name : String) (arguments : List Value) :
    (Failure.driver ⟨name, arguments, a⟩).classify = .ok d := by
  have hknown : ofState? a = .ok (some d) := by
    simp only [ofState?, hstate, ↓reduceIte, h]
    rfl
  exact bind_eq_ok.mpr ⟨some d, hknown, rfl⟩

end

/-- A value that is there already is classified as a duplicate by either server. Of a value without quotes a MySQL
    server has it named in full, with the part of the column behind its last underscore, which is the column itself
    if it has none; of a value on one line a PostgreSQL server has both named in full. -/
theorem duplicate_names_field_and_value {table field : String} (htable : IsWord table) (hfield : IsWord field)
    (hne : field ≠ "") (hprimary : field ≠ "PRIMARY") (value name name' : String) (arguments : List Value)
    {a b : ErrorAttributes} (hnone : ofState? a = .ok none) (hstate : b.sqlstate = some (.text "23505"))
    (hdetail : b.detail = some (.text (keyExists field value))) (hconstraint : Searchable b.constraintName) :
    (∃ d, (Failure.driver ⟨name, [.int 1062, .text (duplicateEntry value table field)], a⟩).classify = .ok d ∧
      d.kind = .duplicate ∧
      ('\'' ∉ value.toList → d.field = .text (afterLast '_' field) ∧ d.value = .text value ∧
        ('_' ∉ field.toList → d.field = .text field))) ∧
    (∃ d, (Failure.driver ⟨name', arguments, b⟩).classify = .ok d ∧ d.kind = .duplicate ∧
      ('\n' ∉ value.toList → d.field = .text field ∧ d.value = .text value)) := by
  constructor
  · refine ⟨_, classify_numbered hnone rfl name _, kind_ofDuplicate _, fun hvalue => ?_⟩
    rw [ofDuplicate_duplicateEntry htable hfield hprimary hvalue]
    exact ⟨rfl, rfl, fun hplain => congrArg Value.text (afterLast_of_notMem hplain)⟩
  · by_cases hvalue : '\n' ∈ value.toList
    · have hsearchable : Searchable b.detail := fun v hv _ => ⟨_, Option.some.inj (hv.symm.trans hdetail)⟩
      obtain ⟨d, hd⟩ := ofDuplicateKey_of_searchable hsearchable fun _ _ _ => hconstraint
      exact ⟨d, classify_of_duplicate_state hstate hd name' arguments, kind_ofDuplicateKey hd,
        fun hline => absurd hvalue hline⟩
    · obtain ⟨d, hd, hnames⟩ := ofDuplicateKey_keyExists hdetail hfield hne hvalue
      exact ⟨d, classify_of_duplicate_state hstate hd name' arguments, kind_ofDuplicateKey hd, fun _ => hnames⟩

/-- A value with parentheses in a column with an underscore. -/
theorem duplicate_names_field_and_value_phone :
    (∃ d, (Failure.driver ⟨"IntegrityError", [.int 1062, .text (duplicateEntry "(0)1) 2" "users" "home_phone")],
        .none⟩).classify = .ok d ∧ d.field = .text "phone" ∧ d.value = .text "(0)1) 2") ∧
    (∃ d, (Failure.driver ⟨"UniqueViolationError", [],
        ⟨some (.text "23505"), some (.text (keyExists "home_phone" "(0)1) 2")), none, none⟩⟩).classify = .ok d ∧
      d.field = .text "home_phone" ∧ d.value = .text "(0)1) 2") := by
  obtain ⟨⟨d, hd, -, hnames⟩, d', hd', -, hnames'⟩ :=
    @duplicate_names_field_and_value "users" "home_phone" (by decide) (by decide) (by decide) (by decide) "(0)1) 2"
      "IntegrityError" "UniqueViolationError" [] .none
      ⟨some (.text "23505"), some (.text (keyExists "home_phone" "(0)1) 2")), none, none⟩ rfl rfl rfl
      (fun _ hv => nomatch hv)
  have hlast : afterLast '_' "home_phone" = "phone" := by decide
  have hvalue := hnames (by decide)
  rw [hlast] at hvalue
  exact ⟨⟨d, hd, hvalue.1, hvalue.2.1⟩, d', hd', hnames' (by decide)⟩

/-- The column of a key on a MySQL server is not always named in full. -/
theorem field_of_duplicate_is_cut :
    ¬ ∀ value table field name : String, IsWord table → IsWord field → field ≠ "PRIMARY" →
      ∃ d, (Failure.driver ⟨name, [.int 1062, .text (duplicateEntry value table field)], .none⟩).classify = .ok d ∧
        d.kind = .duplicate ∧ d.field = .text field ∧ d.value = .text value := by
  intro h
  obtain ⟨d, hd, -, hfield, -⟩ := h "x" "users" "user_name" "IntegrityError" (by decide) (by decide) (by decide)
  have hcut : ofDuplicate (duplicateEntry "x" "users" "user_name") =
      .make .duplicate (duplicateValue "x" (afterLast '_' "user_name")) (.text (afterLast '_' "user_name"))
        (.text "x") :=
    ofDuplicate_duplicateEntry (by decide) (by decide) (by decide) (by decide)
  rw [classify_numbered rfl rfl, hcut, Except.ok.injEq] at hd
  rw [← hd] at hfield
  have hsame : afterLast '_' "user_name" = "user_name" := Value.text.inj hfield
  exact absurd hsame (by decide)

end Classification

end TableQuery
