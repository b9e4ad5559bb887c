import TableQuery.Proofs.RowDecoding
import TableQuery.Proofs.StoredEntities

/-! Lists and dictionaries in JSON columns. A driver takes them as text, and what comes back of the text is the same value,
    with the entries of each dictionary in their order. -/

namespace TableQuery

/-- The values of JSON columns: lists and dictionaries of what JSON knows, with whole numbers that are not too long. -/
structure Value.IsJson (v : Value) : Prop where
  plain : Json.Plain (some maxNumeralDigits) v
  container : (∃ xs, v = .list xs) ∨ ∃ es, v = .dict es

namespace Value.IsJson
variable {v : Value} {s : String} (h : v.IsJson)
include h

theorem adaptCommon_eq : Dialect.adaptCommon v = Dialect.jsonText v := by
  rcases h.container with ⟨xs, rfl⟩ | ⟨es, rfl⟩
  · rfl
  · rfl

/-- The text of a container starts like one. -/
theorem starts {limit : Option Nat} (hs : Json.writeWithin limit v = .ok s) :
    ∃ c tail, s.toList = c :: tail ∧ (c = '\x7b' ∨ c = '[') := by
  obtain ⟨cs, hcs, rfl⟩ := map_eq_ok.mp hs
  rw [String.toList_ofList]
  rcases h.container with ⟨xs, rfl⟩ | ⟨es, rfl⟩
  · obtain ⟨body, -, hbody⟩ := bind_eq_ok.mp hcs
    cases hbody
    exact ⟨'[', _, rfl, .inr rfl⟩
  · obtain ⟨body, -, hbody⟩ := bind_eq_ok.mp hcs
    cases hbody
    exact ⟨'\x7b', _, rfl, .inl rfl⟩

/-- A container becomes text, and the text is looked at in every row and becomes the container. -/
theorem exists_text : ∃ s, (∀ d : Dialect, d.adapt v = .ok (.text s)) ∧
    (∀ column, Row.Eligible none column (.text s)) ∧ Row.decodeColumn (.text s) = .ok v := by
  obtain ⟨s, hs, hread⟩ := Json.readWithin_write h.plain
  refine ⟨s, fun d => d.adapt_eq_text h.adaptCommon_eq (storable_of_plain h.plain) hs, fun column => ?_,
    Row.decodeColumn_text hread⟩
  obtain ⟨c, tail, htext, hc⟩ := h.starts hs
  exact .container htext hc

end Value.IsJson

namespace Row

/-- What goes into JSON columns comes back: every dialect takes the lists and dictionaries of a row as text, and the row of
    these texts is decoded to the row itself, without a model and with every model to which the columns are JSON columns. -/
theorem decode_adapted (d : Dialect) (row : Row) (h : ∀ e ∈ row, e.2.IsJson) :
    ∃ stored, d.adaptRow row = .ok stored ∧ (∀ e ∈ stored, ∃ s, e.2 = .text s) ∧ decode none stored = .ok row ∧
      ∀ m : Model, (∀ e ∈ row, e.1 ∈ m.jsonColumns) → decode (some m) stored = .ok row := by
  have htexts : ∀ e ∈ row, ∃ s, d.adapt e.2 = .ok (.text s) ∧ (∀ column, Eligible none column (.text s)) ∧
      decodeColumn (.text s) = .ok e.2 := by
    intro e he
    obtain ⟨s, hadapt, heligible, hdecode⟩ := (h e he).exists_text
    exact ⟨s, hadapt d, heligible, hdecode⟩
  choose! text hadapt heligible hdecode using htexts
  have hread (m : Option Model) (hm : ∀ e ∈ row, Eligible m e.1 (.text (text e))) :
      decode m (row.map fun e => (e.1, .text (text e))) = .ok row := by
    rw [decode_eq_mapM]
    refine mapM_map_eq_ok fun e he => ?_
    rw [decodeEntry_eligible (hm e he), hdecode e he]
    rfl
  refine ⟨row.map fun e => (e.1, .text (text e)), mapM_eq_ok_map fun e he => ?_, fun e he => ?_, ?_, fun m hcolumns => ?_⟩
  · show (d.adapt e.2).map (e.1, ·) = _
    rw [hadapt e he]
    rfl
  · obtain ⟨e', -, rfl⟩ := List.mem_map.mp he
    exact ⟨_, rfl⟩
  · exact hread none fun e he => heligible e he e.1
  · exact hread (some m) fun e he => .text (hcolumns e he)

/-- A list with a quote, a backslash, a line break and a character beyond sixteen bits, and a nested dictionary. -/
theorem decode_adapted_nested :
    let v : Value := .dict [("b", .list [.null, .bool true, .int (-12), .text "\"\\\n𝄞"]), ("a", .dict [("", .list [])])]
    v.IsJson ∧ ∃ stored, Dialect.sqlite.adaptRow [("c", v)] = .ok stored ∧ decode none stored = .ok [("c", v)] := by
  intro v
  have hjson : v.IsJson := by
    refine ⟨.dict (by decide) ?_, .inr ⟨_, rfl⟩⟩
    simp only [List.forall_mem_cons, List.not_mem_nil, false_implies, implies_true, and_true]
    refine ⟨.list ?_, .dict (by decide) ?_⟩
    · simp only [List.forall_mem_cons, List.not_mem_nil, false_implies, implies_true, and_true]
      exact ⟨.null, .bool true, .int (by decide), .text _⟩
    · exact List.forall_mem_singleton.mpr (.list fun _ h => nomatch h)
  obtain ⟨stored, hstored, -, hread, -⟩ := decode_adapted .sqlite [("c", v)] (List.forall_mem_singleton.mpr hjson)
  exact ⟨hjson, stored, hstored, hread⟩

end Row

end TableQuery
