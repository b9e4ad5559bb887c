import Mathlib.Data.List.Nodup
import TableQuery.Writing.Update

/-! Rows as finite maps from columns to values: what a column holds after the row has been changed. -/

namespace TableQuery

namespace Row
variable {row newer : Row} {c column : String} {v : Value}

theorem get?_cons : get? ((column, v) :: row) c = if c = column then some v else row.get? c := by
  unfold get?
  rw [List.lookup_cons]
  by_cases h : c = column
  · simp [h]
  · have hne : (c == column) = false := beq_eq_false_iff_ne.mpr h
    rw [hne, if_neg h]

theorem get?_put : (row.put column v).get? c = if c = column then some v else row.get? c := by
  induction row with
  | nil => exact get?_cons
  | cons entry rest ih =>
    obtain ⟨head, old⟩ := entry
    rw [put]
    by_cases hhead : head = column
    · subst hhead
      rw [if_pos rfl, get?_cons, get?_cons]
      by_cases hc : c = head
      · simp [hc]
      · simp [hc]
    · rw [if_neg hhead, get?_cons, get?_cons, ih]
      by_cases hc : c = head
      · simp [hc, hhead]
      · simp [hc]

theorem getD_put_of_ne (h : column ≠ c) : (row.put column v).getD c = row.getD c := by
  unfold getD
  rw [get?_put, if_neg (Ne.symm h)]

theorem get?_eq_none (h : column ∉ row.map Prod.fst) : row.get? column = none := by
  induction row with
  | nil => rfl
  | cons entry rest ih =>
    obtain ⟨head, old⟩ := entry
    rw [List.map_cons, List.mem_cons, not_or] at h
    rw [get?_cons, if_neg h.1, ih h.2]

theorem get?_of_mem (h : (row.map Prod.fst).Nodup) (hmem : (c, v) ∈ row) : row.get? c = some v := by
  induction row with
  | nil => cases hmem
  | cons entry rest ih =>
    obtain ⟨head, old⟩ := entry
    rw [List.map_cons, List.nodup_cons] at h
    rw [get?_cons]
    rcases List.mem_cons.mp hmem with heq | hmem
    · cases heq
      exact if_pos rfl
    · have hhead : c ∈ rest.map Prod.fst := List.mem_map_of_mem hmem
      rw [if_neg (ne_of_mem_of_not_mem hhead h.1), ih h.2 hmem]

theorem mem_of_get? (h : row.get? column = some v) : (column, v) ∈ row := by
  obtain ⟨front, back, rfl, -⟩ := List.lookup_eq_some_iff.mp h
  exact List.mem_append_right front List.mem_cons_self

theorem getD_of_get? (h : row.get? column = some v) : row.getD column = v := by
  rw [getD, h]
  rfl

theorem mem_columns_iff : c ∈ row.columns ↔ ∃ v, row.get? c = some v := by
  induction row with
  | nil => exact iff_of_false List.not_mem_nil fun h => nomatch h.choose_spec
  | cons entry rest ih =>
    obtain ⟨head, old⟩ := entry
    rw [get?_cons, columns, List.map_cons, List.mem_cons]
    by_cases hc : c = head
    · rw [if_pos hc]
      exact iff_of_true (.inl hc) ⟨old, rfl⟩
    · rw [if_neg hc, ← ih, or_iff_right hc]
      rfl

theorem columns_put : (row.put column v).map Prod.fst =
    if column ∈ row.map Prod.fst then row.map Prod.fst else row.map Prod.fst ++ [column] := by
  induction row with
  | nil => rfl
  | cons entry rest ih =>
    obtain ⟨head, old⟩ := entry
    rw [put]
    by_cases hhead : head = column
    · simp [hhead]
    · have hne : column ≠ head := fun h => hhead h.symm
      rw [if_neg hhead, List.map_cons, ih, List.map_cons]
      by_cases hmem : column ∈ rest.map Prod.fst
      · rw [if_pos hmem, if_pos (List.mem_cons_of_mem head hmem)]
      · rw [if_neg hmem, if_neg (by simpa [hne] using hmem), List.cons_append]

theorem mem_columns_put : c ∈ (row.put column v).columns ↔ c ∈ row.columns ∨ c = column := by
  unfold columns
  rw [columns_put]
  split
  · rename_i hcolumn
    exact (or_iff_left_of_imp fun hc => hc ▸ hcolumn).symm
  · rw [List.mem_append, List.mem_singleton]

theorem nodup_put (h : (row.map Prod.fst).Nodup) : ((row.put column v).map Prod.fst).Nodup := by
  rw [columns_put]
  split
  · exact h
  · rename_i hnew
    exact List.Nodup.append h (List.nodup_singleton column) (by simpa using hnew)

theorem put_of_notMem (h : column ∉ row.map Prod.fst) : row.put column v = row ++ [(column, v)] := by
  induction row with
  | nil => rfl
  | cons entry rest ih =>
    obtain ⟨head, old⟩ := entry
    rw [List.map_cons, List.mem_cons, not_or] at h
    rw [put, if_neg (Ne.symm h.1), ih h.2, List.cons_append]

theorem nodup_ofList (entries : List (String × Value)) : ((ofList entries).map Prod.fst).Nodup := by
  have hput (seen : Row) (hseen : (seen.map Prod.fst).Nodup) :
      ((entries.foldl (fun row entry => put row entry.1 entry.2) seen).map Prod.fst).Nodup := by
    induction entries generalizing seen with
    | nil => exact hseen
    | cons entry rest ih => exact ih _ (nodup_put hseen)
  exact hput [] List.nodup_nil

/-- Entries that name no column twice are a row as they stand. -/
theorem ofList_eq_self {entries : List (String × Value)} (h : (entries.map Prod.fst).Nodup) : ofList entries = entries := by
  have hput (seen : Row) (hseen : ((seen ++ entries).map Prod.fst).Nodup) :
      entries.foldl (fun row entry => put row entry.1 entry.2) seen = seen ++ entries := by
    induction entries generalizing seen with
    | nil => exact (List.append_nil seen).symm
    | cons entry rest ih =>
      obtain ⟨head, v⟩ := entry
      have hnew : head ∉ seen.map Prod.fst := by
        rw [List.map_append, List.nodup_append] at hseen
        exact fun hmem => hseen.2.2 head hmem head List.mem_cons_self rfl
      rw [List.append_cons] at hseen ⊢
      rw [List.map_cons, List.nodup_cons] at h
      rw [List.foldl_cons]
      dsimp only
      rw [put_of_notMem hnew]
      exact ih h.2 _ hseen
  exact hput [] h

/-- Of several entries with one name the last counts. -/
theorem get?_ofList (entries : List (String × Value)) (column : String) :
    get? (ofList entries) column = entries.reverse.lookup column := by
  have hput (seen : Row) : get? (entries.foldl (fun row entry => put row entry.1 entry.2) seen) column =
      (entries.reverse.lookup column).or (get? seen column) := by
    induction entries generalizing seen with
    | nil => rfl
    | cons entry rest ih =>
      obtain ⟨head, v⟩ := entry
      rw [List.foldl_cons, ih, List.reverse_cons, List.lookup_append, Option.or_assoc, get?_put]
      congr 1
      by_cases hc : column = head
      · rw [hc, List.lookup_cons_self, if_pos rfl, Option.some_or]
      · rw [List.lookup_cons, beq_eq_false_iff_ne.mpr hc, if_neg hc]
        rfl
  have h := hput []
  rwa [show get? [] column = none from rfl, Option.or_none] at h

theorem get?_ofList_append (front back : List (String × Value)) (column : String) :
    get? (ofList (front ++ back)) column = (get? (ofList back) column).or (get? (ofList front) column) := by
  rw [get?_ofList, get?_ofList, get?_ofList, List.reverse_append, List.lookup_append]

theorem get?_ofList_eq_none_iff {entries : List (String × Value)} : get? (ofList entries) column = none ↔ column ∉ entries.map Prod.fst := by
  rw [get?_ofList, List.lookup_eq_none_iff]
  simp only [List.mem_reverse, bne_iff_ne, List.mem_map, not_exists, not_and]
  exact forall₂_congr fun _ _ => ne_comm

theorem mem_of_get?_ofList {entries : List (String × Value)} (h : get? (ofList entries) column = some v) : (column, v) ∈ entries := by
  rw [get?_ofList] at h
  exact List.mem_reverse.mp (mem_of_get? h)

/-- A newer row hides what is under it. -/
theorem get?_overlay (h : (newer.map Prod.fst).Nodup) (row : Row) (c : String) :
    (Writer.overlay row newer).get? c = (newer.get? c).or (row.get? c) := by
  induction newer generalizing row with
  | nil => rfl
  | cons entry rest ih =>
    obtain ⟨head, v⟩ := entry
    -- The head is put under what the rest puts, and the rest does not name its column again.
    rw [List.map_cons, List.nodup_cons] at h
    have hstep : Writer.overlay row ((head, v) :: rest) = Writer.overlay (row.put head v) rest := rfl
    rw [hstep, ih h.2, get?_put, get?_cons]
    by_cases hc : c = head
    · subst hc
      simp [get?_eq_none h.1]
    · simp [hc]

/-- Taking out columns by their names leaves the others as they are. -/
theorem get?_filter (keeps : String → Bool) (row : Row) (c : String) :
    get? (row.filter fun entry => keeps entry.1) c = if keeps c then row.get? c else none := by
  induction row with
  | nil => exact (ite_self none).symm
  | cons entry rest ih =>
    obtain ⟨head, v⟩ := entry
    rw [List.filter_cons]
    by_cases hc : c = head
    · subst hc
      cases hkeep : keeps c with
      | true => rw [if_pos rfl, get?_cons, get?_cons, if_pos rfl, if_pos rfl, if_pos rfl]
      | false => rw [if_neg Bool.false_ne_true, ih, hkeep, if_neg Bool.false_ne_true, if_neg Bool.false_ne_true]
    · cases keeps head with
      | true => rw [if_pos rfl, get?_cons, if_neg hc, ih, get?_cons, if_neg hc]
      | false => rw [if_neg Bool.false_ne_true, ih, get?_cons, if_neg hc]

theorem get?_erase : (row.erase column).get? c = if c = column then none else row.get? c := by
  have h := get?_filter (fun head => decide (head ≠ column)) row c
  by_cases hc : c = column
  · rw [if_pos hc]
    rwa [decide_eq_false (by simpa using hc), if_neg Bool.false_ne_true] at h
  · rw [if_neg hc]
    rwa [decide_eq_true hc, if_pos rfl] at h

theorem get?_of_getD (h : (row.getD c).isNull = false) : row.get? c = some (row.getD c) := by
  unfold getD at h ⊢
  cases hc : row.get? c with
  | none =>
    rw [hc] at h
    cases h
  | some v => rfl

theorem eq_nil_iff_get? : row = [] ↔ ∀ c, row.get? c = none := by
  constructor
  · rintro rfl c
    rfl
  · intro h
    cases row with
    | nil => rfl
    | cons entry rest =>
      have hhead := h entry.1
      rw [get?_cons, if_pos rfl] at hhead
      cases hhead

end Row

end TableQuery
