import Mathlib.Data.List.TakeWhile
import TableQuery.Text.Blank
import TableQuery.Text.Pieces

/-! Joined and trimmed text: what a separator between pieces, and the blanks taken off at the ends, leave of
    the pieces. -/

namespace TableQuery

section
variable {sep s : String} {ss ts : List String}

@[simp]
theorem joinWith_nil : joinWith sep [] = "" := rfl

@[simp]
theorem joinWith_singleton : joinWith sep [s] = s := rfl

theorem joinWith_cons_cons {t : String} : joinWith sep (s :: t :: ts) = s ++ sep ++ joinWith sep (t :: ts) := rfl

theorem joinWith_cons (h : ss ≠ []) : joinWith sep (s :: ss) = s ++ sep ++ joinWith sep ss := by
  cases ss with
  | nil => exact absurd rfl h
  | cons t ss => rfl

/-- A joined piece in front may as well stand there as its own pieces. -/
theorem joinWith_joinWith (hs : ss ≠ []) : joinWith sep (joinWith sep ss :: ts) = joinWith sep (ss ++ ts) := by
  cases ts with
  | nil => simp
  | cons t ts =>
    rw [joinWith_cons (List.cons_ne_nil t ts)]
    induction ss with
    | nil => exact absurd rfl hs
    | cons s ss ih =>
      cases ss with
      | nil => rfl
      | cons s' ss =>
        rw [joinWith_cons_cons, List.cons_append, List.cons_append, joinWith_cons_cons,
          ← List.cons_append, ← ih (List.cons_ne_nil s' ss)]
        simp only [String.append_assoc]

/-- A joined piece anywhere may as well stand there as its own pieces. -/
theorem joinWith_append_joinWith {rs : List String} (hs : ss ≠ []) :
    joinWith sep (rs ++ joinWith sep ss :: ts) = joinWith sep (rs ++ (ss ++ ts)) := by
  induction rs with
  | nil => exact joinWith_joinWith hs
  | cons r rs ih =>
    rw [List.cons_append, List.cons_append, joinWith_cons (by simp), joinWith_cons (by simp [hs]), ih]

theorem joinWith_eq_empty_iff (hs : ∀ s ∈ ss, s ≠ "") : joinWith sep ss = "" ↔ ss = [] := by
  cases ss with
  | nil => simp
  | cons s ss =>
    have hne : s ≠ "" := hs s List.mem_cons_self
    cases ss with
    | nil => simpa using hne
    | cons t ss =>
      rw [joinWith_cons_cons]
      simp [String.append_eq_empty_iff, hne]

theorem eq_of_joinWith_eq_empty (hsep : sep ≠ "") (h : joinWith sep ss = "") : ss = [] ∨ ss = [""] := by
  match ss with
  | [] => exact .inl rfl
  | [s] =>
    rw [joinWith_singleton] at h
    exact .inr (by rw [h])
  | s :: t :: ss =>
    rw [joinWith_cons_cons, String.append_eq_empty_iff, String.append_eq_empty_iff] at h
    exact absurd h.1.2 hsep

theorem mem_joinWith {c : Char} (h : c ∈ (joinWith sep ss).toList) : c ∈ sep.toList ∨ ∃ s ∈ ss, c ∈ s.toList := by
  induction ss with
  | nil => exact absurd h List.not_mem_nil
  | cons s ss ih =>
    by_cases hss : ss = []
    · rw [hss, joinWith_singleton] at h
      exact .inr ⟨s, List.mem_cons_self, h⟩
    · rw [joinWith_cons hss, String.toList_append, String.toList_append] at h
      rcases List.mem_append.mp h with h | h
      · rcases List.mem_append.mp h with h | h
        · exact .inr ⟨s, List.mem_cons_self, h⟩
        · exact .inl h
      · rcases ih h with h | ⟨t, ht, h⟩
        · exact .inl h
        · exact .inr ⟨t, List.mem_cons_of_mem s ht, h⟩

end

/-! ### Blanks -/

/-- Trimming takes a piece without anything but blanks off either end. -/
theorem trim_eq (cs : List Char) : ∃ front back, cs = front ++ trim cs ++ back ∧
    (∀ c ∈ front, isBlank c = true) ∧ ∀ c ∈ back, isBlank c = true := by
  have hleft := List.takeWhile_append_dropWhile (p := isBlank) (l := cs)
  have hright := List.takeWhile_append_dropWhile (p := isBlank) (l := (trimLeft cs).reverse)
  refine ⟨cs.takeWhile isBlank, ((trimLeft cs).reverse.takeWhile isBlank).reverse, ?_, ?_, ?_⟩
  · have h : trimLeft cs = trim cs ++ ((trimLeft cs).reverse.takeWhile isBlank).reverse := by
      unfold trim trimRight
      rw [← List.reverse_append, hright, List.reverse_reverse]
    rw [List.append_assoc, ← h]
    exact hleft.symm
  · exact fun c hc => List.mem_takeWhile_imp hc
  · exact fun c hc => List.mem_takeWhile_imp (List.mem_reverse.mp hc)

@[simp]
theorem toList_trimText (s : String) : (trimText s).toList = trim s.toList := String.toList_ofList

end TableQuery
