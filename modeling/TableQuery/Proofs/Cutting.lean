import Mathlib.Data.List.TakeDrop
import TableQuery.Proofs.Joining

/-! Text cut at a separator. Cutting puts back what joining has put together if the separator stands in none of the
    pieces, and joining puts back whatever has been cut. -/

namespace TableQuery

section
variable {sep : Char} {cs : List Char}

theorem cutAt_ne_nil (sep : Char) (cs : List Char) : cutAt sep cs ≠ [] := by
  cases cs with
  | nil => exact List.cons_ne_nil _ _
  | cons c cs =>
    rw [cutAt]
    split
    · exact List.cons_ne_nil _ _
    · split <;> exact List.cons_ne_nil _ _

@[simp]
theorem cutAt_cons_self : cutAt sep (sep :: cs) = [] :: cutAt sep cs := by
  rw [cutAt, if_pos rfl]

theorem cutAt_cons_of_ne {c : Char} (hc : c ≠ sep) (cs : List Char) :
    ∃ piece pieces, cutAt sep cs = piece :: pieces ∧ cutAt sep (c :: cs) = (c :: piece) :: pieces := by
  obtain ⟨piece, pieces, h⟩ := List.exists_cons_of_ne_nil (cutAt_ne_nil sep cs)
  exact ⟨piece, pieces, h, by rw [cutAt, if_neg hc, h]⟩

theorem mem_of_mem_cutAt : ∀ {cs piece : List Char}, piece ∈ cutAt sep cs → ∀ c ∈ piece, c ∈ cs
  | [], piece, hp, c, hc => List.mem_singleton.mp hp ▸ hc
  | d :: cs, piece, hp, c, hc => by
    by_cases hd : d = sep
    · rw [hd, cutAt_cons_self] at hp
      rcases List.mem_cons.mp hp with rfl | hp
      · cases hc
      · exact List.mem_cons_of_mem d (mem_of_mem_cutAt hp c hc)
    · obtain ⟨first, rest, hcs, hcons⟩ := cutAt_cons_of_ne hd cs
      rw [hcons] at hp
      rcases List.mem_cons.mp hp with rfl | hp
      · rcases List.mem_cons.mp hc with rfl | hc
        · exact List.mem_cons_self
        · exact List.mem_cons_of_mem d (mem_of_mem_cutAt (hcs ▸ List.mem_cons_self) c hc)
      · exact List.mem_cons_of_mem d (mem_of_mem_cutAt (hcs ▸ List.mem_cons_of_mem _ hp) c hc)

theorem cutAt_of_notMem (h : sep ∉ cs) : cutAt sep cs = [cs] := by
  induction cs with
  | nil => rfl
  | cons c cs ih =>
    obtain ⟨hc, hcs⟩ := not_or.mp (mt List.mem_cons.mpr h)
    rw [cutAt, if_neg (Ne.symm hc), ih hcs]

theorem cutAt_append (front back : List Char) :
    cutAt sep (front ++ sep :: back) = cutAt sep front ++ cutAt sep back := by
  induction front with
  | nil => exact cutAt_cons_self
  | cons c front ih =>
    rw [List.cons_append]
    by_cases hc : c = sep
    · rw [hc, cutAt_cons_self, cutAt_cons_self, ih, List.cons_append]
    · obtain ⟨piece, pieces, hfront, hcons⟩ := cutAt_cons_of_ne hc front
      rw [hcons, cutAt, if_neg hc, ih, hfront, List.cons_append, List.cons_append]

end

section
variable {sep : Char} {s : String} {ss : List String}

theorem cutText_ne_nil (sep : Char) (s : String) : cutText sep s ≠ [] := by
  simp [cutText, cutAt_ne_nil]

theorem cutText_of_notMem (h : sep ∉ s.toList) : cutText sep s = [s] := by
  rw [cutText, cutAt_of_notMem h, List.map_singleton, String.ofList_toList]

theorem cutText_append (front back : String) :
    cutText sep (front ++ String.singleton sep ++ back) = cutText sep front ++ cutText sep back := by
  simp only [cutText, String.toList_append, String.toList_singleton, List.append_assoc, List.singleton_append,
    cutAt_append, List.map_append]

theorem cutText_joinWith (hne : ss ≠ []) (h : ∀ s ∈ ss, sep ∉ s.toList) :
    cutText sep (joinWith (String.singleton sep) ss) = ss := by
  induction ss with
  | nil => exact absurd rfl hne
  | cons s ss ih =>
    obtain ⟨hs, hss⟩ := List.forall_mem_cons.mp h
    by_cases hlast : ss = []
    · rw [hlast, joinWith_singleton, cutText_of_notMem hs]
    · rw [joinWith_cons hlast, cutText_append, cutText_of_notMem hs, ih hlast hss, List.singleton_append]

theorem joinWith_cutText (sep : Char) (s : String) : joinWith (String.singleton sep) (cutText sep s) = s := by
  have hcut : ∀ cs : List Char, (joinWith (String.singleton sep) ((cutAt sep cs).map String.ofList)).toList = cs := by
    intro cs
    induction cs with
    | nil => rfl
    | cons c cs ih =>
      by_cases hc : c = sep
      · rw [hc, cutAt_cons_self, List.map_cons, joinWith_cons (by simp [cutAt_ne_nil])]
        simp [ih]
      · obtain ⟨piece, pieces, hcs, hcons⟩ := cutAt_cons_of_ne hc cs
        rw [hcs] at ih
        rw [hcons]
        -- The character goes to the first piece, whether or not others follow.
        cases pieces with
        | nil => simpa using ih
        | cons next pieces => simpa [joinWith_cons_cons] using ih
  exact String.toList_inj.mp (hcut s.toList)

/-- A text with a separator in it consists of what stands in front of the first one and what stands behind. -/
theorem exists_split (h : sep ∈ s.toList) :
    ∃ front back, s = front ++ String.singleton sep ++ back ∧ sep ∉ front.toList := by
  obtain ⟨front, back, hchars, hfront⟩ := List.eq_append_cons_of_mem h
  refine ⟨String.ofList front, String.ofList back, ?_, by rwa [String.toList_ofList]⟩
  rw [← String.toList_inj, hchars]
  simp

/-- It also consists of what stands in front of the last one and what stands behind. -/
theorem exists_split_last (h : sep ∈ s.toList) :
    ∃ front back, s = front ++ String.singleton sep ++ back ∧ sep ∉ back.toList := by
  obtain ⟨back, front, hchars, hback⟩ := List.eq_append_cons_of_mem (List.mem_reverse.mpr h)
  refine ⟨String.ofList front.reverse, String.ofList back.reverse, ?_, by simpa using hback⟩
  rw [← String.toList_inj, ← List.reverse_inj, hchars]
  simp

theorem splitFirst_of_notMem (h : sep ∉ s.toList) : splitFirst sep s = (s, none) := by
  have hchars : ∀ c ∈ s.toList, decide (c ≠ sep) = true := by
    intro c hc
    exact decide_eq_true fun heq => h (heq ▸ hc)
  unfold splitFirst
  rw [List.span_eq_takeWhile_dropWhile, List.takeWhile_eq_self_iff.mpr hchars, List.dropWhile_eq_nil_iff.mpr hchars]
  simp

theorem splitFirst_append {front : String} (h : sep ∉ front.toList) (back : String) :
    splitFirst sep (front ++ String.singleton sep ++ back) = (front, some back) := by
  have hspan : (front ++ String.singleton sep ++ back).toList.span (· ≠ sep) = (front.toList, sep :: back.toList) := by
    have hfront : ∀ c ∈ front.toList, decide (c ≠ sep) = true := by
      intro c hc
      exact decide_eq_true fun heq => h (heq ▸ hc)
    rw [List.span_eq_takeWhile_dropWhile]
    simp only [String.toList_append, String.toList_singleton, List.append_assoc, List.singleton_append]
    rw [List.takeWhile_append_of_pos hfront, List.dropWhile_append_of_pos hfront]
    simp
  unfold splitFirst
  rw [hspan]
  simp

end

/-! ### Blanks -/

theorem dropWhile_eq_self {α : Type} {p : α → Bool} {xs : List α} (h : ∀ x ∈ xs.head?, p x = false) :
    xs.dropWhile p = xs := by
  cases xs with
  | nil => rfl
  | cons x xs => rw [List.dropWhile_cons, h x rfl, if_neg Bool.false_ne_true]

/-- Text that neither starts nor ends with a blank is left as it is by trimming. -/
theorem trim_eq_self {cs : List Char} (hfront : ∀ c ∈ cs.head?, isBlank c = false)
    (hback : ∀ c ∈ cs.getLast?, isBlank c = false) : trim cs = cs := by
  have hleft : trimLeft cs = cs := dropWhile_eq_self hfront
  rw [trim, hleft, trimRight, dropWhile_eq_self (by rwa [List.head?_reverse]), List.reverse_reverse]

end TableQuery
