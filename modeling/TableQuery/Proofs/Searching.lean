import Mathlib.Data.List.Infix
import TableQuery.Text.Pattern
import TableQuery.Text.WordChar

/-! Occurrences of pieces and patterns in text. A piece is looked for on either side of a character that it does not
    hold, and a pattern that starts with a fixed piece passes over text in which the piece cannot start. -/

namespace TableQuery

/-! ### Pieces -/

section
variable {piece cs front back rest : List Char} {c : Char}

theorem stripFront?_eq_some : stripFront? piece cs = some rest ↔ cs = piece ++ rest := by
  induction piece generalizing cs with
  | nil => rw [stripFront?, Option.some_inj, List.nil_append]
  | cons p piece ih =>
    cases cs with
    | nil => simp [stripFront?]
    | cons c cs =>
      by_cases hc : p = c
      · rw [stripFront?, if_pos hc, ih, hc, List.cons_append, List.cons_inj_right]
      · rw [stripFront?, if_neg hc]
        simp [Ne.symm hc]

@[simp]
theorem stripFront?_append : stripFront? piece (piece ++ rest) = some rest := stripFront?_eq_some.mpr rfl

theorem startsWith_iff : startsWith piece cs = true ↔ piece <+: cs := by
  rw [startsWith, Option.isSome_iff_exists]
  exact exists_congr fun rest => stripFront?_eq_some.trans eq_comm

theorem occursIn_iff : occursIn piece cs = true ↔ piece <:+: cs := by
  induction cs with
  | nil => rw [occursIn, List.isEmpty_iff, List.infix_nil]
  | cons c cs ih => rw [occursIn, Bool.or_eq_true, startsWith_iff, ih, List.infix_cons_iff]

/-- A character that a piece does not hold parts the text in which the piece is looked for. -/
theorem occursIn_append_cons (hp : piece ≠ []) (hc : c ∉ piece) (front back : List Char) :
    occursIn piece (front ++ c :: back) = (occursIn piece front || occursIn piece back) := by
  rw [Bool.eq_iff_iff, Bool.or_eq_true, occursIn_iff, occursIn_iff, occursIn_iff]
  constructor
  · intro h
    rcases List.infix_append_iff.mp h with h | h | ⟨start, rest, rfl, _, hrest⟩
    · exact .inl h
    · rcases List.infix_cons_iff.mp h with h | h
      · cases piece with
        | nil => exact absurd rfl hp
        | cons p piece => exact absurd (List.mem_cons.mpr (.inl (List.cons_prefix_cons.mp h).1.symm)) hc
      · exact .inr h
    · -- The piece runs past the character only if the rest of it is empty.
      cases rest with
      | nil => exact .inl (by rw [List.append_nil]; exact ‹start <:+ front›.isInfix)
      | cons r rest =>
        have hr : r = c := (List.cons_prefix_cons.mp hrest).1
        exact absurd (List.mem_append_right start (hr ▸ List.mem_cons_self)) hc
  · rintro (h | h)
    · exact h.trans (List.prefix_append front _).isInfix
    · exact h.trans ((List.suffix_cons c back).trans (List.suffix_append front _)).isInfix

/-- Text in which the first character of a piece does not occur is passed over. -/
theorem occursIn_append {p : Char} (h : p ∉ front) (back : List Char) :
    occursIn (p :: piece) (front ++ back) = occursIn (p :: piece) back := by
  induction front with
  | nil => rfl
  | cons c front ih =>
    obtain ⟨hc, hfront⟩ := not_or.mp (mt List.mem_cons.mpr h)
    have hstart : startsWith (p :: piece) (c :: (front ++ back)) = false := by
      rw [← Bool.not_eq_true, startsWith_iff]
      exact fun hprefix => hc (List.cons_prefix_cons.mp hprefix).1
    rw [List.cons_append, occursIn, hstart, ih hfront, Bool.false_or]

/-- A piece with a character that the text does not hold does not occur. -/
theorem occursIn_of_notMem (hc : c ∈ piece) (h : c ∉ cs) : occursIn piece cs = false := by
  rw [← Bool.not_eq_true, occursIn_iff]
  exact fun hwithin => h (hwithin.subset hc)

/-- In front of text without a certain character, a piece occurs only if it does not run into that text: whatever of
    it could start in front leaves the character over. -/
theorem occursIn_append_of_notMem (hback : c ∉ back)
    (h : ∀ i ≤ piece.length, piece.take i <:+ front → c ∈ piece.drop i) :
    occursIn piece (front ++ back) = occursIn piece front := by
  have hne : c ∈ piece := h 0 (Nat.zero_le _) List.nil_suffix
  rw [Bool.eq_iff_iff, occursIn_iff, occursIn_iff]
  constructor
  · intro hwithin
    rcases List.infix_append_iff.mp hwithin with hfront | hback' | ⟨left, right, hpiece, hleft, hright⟩
    · exact hfront
    · exact absurd (hback'.subset hne) hback
    · have hover : c ∈ right := by
        have hdrop := h left.length (by rw [hpiece, List.length_append]; omega)
        rw [hpiece, List.take_left, List.drop_left] at hdrop
        exact hdrop hleft
      exact absurd (hright.subset hover) hback
  · exact fun hwithin => hwithin.trans (List.prefix_append front back).isInfix

end

section
variable {piece text : String}

theorem occursInText_iff : occursInText piece text = true ↔ ∃ front back, text = front ++ piece ++ back := by
  rw [occursInText, occursIn_iff]
  constructor
  · rintro ⟨front, back, h⟩
    refine ⟨String.ofList front, String.ofList back, ?_⟩
    rw [← String.toList_inj, ← h]
    simp
  · rintro ⟨front, back, rfl⟩
    exact ⟨front.toList, back.toList, by simp⟩

theorem occursInText_trans {part : String} (h : occursInText part piece = true)
    (hpiece : occursInText piece text = true) : occursInText part text = true :=
  occursIn_iff.mpr ((occursIn_iff.mp h).trans (occursIn_iff.mp hpiece))

end

/-! ### Words -/

/-- Whether a text is made of word characters. -/
def IsWord (s : String) : Prop := ∀ c ∈ s.toList, isWordChar c = true

instance (s : String) : Decidable (IsWord s) := decidable_of_iff (s.toList.all isWordChar = true) List.all_eq_true

section
variable {s : String} {piece : List Char} {c : Char}

theorem IsWord.notMem (h : IsWord s) (hc : isWordChar c = false) : c ∉ s.toList := by
  intro hmem
  rw [h c hmem] at hc
  cases hc

/-- Nothing that holds another character occurs in a word. -/
theorem IsWord.occursIn (h : IsWord s) (hc : c ∈ piece) (hword : isWordChar c = false) :
    occursIn piece s.toList = false :=
  occursIn_of_notMem hc (h.notMem hword)

/-- Reading on as long as the class of characters holds reads a word, if what follows it is not of the class. -/
theorem IsWord.takeWhile_append {isIn : Char → Bool} (h : IsWord s)
    (hword : ∀ c, isWordChar c = true → isIn c = true) (hc : isIn c = false) (rest : List Char) :
    (s.toList ++ c :: rest).takeWhile isIn = s.toList := by
  rw [List.takeWhile_append_of_pos fun d hd => hword d (h d hd), List.takeWhile_cons, hc,
    if_neg Bool.false_ne_true, List.append_nil]

theorem IsWord.dropWhile_append {isIn : Char → Bool} (h : IsWord s)
    (hword : ∀ c, isWordChar c = true → isIn c = true) (hc : isIn c = false) (rest : List Char) :
    (s.toList ++ c :: rest).dropWhile isIn = c :: rest := by
  rw [List.dropWhile_append_of_pos fun d hd => hword d (h d hd), List.dropWhile_cons, hc,
    if_neg Bool.false_ne_true]

end

/-! ### Patterns -/

namespace PatternPart

section
variable {p : Char} {piece front cs : List Char} {parts : List PatternPart}

theorem matchAt_eq_none (h : ¬ piece <+: cs) : matchAt (.exactly piece :: parts) cs = none := by
  rw [matchAt]
  split
  · rename_i rest hrest
    exact absurd ⟨rest, (stripFront?_eq_some.mp hrest).symm⟩ h
  · rfl

theorem isSome_matchAt_exactly : (matchAt (.exactly piece :: parts) cs).isSome = true ↔
    ∃ rest, cs = piece ++ rest ∧ (matchAt parts rest).isSome = true := by
  constructor
  · intro h
    rw [matchAt] at h
    split at h
    · exact ⟨_, stripFront?_eq_some.mp ‹_›, h⟩
    · cases h
  · rintro ⟨rest, rfl, h⟩
    rwa [matchAt, stripFront?_append]

theorem isSome_matchAt_run1 {isIn : Char → Bool} : (matchAt [.run1 isIn] cs).isSome = true ↔
    ∃ c rest, cs = c :: rest ∧ isIn c = true := by
  rw [matchAt, matchAt]
  cases cs with
  | nil => simp
  | cons c cs => cases hc : isIn c <;> simp [hc]

/-- A pattern is found in text if and only if it matches somewhere. -/
theorem isSome_searchFrom_iff : (searchFrom parts cs).isSome = true ↔
    ∃ front back, cs = front ++ back ∧ (matchAt parts back).isSome = true := by
  induction cs with
  | nil =>
    constructor
    · exact fun h => ⟨[], [], rfl, h⟩
    · rintro ⟨front, back, hcs, h⟩
      rwa [(List.append_eq_nil_iff.mp hcs.symm).2] at h
  | cons c cs ih =>
    rw [searchFrom]
    constructor
    · intro h
      split at h
      · exact ⟨[], c :: cs, rfl, by rw [‹matchAt parts (c :: cs) = _›]; rfl⟩
      · obtain ⟨front, back, rfl, hback⟩ := ih.mp h
        exact ⟨c :: front, back, rfl, hback⟩
    · rintro ⟨front, back, hcs, h⟩
      split
      · rfl
      · rename_i hnone
        cases front with
        | nil =>
          rw [List.nil_append] at hcs
          rw [← hcs, hnone] at h
          cases h
        | cons d front => exact ih.mpr ⟨front, back, (List.cons.inj hcs).2, h⟩

/-- A pattern that starts with a fixed piece is found where the rest of it matches behind the piece. -/
theorem isSome_searchFrom_exactly : (searchFrom (.exactly piece :: parts) cs).isSome = true ↔
    ∃ front rest, cs = front ++ piece ++ rest ∧ (matchAt parts rest).isSome = true := by
  rw [isSome_searchFrom_iff]
  constructor
  · rintro ⟨front, back, rfl, h⟩
    obtain ⟨rest, rfl, hrest⟩ := isSome_matchAt_exactly.mp h
    exact ⟨front, rest, (List.append_assoc ..).symm, hrest⟩
  · rintro ⟨front, rest, rfl, h⟩
    exact ⟨front, piece ++ rest, List.append_assoc .., isSome_matchAt_exactly.mpr ⟨rest, rfl, h⟩⟩

/-- Text in which the first character of a pattern does not occur is passed over. -/
theorem searchFrom_append (h : p ∉ front) (back : List Char) :
    searchFrom (.exactly (p :: piece) :: parts) (front ++ back) = searchFrom (.exactly (p :: piece) :: parts) back := by
  induction front with
  | nil => rfl
  | cons c front ih =>
    obtain ⟨hc, hfront⟩ := not_or.mp (mt List.mem_cons.mpr h)
    have hnone : matchAt (.exactly (p :: piece) :: parts) (c :: (front ++ back)) = none :=
      matchAt_eq_none fun hprefix => hc (List.cons_prefix_cons.mp hprefix).1
    rw [List.cons_append, searchFrom, hnone]
    exact ih hfront

end

/-! ### Captures -/

/-- Whether a part captures what it matches. -/
def isCapture : PatternPart → Bool
  | .exactly _ | .optional _ => false
  | .run _ | .run1 _ | .upToLast _ => true

section
variable {cs : List Char} {parts : List PatternPart} {captures : List String}

theorem length_of_matchAt (h : matchAt parts cs = some captures) :
    captures.length = (parts.filter isCapture).length := by
  induction parts generalizing cs captures with
  | nil =>
    rw [matchAt, Option.some_inj] at h
    rw [← h]
    rfl
  | cons part parts ih =>
    cases part with
    | exactly piece =>
      rw [matchAt] at h
      split at h
      · exact ih h
      · cases h
    | optional c =>
      cases cs with
      | nil => exact ih h
      | cons d rest =>
        rw [matchAt] at h
        split at h <;> exact ih h
    | run isIn =>
      obtain ⟨rest, hrest, rfl⟩ := Option.map_eq_some_iff.mp h
      rw [List.length_cons, ih hrest]
      rfl
    | run1 isIn =>
      rw [matchAt] at h
      split at h
      · cases h
      · obtain ⟨rest, hrest, rfl⟩ := Option.map_eq_some_iff.mp h
        rw [List.length_cons, ih hrest]
        rfl
    | upToLast c =>
      rw [matchAt] at h
      split at h
      · obtain ⟨rest, hrest, rfl⟩ := Option.map_eq_some_iff.mp h
        rw [List.length_cons, ih hrest]
        rfl
      · cases h

/-- What a pattern captures has one text for each part that captures. -/
theorem length_of_searchFrom (h : searchFrom parts cs = some captures) :
    captures.length = (parts.filter isCapture).length := by
  induction cs with
  | nil => exact length_of_matchAt h
  | cons c cs ih =>
    rw [searchFrom] at h
    split at h
    · rw [Option.some_inj] at h
      rw [← h]
      exact length_of_matchAt ‹matchAt parts (c :: cs) = _›
    · exact ih h

end

end PatternPart

end TableQuery
