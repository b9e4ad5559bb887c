import TableQuery.Number.Numeral
import TableQuery.Proofs.Cutting

/-! Numbers written in decimal digits and read back. -/

namespace TableQuery

theorem digit_range {c : Char} (h : c.isDigit = true) : 48 ≤ c.toNat ∧ c.toNat ≤ 57 := by
  obtain ⟨hlow, hhigh⟩ := Bool.and_eq_true_iff.mp h
  exact ⟨of_decide_eq_true hlow, of_decide_eq_true hhigh⟩

theorem digitValue?_of_isDigit {c : Char} (h : c.isDigit = true) : digitValue? c = some (c.toNat - 48) := by
  obtain ⟨hlow, hhigh⟩ := digit_range h
  have hascii : c.toNat < 128 := by omega
  have hbounds : '0' ≤ c ∧ c ≤ '9' := ⟨hlow, hhigh⟩
  rw [digitValue?, if_pos hascii, if_pos hbounds]

theorem isBlank_of_isDigit {c : Char} (h : c.isDigit = true) : isBlank c = false := by
  obtain ⟨hlow, hhigh⟩ := digit_range h
  simp only [isBlank, Bool.or_eq_false_iff, Bool.and_eq_false_iff, decide_eq_false_iff_not]
  omega

section
variable {cs : List Char}

theorem takeDigits_of_digits (h : ∀ c ∈ cs, c.isDigit = true) (afterDigit : Bool) :
    takeDigits afterDigit cs = (cs.map fun c => c.toNat - 48, []) := by
  induction cs generalizing afterDigit with
  | nil => rfl
  | cons c cs ih =>
    obtain ⟨hc, hcs⟩ := List.forall_mem_cons.mp h
    cases cs with
    | nil => rw [takeDigits, digitValue?_of_isDigit hc, List.map_singleton]
    | cons d cs =>
      rw [takeDigits, digitValue?_of_isDigit hc, ih hcs]
      rfl

theorem takeSign_of_digits (h : ∀ c ∈ cs, c.isDigit = true) : takeSign cs = (false, cs) := by
  cases cs with
  | nil => rfl
  | cons c cs =>
    have hc : c.isDigit = true := h c List.mem_cons_self
    unfold takeSign
    split
    · rename_i heq
      cases heq
      cases hc
    · rename_i heq
      cases heq
      cases hc
    · rfl

theorem trimNumeral_of_digits (h : ∀ c ∈ cs, c.isDigit = true) : trimNumeral cs = cs := by
  have hblank : ∀ c ∈ cs, isNumeralBlank c = false := by
    intro c hc
    rw [isNumeralBlank, isBlank_of_isDigit (h c hc), Bool.false_and]
  have hfront : cs.dropWhile isNumeralBlank = cs :=
    dropWhile_eq_self fun c hc => hblank c (List.mem_of_mem_head? hc)
  have hback : cs.reverse.dropWhile isNumeralBlank = cs.reverse :=
    dropWhile_eq_self fun c hc => hblank c (List.mem_reverse.mp (List.mem_of_mem_head? hc))
  rw [trimNumeral, hfront, hback, List.reverse_reverse]

/-- Digits are read as the number that they write. -/
theorem readInt_of_digits (h : ∀ c ∈ cs, c.isDigit = true) (hne : cs ≠ []) (hlength : cs.length ≤ maxNumeralDigits) :
    readInt cs = .ok (Nat.ofDigitChars 10 cs 0) := by
  have hvalue : ofDigits (cs.map fun c => c.toNat - 48) = Nat.ofDigitChars 10 cs 0 := by
    rw [ofDigits, List.foldl_map, Nat.ofDigitChars]
    simp only [Nat.mul_comm]
    rfl
  rw [readInt, trimNumeral_of_digits h, takeSign_of_digits h]
  dsimp only
  rw [takeDigits_of_digits h]
  simp [hne, Nat.not_lt.mpr hlength, hvalue]

end

section
variable {n : Nat}

theorem isDigit_of_mem_natText {c : Char} (h : c ∈ (natText n).toList) : c.isDigit = true := by
  rw [natText, String.toList_ofList] at h
  exact Nat.isDigit_of_mem_toDigits (by decide) (by decide) h

theorem toList_natText_ne_nil (n : Nat) : (natText n).toList ≠ [] := by
  rw [natText, String.toList_ofList]
  exact Nat.toDigits_ne_nil

/-- The decimal text of a number is read as the number, unless it is too long. -/
theorem readInt_natText (h : digitCount n ≤ maxNumeralDigits) : readInt (natText n).toList = .ok n := by
  have hlength : (natText n).toList.length ≤ maxNumeralDigits := by
    rw [natText, String.toList_ofList]
    exact h
  have hvalue : Nat.ofDigitChars 10 (natText n).toList 0 = n := by
    rw [natText, String.toList_ofList]
    exact Nat.ofDigitChars_toDigits (by decide) (by decide)
  rw [readInt_of_digits (fun _ hc => isDigit_of_mem_natText hc) (toList_natText_ne_nil n) hlength, hvalue]

end
end TableQuery
