import TableQuery.Proofs.NearestDoubles
import TableQuery.Proofs.ReadRequests

/-! Sums of whole numbers. A sum that arrives as a whole number is handed on as it is; one that arrives as a decimal
    number goes through a floating-point number, and is the same only if there is such a number for it. -/

namespace TableQuery
open Program

namespace Decimal

/-- The whole number that a decimal number is: its coefficient with zeros behind it, or without the zeros that stand
    behind the point. -/
def Denotes (d : Decimal) (n : Int) : Prop := ∃ negative c e, ∃ size : Nat, d = .finite negative c e ∧
  c * 10 ^ e.toNat = size * 10 ^ (-e).toNat ∧ n = if negative then -(size : Int) else size

/-- What becomes of a sum that arrives as a decimal number: itself, if there is a floating-point number for it, as there
    always is up to `2 ^ 53`; else a whole number close to it, or infinity if it is out of range. -/
structure Summed (n : Int) (total : Value) : Prop where
  exact_iff : total = .int n ↔ Double.Holds n.natAbs
  small : n.natAbs ≤ 2 ^ 53 → total = .int n
  close : ∀ m, total = .int m → 2 ^ 53 * (m - n).natAbs ≤ n.natAbs
  inRange : n.natAbs < (2 ^ 54 - 1) * 2 ^ 970 → ∃ m, total = .int m
  infinite : (2 ^ 54 - 1) * 2 ^ 970 ≤ n.natAbs → total = .double (.infinite (decide (n < 0)))

end Decimal

namespace Double
variable {c n : Nat} {e : Int}

/-! ### Digits -/

theorem lt_ten_pow_digitCount (c : Nat) : c < 10 ^ digitCount c :=
  (Nat.length_toDigits_le_iff (by decide) Nat.length_toDigits_pos).mp (Nat.le_refl _)

theorem ten_pow_le_of_lt_digitCount {k : Nat} (hc : 0 < c) (h : k < digitCount c) : 10 ^ k ≤ c := by
  rcases Nat.eq_zero_or_pos k with rfl | hk
  · exact hc
  · exact Nat.le_of_not_lt fun hlt =>
      Nat.not_le.mpr h ((Nat.length_toDigits_le_iff (by decide) hk).mpr hlt)

/-- A number of more than four hundred digits is out of range. -/
theorem overflow_le_ten_pow : (2 ^ 54 - 1) * 2 ^ 970 ≤ 10 ^ 400 := by
  have hten (k r : Nat) (h : 54 + r ≤ 13 * k) : (2 ^ 54 - 1) * 2 ^ r ≤ 10 ^ (4 * k) := by
    calc (2 ^ 54 - 1) * 2 ^ r ≤ 2 ^ 54 * 2 ^ r := Nat.mul_le_mul_right _ (Nat.sub_le _ _)
      _ = 2 ^ (54 + r) := (Nat.pow_add 2 54 r).symm
      _ ≤ 2 ^ (13 * k) := Nat.pow_le_pow_right (by decide) h
      _ = (2 ^ 13) ^ k := Nat.pow_mul 2 13 k
      _ ≤ (10 ^ 4) ^ k := Nat.pow_le_pow_left (by decide) k
      _ = 10 ^ (4 * k) := (Nat.pow_mul 10 4 k).symm
  have h := hten 100 970 (by decide)
  rwa [show 4 * 100 = 400 from rfl] at h

section
variable (hn : 0 < n) (h : c * 10 ^ e.toNat = n * 10 ^ (-e).toNat)
include hn h

theorem coefficient_pos : 0 < c := by
  refine Nat.pos_of_ne_zero fun hc => ?_
  rw [hc, Nat.zero_mul] at h
  exact (Nat.mul_pos hn (Nat.pow_pos (by decide))).ne h

/-- A whole number has a digit in front of the point. -/
theorem magnitude_pos : 0 < e + digitCount c := by
  have hc := coefficient_pos hn h
  have hdigits : 0 < digitCount c := Nat.length_toDigits_pos
  by_contra hle
  have hlt : c < n * 10 ^ (-e).toNat := by
    calc c < 10 ^ digitCount c := lt_ten_pow_digitCount c
      _ ≤ 10 ^ (-e).toNat := Nat.pow_le_pow_right (by decide) (by omega)
      _ ≤ n * 10 ^ (-e).toNat := Nat.le_mul_of_pos_left _ hn
  rw [← h, show e.toNat = 0 by omega, Nat.pow_zero, Nat.mul_one] at hlt
  exact Nat.lt_irrefl c hlt

theorem ten_pow_le_of_lt_magnitude {r : Nat} (hr : (r : Int) < e + digitCount c) : 10 ^ r ≤ n := by
  have hdigits : 0 < digitCount c := Nat.length_toDigits_pos
  have hleast : 10 ^ (digitCount c - 1) ≤ c := ten_pow_le_of_lt_digitCount (coefficient_pos hn h) (by omega)
  refine Nat.le_of_mul_le_mul_right (c := 10 ^ (-e).toNat) ?_ (Nat.pow_pos (by decide))
  rw [← h, ← Nat.pow_add]
  calc 10 ^ (r + (-e).toNat) ≤ 10 ^ (digitCount c - 1 + e.toNat) := Nat.pow_le_pow_right (by decide) (by omega)
    _ = 10 ^ (digitCount c - 1) * 10 ^ e.toNat := Nat.pow_add ..
    _ ≤ c * 10 ^ e.toNat := Nat.mul_le_mul_right _ hleast

/-- A whole number in decimal form is rounded as such, unless it is plain from its digits that it is out of range. -/
theorem ofScientific_whole :
    ((2 ^ 54 - 1) * 2 ^ 970 ≤ n ∧ ∀ negative, ofScientific negative c e = .infinite negative) ∨
      ∃ den, 0 < den ∧ ∀ negative, ofScientific negative c e = ofRatio negative (n * den) den := by
  have hc := coefficient_pos hn h
  have hmagnitude := magnitude_pos hn h
  have heq (negative : Bool) : ofScientific negative c e =
      if 400 < e + digitCount c then .infinite negative
      else if 0 ≤ e then ofRatio negative (c * 10 ^ e.toNat) 1
      else ofRatio negative c (10 ^ (-e).toNat) := by
    rw [ofScientific, if_neg hc.ne']
    dsimp only
    rw [if_neg (show ¬e + digitCount c < -400 by omega)]
    rfl
  by_cases hgreat : 400 < e + digitCount c
  · have hrange : 10 ^ 400 ≤ n := ten_pow_le_of_lt_magnitude hn h hgreat
    refine .inl ⟨Nat.le_trans overflow_le_ten_pow hrange, fun negative => ?_⟩
    rw [heq, if_pos hgreat]
  · right
    by_cases he : 0 ≤ e
    · refine ⟨1, Nat.one_pos, fun negative => ?_⟩
      rw [show (-e).toNat = 0 by omega, Nat.pow_zero] at h
      rw [heq, if_neg hgreat, if_pos he, h]
    · refine ⟨10 ^ (-e).toNat, Nat.pow_pos (by decide), fun negative => ?_⟩
      rw [show e.toNat = 0 by omega, Nat.pow_zero, Nat.mul_one] at h
      rw [heq, if_neg hgreat, if_neg he, h]

end

/-- What becomes of a whole number in decimal form. -/
theorem ofScientific_nearest (h : c * 10 ^ e.toNat = n * 10 ^ (-e).toNat) :
    n < (2 ^ 54 - 1) * 2 ^ 970 ∧ (∃ m : Nat, (m = n ↔ Holds n) ∧ 2 ^ 53 * ((m : Int) - n).natAbs ≤ n ∧
      ∀ negative, (ofScientific negative c e).toInt? = some (if negative then -(m : Int) else m)) ∨
    (2 ^ 54 - 1) * 2 ^ 970 ≤ n ∧ ∀ negative, ofScientific negative c e = .infinite negative := by
  rcases Nat.eq_zero_or_pos n with rfl | hn
  · obtain rfl : c = 0 := by
      rw [Nat.zero_mul] at h
      exact (Nat.mul_eq_zero.mp h).resolve_right (Nat.pow_pos (by decide)).ne'
    have hrange : 0 < (2 ^ 54 - 1) * 2 ^ 970 := Nat.lt_of_lt_of_le (by decide) (two_pow_le_overflow 970)
    exact .inl ⟨hrange, 0, iff_of_true rfl (holds_of_le (Nat.zero_le _)), Nat.le_refl 0,
      fun negative => (hasValue_zero negative minExponent).toInt? Nat.one_pos⟩
  · rcases ofScientific_whole hn h with hover | ⟨den, hden, hround⟩
    · exact .inr hover
    · simp only [hround]
      exact ofRatio_whole hden hn

end Double

/-! ### Decimal numbers -/

namespace Decimal
variable {d : Decimal} {n : Int}

/-- A sum that is out of range. -/
theorem summed_infinite (hn : (2 ^ 54 - 1) * 2 ^ 970 ≤ n.natAbs) : Summed n (.double (.infinite (decide (n < 0)))) := by
  have hlost : ¬Double.Holds n.natAbs := fun h => Nat.not_le.mpr h.lt_overflow hn
  refine ⟨iff_of_false nofun hlost, fun h => absurd (Double.holds_of_le h) hlost, nofun, fun h => ?_, fun _ => rfl⟩
  exact absurd hn (Nat.not_le.mpr h)

/-- A sum that is a whole number again. -/
theorem summed_whole {m : Int} (hn : n.natAbs < (2 ^ 54 - 1) * 2 ^ 970) (hm : m = n ↔ Double.Holds n.natAbs)
    (hclose : 2 ^ 53 * (m - n).natAbs ≤ n.natAbs) : Summed n (.int m) := by
  have hexact : Value.int m = .int n ↔ Double.Holds n.natAbs := by rw [Value.int.injEq, hm]
  refine ⟨hexact, fun h => hexact.mpr (Double.holds_of_le h), fun k hk => ?_, fun _ => ⟨m, rfl⟩, fun h => ?_⟩
  · rwa [← Value.int.inj hk]
  · exact absurd h (Nat.not_le.mpr hn)

theorem toSum_finite (negative : Bool) (c : Nat) (e : Int) : (Value.decimal (.finite negative c e)).toSum =
    match (Double.ofScientific negative c e).toInt? with
    | some m => .ok (.int m)
    | none => .ok (.double (Double.ofScientific negative c e)) := rfl

/-- A decimal number that is a whole number is handed on as what is nearest to it. -/
theorem exists_summed (h : d.Denotes n) : ∃ total, (Value.decimal d).toSum = .ok total ∧ Summed n total := by
  obtain ⟨negative, c, e, size, rfl, hvalue, rfl⟩ := h
  have habs : (if negative then -(size : Int) else size).natAbs = size := by cases negative <;> simp
  rw [toSum_finite]
  rcases Double.ofScientific_nearest hvalue with ⟨hrange, m, hm, hclose, hint⟩ | ⟨hover, hinfinite⟩
  · have hsame : (if negative then -(m : Int) else m) = (if negative then -(size : Int) else size) ↔ m = size := by
      cases negative <;> simp
    have hdistance : ((if negative then -(m : Int) else m) - (if negative then -(size : Int) else size)).natAbs =
        ((m : Int) - size).natAbs := by
      cases negative
      · rfl
      · simp only [if_true]
        omega
    rw [hint]
    refine ⟨_, rfl, summed_whole ?_ ?_ ?_⟩
    · rwa [habs]
    · rwa [habs, hsame]
    · rwa [habs, hdistance]
  · have hsign : decide ((if negative then -(size : Int) else size) < 0) = negative := by
      have hpos : 0 < size := Nat.lt_of_lt_of_le (by decide) (Nat.le_trans (Double.two_pow_le_overflow 970) hover)
      cases negative
      · exact decide_eq_false (by simp)
      · exact decide_eq_true (by simp [hpos])
    rw [hinfinite]
    have hsummed := summed_infinite (n := if negative then -(size : Int) else size) (by rwa [habs])
    rw [hsign] at hsummed
    exact ⟨_, rfl, hsummed⟩

end Decimal

/-! ### The operation -/

/-- A sum is asked for once, with the checked column and under the predicate of the query, unless the query or the
    column is refused. A whole number in answer is handed on as it is. A decimal number that is a whole number is handed
    on as that number if there is a floating-point number for it, and otherwise as another whole number close to it, or
    as infinity. -/
theorem Selection.sum_of_whole (s : Selection) (field timeout : Value) :
    (∃ f, s.sum field timeout = .fail f ∧
      (s.aggregateSelect = .error f ∨ ∀ column, field = .text column → isName column = false)) ∨
    ∃ (statement : Select) (column : String) (next : Value → Program Value),
      s.Reads s.query statement ∧ field = .text column ∧ isName column = true ∧
      s.sum field timeout = .ask ⟨.value, statement.aggregate s.dialect "SUM" column, s.callTimeout timeout⟩ next ∧
      (∀ n, next (.int n) = .done (.int n)) ∧ (∀ b, next (.bool b) = .done (.bool b)) ∧
      ∀ (d : Decimal) (n : Int), d.Denotes n → ∃ total, next (.decimal d) = .done total ∧ Decimal.Summed n total := by
  unfold sum aggregate
  cases hst : s.aggregateSelect with
  | error f => exact .inl ⟨f, rfl, .inl rfl⟩
  | ok statement =>
    cases hcolumn : Compiler.ofQuery (field.asName "aggregate field") with
    | error f =>
      refine .inl ⟨f, rfl, .inr fun column hfield => Bool.eq_false_iff.mpr fun hname => ?_⟩
      cases (mapError_eq_ok.mpr (Value.asName_eq_ok.mpr ⟨hfield, hname⟩)).symm.trans hcolumn
    | ok column =>
      obtain ⟨hfield, hname⟩ := Value.asName_eq_ok.mp (mapError_eq_ok.mp hcolumn)
      refine .inr ⟨statement, column, fun v => Program.lift v.toSum, reads_of_aggregateSelect hst, hfield, hname, rfl,
        fun _ => rfl, fun _ => rfl, fun d n hd => ?_⟩
      obtain ⟨total, htotal, hsummed⟩ := Decimal.exists_summed hd
      exact ⟨total, congrArg Program.lift htotal, hsummed⟩

/-- The sum `2 ^ 53 + 1`, as a whole number and as a decimal number. -/
theorem Selection.sum_of_whole_posts :
    let posts : Table := ⟨"posts", "id", false, none, none, none, []⟩
    let s := Selection.all .sqlite posts .standard
    ∃ (statement : Select) (next : Value → Program Value),
      s.sum (.text "amount") .null = .ask ⟨.value, statement.aggregate .sqlite "SUM" "amount", .null⟩ next ∧
      next (.int 9007199254740993) = .done (.int 9007199254740993) ∧
      ∃ m, next (.decimal (.finite false 90071992547409930 (-1))) = .done (.int m) ∧ m ≠ 9007199254740993 := by
  intro posts s
  have hlost : ¬Double.Holds 9007199254740993 := by
    have hdvd : Double.Holds 9007199254740993 ↔ 2 ^ 1 ∣ 9007199254740993 ∧ 9007199254740993 < Double.limit :=
      Double.holds_iff_dvd (by decide) (by decide)
    exact fun h => absurd (hdvd.mp h).1 (by decide)
  have hrange (r : Nat) : 9007199254740993 < (2 ^ 54 - 1) * 2 ^ r :=
    Nat.lt_of_lt_of_le (by decide) (Nat.le_mul_of_pos_right (2 ^ 54 - 1) (Nat.two_pow_pos r))
  rcases sum_of_whole s (.text "amount") .null with
    ⟨f, hf, -⟩ | ⟨statement, column, next, -, hfield, -, hask, hint, -, hdecimal⟩
  · nomatch hf
  · cases hfield
    obtain ⟨total, htotal, hsummed⟩ := hdecimal (.finite false 90071992547409930 (-1)) 9007199254740993
      ⟨false, 90071992547409930, -1, 9007199254740993, rfl, by decide, rfl⟩
    obtain ⟨m, rfl⟩ := hsummed.inRange (hrange 970)
    refine ⟨statement, next, hask, hint _, m, htotal, ?_⟩
    rintro rfl
    exact hlost (hsummed.exact_iff.mp rfl)

end TableQuery
