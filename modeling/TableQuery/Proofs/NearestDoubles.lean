import Mathlib.Tactic.Linarith
import Mathlib.Tactic.Ring
import TableQuery.Number.Double

/-! Quotients of whole numbers as floating-point numbers. A quotient below `2 ^ 53` becomes the nearest multiple of a
    power of a half; from there on the floating-point numbers are whole, and a quotient becomes the nearest of them, if
    that is in range. Which whole numbers are among them is said without rounding. -/

namespace TableQuery

/-! ### The nearest whole number -/

section
variable {num den a : Nat} (hden : 0 < den)
include hden

theorem ceilDiv_le_iff : ceilDiv num den ≤ a ↔ num ≤ a * den := by
  unfold ceilDiv
  rw [← Nat.lt_succ_iff, Nat.div_lt_iff_lt_mul hden, Nat.succ_mul]
  omega

theorem ceilDiv_mul_lt (num : Nat) : ceilDiv num den * den < num + den := by
  have hle : ceilDiv num den * den ≤ num + (den - 1) := Nat.div_mul_le_self _ den
  omega

/-- Up to a half above a whole number the quotient is rounded down to it, at a half if it is even. -/
theorem roundHalfEven_le_iff :
    roundHalfEven num den ≤ a ↔ 2 * num < (2 * a + 1) * den ∨ 2 * num = (2 * a + 1) * den ∧ a % 2 = 0 := by
  have hsplit := Nat.div_add_mod num den
  have hrest := Nat.mod_lt num hden
  unfold roundHalfEven
  dsimp only
  generalize num / den = q at *
  generalize num % den = r at *
  have hodd : (2 * a + 1) * den = 2 * (den * a) + den := by ring
  rw [hodd]
  rcases Nat.lt_trichotomy a q with hlt | rfl | hlt
  · obtain ⟨k, rfl⟩ := Nat.exists_eq_add_of_lt hlt
    have hmul : den * (a + k + 1) = den * a + den * k + den := by ring
    split
    · omega
    · split <;> omega
  · split
    · omega
    · split <;> omega
  · obtain ⟨k, rfl⟩ := Nat.exists_eq_add_of_lt hlt
    have hmul : den * (q + k + 1) = den * q + den * k + den := by ring
    split
    · omega
    · split <;> omega

theorem roundHalfEven_le (h : num ≤ a * den) : roundHalfEven num den ≤ a := by
  rw [roundHalfEven_le_iff hden]
  left
  have hodd : (2 * a + 1) * den = 2 * (a * den) + den := by ring
  omega

theorem le_roundHalfEven (h : a * den ≤ num) : a ≤ roundHalfEven num den := by
  by_contra hlt
  obtain ⟨b, rfl⟩ : ∃ b, a = b + 1 := Nat.exists_eq_succ_of_ne_zero (by omega)
  have hle := (roundHalfEven_le_iff hden).mp (Nat.le_of_lt_succ (Nat.lt_of_not_le hlt))
  have hnext : (b + 1) * den = b * den + den := Nat.succ_mul b den
  have hodd : (2 * b + 1) * den = 2 * (b * den) + den := by ring
  omega

/-- The nearest whole number is at most a half away. -/
theorem roundHalfEven_close (num : Nat) :
    2 * num ≤ (2 * roundHalfEven num den + 1) * den ∧ 2 * roundHalfEven num den * den ≤ 2 * num + den := by
  have hself := (roundHalfEven_le_iff hden).mp (Nat.le_refl (roundHalfEven num den))
  refine ⟨by omega, ?_⟩
  cases hround : roundHalfEven num den with
  | zero => omega
  | succ b =>
    have hnot : ¬roundHalfEven num den ≤ b := by omega
    rw [roundHalfEven_le_iff hden] at hnot
    have heven : 2 * (b + 1) * den = (2 * b + 1) * den + den := by ring
    omega

theorem roundHalfEven_mul : roundHalfEven (a * den) den = a :=
  Nat.le_antisymm (roundHalfEven_le hden (Nat.le_refl _)) (le_roundHalfEven hden (Nat.le_refl _))

end

namespace Double

/-- A whole number that a floating-point number can be: 53 binary digits with zeros behind them, in range. -/
def Holds (n : Nat) : Prop := ∃ m e, m < 2 ^ 53 ∧ e ≤ 971 ∧ n = m * 2 ^ e

/-- The least whole number that is out of range. -/
def limit : Nat := 2 ^ 1024

/-- A finite number of the given sign that is `num / den` but for its sign. -/
def HasValue (x : Double) (negative : Bool) (num den : Nat) : Prop :=
  ∃ m e, x = .finite negative m e ∧ (ratio m e).1 * den = num * (ratio m e).2

variable {negative : Bool} {num den m n : Nat} {x : Double}

/-! ### Values -/

theorem ratio_natCast (m e : Nat) : ratio m (e : Int) = (m * 2 ^ e, 1) := by
  rw [ratio, if_pos (Int.natCast_nonneg e), Int.toNat_natCast]
  rfl

theorem ratio_neg_natCast (m e : Nat) : ratio m (-(e : Int)) = (m, 2 ^ e) := by
  cases e with
  | zero => exact congrArg (·, 1) (Nat.mul_one m)
  | succ e =>
    rw [ratio, if_neg (by omega), Int.neg_neg, Int.toNat_natCast]
    rfl

theorem ratio_den_pos (m : Nat) (e : Int) : 0 < (ratio m e).2 := by
  rw [ratio]
  split
  · exact Nat.one_pos
  · exact Nat.pow_pos (by decide)

theorem hasValue_zero (negative : Bool) (e : Int) : (finite negative 0 e).HasValue negative 0 1 := by
  refine ⟨0, e, rfl, ?_⟩
  unfold ratio
  split <;> simp

theorem HasValue.ceil? (h : x.HasValue false num den) (hden : 0 < den) :
    x.ceil? = some ((ceilDiv num den : Nat) : Int) := by
  obtain ⟨m, e, rfl, hvalue⟩ := h
  have hpos := ratio_den_pos m e
  have hle (a : Nat) : ceilDiv (ratio m e).1 (ratio m e).2 ≤ a ↔ ceilDiv num den ≤ a := by
    rw [ceilDiv_le_iff hpos, ceilDiv_le_iff hden, ← Nat.mul_le_mul_right_iff hden, hvalue, Nat.mul_right_comm,
      Nat.mul_le_mul_right_iff hpos]
  have heq : ceilDiv (ratio m e).1 (ratio m e).2 = ceilDiv num den :=
    Nat.le_antisymm ((hle _).mpr (Nat.le_refl _)) ((hle _).mp (Nat.le_refl _))
  rw [Double.ceil?, ← heq]
  rfl

theorem HasValue.toInt? (h : x.HasValue negative (n * den) den) (hden : 0 < den) :
    x.toInt? = some (if negative then -(n : Int) else n) := by
  obtain ⟨m, e, rfl, hvalue⟩ := h
  have hpos := ratio_den_pos m e
  rw [Nat.mul_right_comm] at hvalue
  have heq : (ratio m e).1 = n * (ratio m e).2 := Nat.eq_of_mul_eq_mul_right hden hvalue
  rw [Double.toInt?]
  dsimp only
  rw [heq, Nat.mul_mod_left, if_pos rfl, Nat.mul_div_cancel _ hpos]

/-! ### The distance of the numbers around a quotient -/

/-- The logarithms of `num` and `den` give that of their quotient, or one more. -/
theorem stepExponent_of_log2 (hden : 0 < den) {k : Nat}
    (hguess : (Nat.log2 num : Int) - (Nat.log2 den : Int) - 52 = (k : Int) - 52) :
    stepExponent num den = max (if num / den < 2 ^ k then (k : Int) - 52 - 1 else (k : Int) - 52) minExponent := by
  have hwhole : (if 0 ≤ (k : Int) - 52 then num / (den * Nat.pow 2 ((k : Int) - 52).toNat)
      else num * Nat.pow 2 (-((k : Int) - 52)).toNat / den) < Nat.pow 2 52 ↔ num / den < 2 ^ k := by
    simp only [Nat.pow_eq]
    rw [Nat.div_lt_iff_lt_mul hden]
    split
    case isTrue hnonneg =>
      obtain ⟨z, rfl⟩ : ∃ z, k = 52 + z := ⟨k - 52, by omega⟩
      rw [show ((52 + z : Nat) - 52 : Int).toNat = z by omega,
        Nat.div_lt_iff_lt_mul (Nat.mul_pos hden (Nat.two_pow_pos z)), Nat.pow_add, Nat.mul_comm den, Nat.mul_assoc]
    case isFalse hneg =>
      obtain ⟨z, hz⟩ : ∃ z, 52 = k + z := ⟨52 - k, by omega⟩
      rw [show (-((k : Int) - 52)).toNat = z by omega, Nat.div_lt_iff_lt_mul hden, hz, Nat.pow_add,
        Nat.mul_right_comm, Nat.mul_lt_mul_right (Nat.two_pow_pos z)]
  unfold stepExponent
  dsimp only
  rw [hguess]
  simp only [hwhole]

/-- The significand of a quotient that is at least one has 53 digits. -/
theorem stepExponent_eq (hden : 0 < den) (h : den ≤ num) :
    stepExponent num den = (Nat.log2 (num / den) : Int) - 52 := by
  have hnum : num ≠ 0 := by omega
  have hquot : num / den ≠ 0 := Nat.div_ne_zero_iff.mpr ⟨by omega, h⟩
  have hle : Nat.log2 den ≤ Nat.log2 num := (Nat.le_log2 hnum).mpr (Nat.le_trans (Nat.log2_self_le (by omega)) h)
  obtain ⟨k, hk⟩ : ∃ k, Nat.log2 num = Nat.log2 den + k := ⟨_, (Nat.add_sub_cancel' hle).symm⟩
  have hguess : (Nat.log2 num : Int) - (Nat.log2 den : Int) - 52 = (k : Int) - 52 := by omega
  have hlower := Nat.log2_self_le (n := num) hnum
  have hupper := Nat.lt_log2_self (n := num)
  have hlowerDen := Nat.log2_self_le (n := den) (by omega)
  have hupperDen := Nat.lt_log2_self (n := den)
  rw [hk] at hlower hupper
  have hbelow : num / den < 2 ^ (k + 1) := by
    rw [Nat.div_lt_iff_lt_mul hden]
    calc num < 2 ^ (k + 1) * 2 ^ Nat.log2 den := by rwa [← Nat.pow_add, Nat.add_comm (k + 1), ← Nat.add_assoc]
      _ ≤ 2 ^ (k + 1) * den := Nat.mul_le_mul_left _ hlowerDen
  rw [stepExponent_of_log2 hden hguess]
  dsimp only [minExponent]
  split
  case isTrue hlt =>
    obtain ⟨j, rfl⟩ : ∃ j, k = j + 1 := Nat.exists_eq_succ_of_ne_zero (by
      rintro rfl
      exact hquot (Nat.lt_one_iff.mp hlt))
    have hlog : Nat.log2 (num / den) = j := by
      refine (Nat.log2_eq_iff hquot).mpr ⟨?_, hlt⟩
      rw [Nat.le_div_iff_mul_le hden]
      calc 2 ^ j * den ≤ 2 ^ j * 2 ^ (Nat.log2 den + 1) := Nat.mul_le_mul_left _ hupperDen.le
        _ = 2 ^ (Nat.log2 den + (j + 1)) := by rw [← Nat.pow_add]; congr 1; omega
        _ ≤ num := hlower
    omega
  case isFalse hge =>
    have hlog : Nat.log2 (num / den) = k := (Nat.log2_eq_iff hquot).mpr ⟨Nat.le_of_not_lt hge, hbelow⟩
    omega

theorem stepExponent_le (hden : 0 < den) (hnum : 0 < num) (h : num < den) : stepExponent num den ≤ -52 := by
  have hle : Nat.log2 num ≤ Nat.log2 den :=
    (Nat.le_log2 (by omega)).mpr (Nat.le_trans (Nat.log2_self_le (by omega)) h.le)
  unfold stepExponent
  dsimp only [minExponent]
  split <;> omega

/-- A significand that is rounded up to 54 digits loses a zero at the end. -/
theorem exists_ofRatio_eq (den : Nat) (hnum : 0 < num) :
    ∃ m' carry : Nat, steps num den (stepExponent num den) = m' * 2 ^ carry ∧ carry ≤ 1 ∧ m' ≠ 2 ^ 53 ∧
      (2 ^ 52 ≤ steps num den (stepExponent num den) → 2 ^ 52 ≤ m') ∧
      ∀ negative, ofRatio negative num den =
        if maxExponent < stepExponent num den + carry then .infinite negative
        else .finite negative m' (stepExponent num den + carry) := by
  by_cases hcarry : steps num den (stepExponent num den) = Nat.pow 2 53
  · refine ⟨2 ^ 52, 1, by rw [hcarry]; rfl, by decide, by decide, fun _ => Nat.le_refl _, fun negative => ?_⟩
    rw [ofRatio, if_neg (by omega)]
    dsimp only
    rw [if_pos hcarry]
    rfl
  · refine ⟨_, 0, (Nat.mul_one _).symm, by decide, hcarry, id, fun negative => ?_⟩
    rw [ofRatio, if_neg (by omega)]
    dsimp only
    rw [if_neg hcarry, Int.natCast_zero, Int.add_zero]

/-! ### Quotients below the whole numbers -/

/-- Below `2 ^ 53` a quotient becomes the nearest multiple of `1 / 2 ^ places`: of 53 binary digits those that are not
    in front of the point are behind it. -/
theorem ofRatio_fine (hden : 0 < den) (hnum : 0 < num) (h : num / den < 2 ^ 53) :
    ∃ places, (den ≤ num → Nat.log2 (num / den) + places = 52) ∧
      ∀ negative, (ofRatio negative num den).HasValue negative (roundHalfEven (num * 2 ^ places) den) (2 ^ places) := by
  obtain ⟨places, hexponent, hplaces⟩ : ∃ places : Nat, stepExponent num den = -(places : Int) ∧
      (den ≤ num → Nat.log2 (num / den) + places = 52) := by
    rcases Nat.lt_or_ge num den with hlt | hge
    · have hle := stepExponent_le hden hnum hlt
      exact ⟨(-stepExponent num den).toNat, by omega, fun hge => absurd hlt (Nat.not_lt.mpr hge)⟩
    · have hlog : Nat.log2 (num / den) < 53 :=
        (Nat.log2_lt (Nat.div_ne_zero_iff.mpr ⟨by omega, hge⟩)).mpr h
      refine ⟨52 - Nat.log2 (num / den), ?_, by omega⟩
      rw [stepExponent_eq hden hge]
      omega
  have hsteps : steps num den (-(places : Int)) = roundHalfEven (num * 2 ^ places) den := by
    cases places with
    | zero => simp [steps]
    | succ places =>
      rw [steps, if_neg (by omega), Int.neg_neg, Int.toNat_natCast]
      rfl
  obtain ⟨m', carry, hm, hcarry, -, -, heq⟩ := exists_ofRatio_eq den hnum
  rw [hexponent, hsteps] at hm
  refine ⟨places, hplaces, fun negative => ⟨m', -(places : Int) + carry, ?_, ?_⟩⟩
  · rw [heq, hexponent, if_neg (by dsimp only [maxExponent]; omega)]
  · rw [hm]
    rcases Nat.le_total carry places with hle | hle
    · obtain ⟨j, rfl⟩ := Nat.exists_eq_add_of_le hle
      rw [show -((carry + j : Nat) : Int) + carry = -(j : Int) by omega, ratio_neg_natCast, Nat.pow_add,
        Nat.mul_assoc]
    · obtain ⟨j, rfl⟩ := Nat.exists_eq_add_of_le hle
      rw [show -(places : Int) + (places + j : Nat) = (j : Int) by omega, ratio_natCast, Nat.pow_add]
      ring

/-! ### Whole quotients -/

/-- The floating-point number nearest to a quotient from `2 ^ 53` on, if the range of the exponents were unlimited:
    53 binary digits with zeros behind them. -/
def nearestWhole (num den : Nat) : Nat :=
  let zeros := Nat.log2 (num / den) - 52
  roundHalfEven num (den * 2 ^ zeros) * 2 ^ zeros

/-- From `2 ^ 53` on the point stands behind the significand and at least one zero. -/
theorem exists_zeros (hden : 0 < den) (h : 2 ^ 53 ≤ num / den) :
    ∃ zeros : Nat, 0 < zeros ∧ stepExponent num den = zeros ∧
      nearestWhole num den = roundHalfEven num (den * 2 ^ zeros) * 2 ^ zeros ∧
      2 ^ (zeros + 52) * den ≤ num ∧ num < 2 ^ (zeros + 53) * den := by
  have hquot : num / den ≠ 0 := by
    intro hzero
    rw [hzero] at h
    exact absurd h (by decide)
  have hlog : 53 ≤ Nat.log2 (num / den) := (Nat.le_log2 hquot).mpr h
  have hge : den ≤ num := (Nat.div_ne_zero_iff.mp hquot).2
  obtain ⟨zeros, hzeros⟩ : ∃ zeros, Nat.log2 (num / den) = zeros + 52 := ⟨_, (Nat.sub_add_cancel (by omega)).symm⟩
  obtain ⟨hlower, hupper⟩ := (Nat.log2_eq_iff hquot).mp hzeros
  refine ⟨zeros, by omega, ?_, ?_, (Nat.le_div_iff_mul_le hden).mp hlower, (Nat.div_lt_iff_lt_mul hden).mp hupper⟩
  · rw [stepExponent_eq hden hge]
    omega
  · rw [nearestWhole, hzeros, Nat.add_sub_cancel]

/-- A significand of 53 digits can only be rounded up to the least one of 54. -/
theorem roundHalfEven_bounds {zeros : Nat} (hden : 0 < den) (hlower : 2 ^ (zeros + 52) * den ≤ num)
    (hupper : num < 2 ^ (zeros + 53) * den) :
    2 ^ 52 ≤ roundHalfEven num (den * 2 ^ zeros) ∧ roundHalfEven num (den * 2 ^ zeros) ≤ 2 ^ 53 := by
  have hscale : 0 < den * 2 ^ zeros := Nat.mul_pos hden (Nat.two_pow_pos zeros)
  have hshift (digits : Nat) : 2 ^ (zeros + digits) * den = 2 ^ digits * (den * 2 ^ zeros) := by
    rw [Nat.pow_add]
    ring
  rw [hshift] at hlower hupper
  exact ⟨le_roundHalfEven hscale hlower, roundHalfEven_le hscale hupper.le⟩

theorem two_pow_le_nearestWhole (hden : 0 < den) (h : 2 ^ 53 ≤ num / den) : 2 ^ 53 ≤ nearestWhole num den := by
  obtain ⟨zeros, hpos, -, hnearest, hlower, hupper⟩ := exists_zeros hden h
  rw [hnearest]
  calc 2 ^ 53 = 2 ^ 52 * 2 := rfl
    _ ≤ roundHalfEven num (den * 2 ^ zeros) * 2 ^ zeros :=
      Nat.mul_le_mul (roundHalfEven_bounds hden hlower hupper).1 (Nat.le_self_pow hpos.ne' 2)

theorem mul_two_pow_lt {e r : Nat} (hm : m < 2 ^ 53) (he : e ≤ r) : m * 2 ^ e < 2 ^ (53 + r) := by
  rw [Nat.pow_add]
  exact Nat.mul_lt_mul_of_lt_of_le hm (Nat.pow_le_pow_right (by decide) he) (Nat.two_pow_pos r)

theorem two_pow_le_mul {e r : Nat} (hm : 2 ^ 52 ≤ m) (he : r < e) : 2 ^ (53 + r) ≤ m * 2 ^ e := by
  calc 2 ^ (53 + r) = 2 ^ 52 * 2 ^ (r + 1) := by rw [← Nat.pow_add]; congr 1; omega
    _ ≤ m * 2 ^ e := Nat.mul_le_mul hm (Nat.pow_le_pow_right (by decide) he)

theorem limit_eq : 2 ^ (53 + 971) = limit := by rw [show 53 + 971 = 1024 from rfl, limit]

/-- A significand of 53 digits is in range up to the greatest exponent. -/
theorem lt_limit_iff {e : Nat} (hleast : 2 ^ 52 ≤ m) (hmost : m < 2 ^ 53) : m * 2 ^ e < limit ↔ e ≤ 971 := by
  rw [← limit_eq]
  refine ⟨fun hlt => ?_, mul_two_pow_lt hmost⟩
  by_contra hgt
  exact Nat.not_le.mpr hlt (two_pow_le_mul hleast (Nat.lt_of_not_le hgt))

/-- From `2 ^ 53` on a quotient becomes the nearest number there is, and infinite where that is out of range. -/
theorem ofRatio_large (hden : 0 < den) (h : 2 ^ 53 ≤ num / den) :
    (nearestWhole num den < limit →
      ∀ negative, (ofRatio negative num den).HasValue negative (nearestWhole num den) 1) ∧
    (limit ≤ nearestWhole num den → ∀ negative, ofRatio negative num den = .infinite negative) := by
  obtain ⟨zeros, -, hexponent, hnearest, hlower, hupper⟩ := exists_zeros hden h
  have hnum : 0 < num := by
    rcases Nat.eq_zero_or_pos num with rfl | hnum
    · rw [Nat.zero_div] at h
      exact absurd h (by decide)
    · exact hnum
  obtain ⟨hfull, hround⟩ := roundHalfEven_bounds hden hlower hupper
  have hsteps : steps num den (zeros : Int) = roundHalfEven num (den * 2 ^ zeros) := by
    rw [steps, if_pos (Int.natCast_nonneg zeros), Int.toNat_natCast]
    rfl
  obtain ⟨m', carry, hm, hcarry, hne, hleast, heq⟩ := exists_ofRatio_eq den hnum
  rw [hexponent] at hm hleast heq
  rw [hsteps] at hm hleast
  have hmost : m' ≤ 2 ^ 53 := Nat.le_trans (Nat.le_mul_of_pos_right m' (Nat.two_pow_pos carry)) (hm ▸ hround)
  have hvalue : nearestWhole num den = m' * 2 ^ (zeros + carry) := by
    rw [hnearest, hm, Nat.pow_add]
    ring
  rw [hvalue]
  have hrange := lt_limit_iff (e := zeros + carry) (hleast hfull) (Nat.lt_of_le_of_ne hmost hne)
  refine ⟨fun hlt negative => ⟨m', (zeros + carry : Nat), ?_, ?_⟩, fun hge negative => ?_⟩
  · have hle := hrange.mp hlt
    rw [heq, if_neg (by dsimp only [maxExponent]; omega), Int.natCast_add]
  · rw [ratio_natCast]
  · have hgt := mt hrange.mpr (Nat.not_lt.mpr hge)
    rw [heq, if_pos (by dsimp only [maxExponent]; omega)]

/-! ### Whole numbers without rounding -/

theorem holds_of_le (h : n ≤ 2 ^ 53) : Holds n := by
  rcases Nat.eq_or_lt_of_le h with rfl | hlt
  · exact ⟨2 ^ 52, 1, by decide, by decide, rfl⟩
  · exact ⟨n, 0, hlt, by decide, (Nat.mul_one n).symm⟩

/-- Of the numbers with as many binary digits those can be that have zeros behind the first 53. -/
theorem holds_iff_dvd {zeros : Nat} (hlower : 2 ^ (zeros + 52) ≤ n) (hupper : n ≤ 2 ^ (zeros + 53)) :
    Holds n ↔ 2 ^ zeros ∣ n ∧ n < limit := by
  constructor
  · rintro ⟨m, e, hm, he, rfl⟩
    refine ⟨?_, ?_⟩
    · have hzeros : zeros + 52 < 53 + e := by
        rw [← Nat.pow_lt_pow_iff_right (by decide : 1 < 2), Nat.pow_add 2 53]
        exact Nat.lt_of_le_of_lt hlower (Nat.mul_lt_mul_of_pos_right hm (Nat.two_pow_pos e))
      exact Nat.dvd_trans (Nat.pow_dvd_pow 2 (by omega)) (Nat.dvd_mul_left _ m)
    · exact limit_eq ▸ mul_two_pow_lt hm he
  · rintro ⟨⟨m, rfl⟩, hlt⟩
    have hleast : 2 ^ 52 ≤ m := by
      rw [Nat.pow_add] at hlower
      exact Nat.le_of_mul_le_mul_left hlower (Nat.two_pow_pos zeros)
    have hmost : m ≤ 2 ^ 53 := by
      rw [Nat.pow_add] at hupper
      exact Nat.le_of_mul_le_mul_left hupper (Nat.two_pow_pos zeros)
    rw [Nat.mul_comm] at hlt ⊢
    rcases Nat.eq_or_lt_of_le hmost with rfl | hm
    · have htwice : 2 ^ 53 * 2 ^ zeros = 2 ^ 52 * 2 ^ (zeros + 1) := by ring
      rw [htwice] at hlt ⊢
      exact ⟨2 ^ 52, zeros + 1, by decide, (lt_limit_iff (Nat.le_refl _) (by decide)).mp hlt, rfl⟩
    · exact ⟨m, zeros, hm, (lt_limit_iff hleast hm).mp hlt, rfl⟩

theorem le_of_mul_le_add_half {a b half : Nat} (h : a * 2 ^ (half + 1) ≤ b * 2 ^ (half + 1) + 2 ^ half) : a ≤ b := by
  have htwice : 2 * a * 2 ^ half ≤ (2 * b + 1) * 2 ^ half := by
    calc 2 * a * 2 ^ half = a * 2 ^ (half + 1) := by ring
      _ ≤ b * 2 ^ (half + 1) + 2 ^ half := h
      _ = (2 * b + 1) * 2 ^ half := by ring
  have hle := Nat.le_of_mul_le_mul_right htwice (Nat.two_pow_pos half)
  omega

section
variable (hden : 0 < den) (h : 2 ^ 53 ≤ num / den) (hle : num ≤ n * den) (hlt : n * den < num + den)
include hden h hle hlt

/-- The next whole number above a quotient from `2 ^ 53` on is at most half a step from the nearest number, since half
    a step is a whole number too. -/
theorem exists_half_step :
    ∃ half count : Nat, 2 ^ (half + 1 + 52) ≤ n ∧ n ≤ 2 ^ (half + 1 + 53) ∧
      nearestWhole num den = count * 2 ^ (half + 1) ∧
      nearestWhole num den ≤ n + 2 ^ half ∧ n ≤ nearestWhole num den + 2 ^ half := by
  obtain ⟨zeros, hpos, -, hnearest, hlower, hupper⟩ := exists_zeros hden h
  obtain ⟨half, rfl⟩ : ∃ half, zeros = half + 1 := Nat.exists_eq_succ_of_ne_zero (by omega)
  have hscale : 0 < den * 2 ^ (half + 1) := Nat.mul_pos hden (Nat.two_pow_pos (half + 1))
  obtain ⟨habove, hbelow⟩ := roundHalfEven_close hscale num
  rw [hnearest]
  generalize roundHalfEven num (den * 2 ^ (half + 1)) = k at *
  have hup : (2 * k + 1) * (den * 2 ^ (half + 1)) = 2 * ((k * 2 ^ (half + 1) + 2 ^ half) * den) := by ring
  have hdown : 2 * k * (den * 2 ^ (half + 1)) = 2 * (k * 2 ^ (half + 1) * den) := by ring
  have hstep : den * 2 ^ (half + 1) = 2 * (2 ^ half * den) := by ring
  refine ⟨half, k, ?_, ?_, rfl, ?_, ?_⟩
  · exact Nat.le_of_mul_le_mul_right (Nat.le_trans hlower hle) hden
  · refine Nat.le_of_lt_succ (Nat.lt_of_mul_lt_mul_right (a := den) ?_)
    rw [Nat.succ_mul]
    omega
  · refine Nat.le_of_mul_le_mul_right (c := den) ?_ hden
    rw [Nat.add_mul]
    omega
  · refine Nat.le_of_lt_succ (Nat.lt_of_mul_lt_mul_right (a := den) ?_)
    rw [Nat.succ_mul]
    omega

/-- A quotient from `2 ^ 53` on is rounded to the next whole number exactly if that can be a number. -/
theorem nearestWhole_eq_iff : nearestWhole num den = n ∧ n < limit ↔ Holds n := by
  obtain ⟨half, k, hlower, hupper, hsteps, habove, hbelow⟩ := exists_half_step hden h hle hlt
  rw [holds_iff_dvd hlower hupper, and_congr_left_iff]
  intro _
  rw [hsteps] at habove hbelow ⊢
  constructor
  · rintro rfl
    exact Nat.dvd_mul_left _ _
  · rintro ⟨j, rfl⟩
    rw [Nat.mul_comm _ j] at habove hbelow ⊢
    rw [Nat.le_antisymm (le_of_mul_le_add_half habove) (le_of_mul_le_add_half hbelow)]

/-- The nearest number differs from the next whole number by a small part of it. -/
theorem nearestWhole_close : 2 ^ 53 * ((nearestWhole num den : Int) - n).natAbs ≤ n := by
  obtain ⟨half, -, hlower, -, -, habove, hbelow⟩ := exists_half_step hden h hle hlt
  calc 2 ^ 53 * ((nearestWhole num den : Int) - n).natAbs ≤ 2 ^ 53 * 2 ^ half := Nat.mul_le_mul_left _ (by omega)
    _ = 2 ^ (half + 1 + 52) := by rw [← Nat.pow_add, Nat.add_comm]
    _ ≤ n := hlower

end

/-- Half a step below a power of two with a significand of 53 digits a quotient is rounded up to it. -/
theorem two_pow_le_round_iff {zeros r : Nat} (hden : 0 < den) (hlower : 2 ^ (zeros + 52) * den ≤ num)
    (hupper : num < 2 ^ (zeros + 53) * den) :
    2 ^ (53 + (r + 1)) ≤ roundHalfEven num (den * 2 ^ zeros) * 2 ^ zeros ↔ (2 ^ 54 - 1) * 2 ^ r * den ≤ num := by
  obtain ⟨hfull, hround⟩ := roundHalfEven_bounds hden hlower hupper
  rcases Nat.lt_trichotomy zeros (r + 1) with hlt | rfl | hgt
  · have hle : 2 ^ (zeros + 53) ≤ 2 ^ (r + 53) := Nat.pow_le_pow_right (by decide) (by omega)
    refine iff_of_false (Nat.not_le.mpr ?_) (Nat.not_le.mpr ?_)
    · calc roundHalfEven num (den * 2 ^ zeros) * 2 ^ zeros ≤ 2 ^ 53 * 2 ^ zeros := Nat.mul_le_mul_right _ hround
        _ < 2 ^ (53 + (r + 1)) := by
          rw [← Nat.pow_add]
          exact Nat.pow_lt_pow_right (by decide) (by omega)
    · calc num < 2 ^ (zeros + 53) * den := hupper
        _ ≤ 2 ^ (r + 53) * den := Nat.mul_le_mul_right _ hle
        _ = 2 ^ 53 * 2 ^ r * den := by rw [Nat.add_comm, Nat.pow_add]
        _ ≤ (2 ^ 54 - 1) * 2 ^ r * den := Nat.mul_le_mul_right _ (Nat.mul_le_mul_right _ (by decide))
  · have hscale : 0 < den * 2 ^ (r + 1) := Nat.mul_pos hden (Nat.two_pow_pos (r + 1))
    obtain ⟨a, hnext, htwice, hodd⟩ : ∃ a, 2 ^ 53 = a + 1 ∧ 2 ^ 54 - 1 = 2 * a + 1 ∧ a % 2 = 1 :=
      ⟨2 ^ 53 - 1, by decide, by decide, by decide⟩
    have hhalf : (2 * a + 1) * (den * 2 ^ (r + 1)) = 2 * ((2 * a + 1) * 2 ^ r * den) := by
      rw [Nat.pow_succ]
      ring
    rw [htwice, Nat.pow_add, Nat.mul_le_mul_right_iff (Nat.two_pow_pos (r + 1)), hnext, ← not_iff_not, Nat.not_le,
      Nat.not_le, Nat.lt_succ_iff, roundHalfEven_le_iff hscale, hhalf]
    omega
  · refine iff_of_true (two_pow_le_mul hfull hgt) ?_
    calc (2 ^ 54 - 1) * 2 ^ r * den ≤ 2 ^ 54 * 2 ^ r * den :=
          Nat.mul_le_mul_right _ (Nat.mul_le_mul_right _ (Nat.sub_le _ _))
      _ = 2 ^ (54 + r) * den := by rw [Nat.pow_add]
      _ ≤ 2 ^ (zeros + 52) * den := Nat.mul_le_mul_right _ (Nat.pow_le_pow_right (by decide) (by omega))
      _ ≤ num := hlower

theorem two_pow_le_overflow (r : Nat) : 2 ^ 53 ≤ (2 ^ 54 - 1) * 2 ^ r :=
  Nat.le_trans (by decide) (Nat.le_mul_of_pos_right (2 ^ 54 - 1) (Nat.two_pow_pos r))

/-- The number out of range that is next to the greatest one is nearer from half the distance of the two on. -/
theorem limit_le_nearestWhole_iff (hden : 0 < den) (h : 2 ^ 53 ≤ num / den) :
    limit ≤ nearestWhole num den ↔ (2 ^ 54 - 1) * 2 ^ 970 * den ≤ num := by
  obtain ⟨zeros, -, -, hnearest, hlower, hupper⟩ := exists_zeros hden h
  rw [hnearest, ← limit_eq, ← two_pow_le_round_iff hden hlower hupper]

theorem Holds.lt_overflow (h : Holds n) : n < (2 ^ 54 - 1) * 2 ^ 970 := by
  have hrange (m e r : Nat) (hm : m < 2 ^ 53) (he : e ≤ r + 1) : m * 2 ^ e < (2 ^ 54 - 1) * 2 ^ r := by
    calc m * 2 ^ e ≤ (2 ^ 53 - 1) * 2 ^ (r + 1) :=
          Nat.mul_le_mul (Nat.le_pred_of_lt hm) (Nat.pow_le_pow_right (by decide) he)
      _ = (2 ^ 54 - 2) * 2 ^ r := by
        rw [Nat.pow_succ' (n := r), ← Nat.mul_assoc, show (2 ^ 53 - 1) * 2 = 2 ^ 54 - 2 from by decide]
      _ < (2 ^ 54 - 1) * 2 ^ r := Nat.mul_lt_mul_of_pos_right (by decide) (Nat.two_pow_pos r)
  obtain ⟨m, e, hm, he, rfl⟩ := h
  exact hrange m e 970 hm he

/-- What becomes of a whole number: itself, if it can be a number; a whole number close to it, if it is in range;
    else it becomes infinite. -/
theorem ofRatio_whole (hden : 0 < den) (hn : 0 < n) :
    n < (2 ^ 54 - 1) * 2 ^ 970 ∧ (∃ m : Nat, (m = n ↔ Holds n) ∧ 2 ^ 53 * ((m : Int) - n).natAbs ≤ n ∧
      ∀ negative, (ofRatio negative (n * den) den).toInt? = some (if negative then -(m : Int) else m)) ∨
    (2 ^ 54 - 1) * 2 ^ 970 ≤ n ∧ ∀ negative, ofRatio negative (n * den) den = .infinite negative := by
  have hquot : n * den / den = n := Nat.mul_div_cancel n hden
  rcases Nat.lt_or_ge n (2 ^ 53) with hfine | hlarge
  · obtain ⟨places, -, hvalue⟩ := ofRatio_fine hden (Nat.mul_pos hn hden) (by rwa [hquot])
    rw [Nat.mul_right_comm, roundHalfEven_mul hden] at hvalue
    refine .inl ⟨Nat.lt_of_lt_of_le hfine (two_pow_le_overflow 970), n, iff_of_true rfl (holds_of_le hfine.le), ?_,
      fun negative => (hvalue negative).toInt? (Nat.two_pow_pos places)⟩
    rw [Int.sub_self]
    exact Nat.zero_le n
  · have hlarge' : 2 ^ 53 ≤ n * den / den := by rwa [hquot]
    have hover := limit_le_nearestWhole_iff hden hlarge'
    rw [Nat.mul_le_mul_right_iff hden] at hover
    obtain ⟨hrange, hinfinite⟩ := ofRatio_large hden hlarge'
    rcases Nat.lt_or_ge (nearestWhole (n * den) den) limit with hlt | hge
    · have hlt' : n * den < n * den + den := Nat.lt_add_of_pos_right hden
      refine .inl ⟨Nat.lt_of_not_le (mt hover.mpr (Nat.not_le.mpr hlt)), _, ?_,
        nearestWhole_close hden hlarge' (Nat.le_refl _) hlt', fun negative => ?_⟩
      · rw [← nearestWhole_eq_iff hden hlarge' (Nat.le_refl _) hlt']
        exact ⟨fun h => ⟨h, h ▸ hlt⟩, fun h => h.1⟩
      · refine HasValue.toInt? ?_ Nat.one_pos
        rw [Nat.mul_one]
        exact hrange hlt negative
    · exact .inr ⟨hover.mp hge, hinfinite hge⟩

end Double
end TableQuery
