import TableQuery.Proofs.JsonRoundTrip

/-! The JSON text of a floating-point number spells a floating-point number. A finite one has a point or a power of ten,
    and no zero too many in front; what is not finite has a name. -/

namespace TableQuery

theorem stripZeros_ne_zero {c : Nat} {e : Int} (h : c ≠ 0) : (stripZeros c e).1 ≠ 0 := by
  fun_induction stripZeros c e with
  | case1 => exact absurd rfl h
  | case2 c e _ hzero _ ih => exact ih (by omega)
  | case3 => exact h

namespace Double

/-! ### The shortest decimal of a number is not zero -/

section
variable {i : Interval}

theorem contains_zero {den : Nat} (hlow : 0 < i.low) (hden : 0 < den) : i.contains 0 den = false := by
  have hpos : 0 < i.low * den := Nat.mul_pos hlow hden
  rw [Interval.contains]
  split
  · simp only [Bool.and_eq_false_iff, decide_eq_false_iff_not]
    omega
  · simp only [Bool.and_eq_false_iff, decide_eq_false_iff_not]
    omega

theorem gridPoint?_ne_zero {exponent : Int} {n : Nat} (hlow : 0 < i.low) (h : gridPoint? i exponent = some n) : n ≠ 0 := by
  unfold gridPoint? at h
  obtain ⟨up, down, hstep, hdown⟩ : ∃ up down, (if 0 ≤ exponent then (Nat.pow 10 exponent.toNat, 1)
      else (1, Nat.pow 10 (-exponent).toNat)) = (up, down) ∧ 0 < down := by
    split
    · exact ⟨_, _, rfl, Nat.one_pos⟩
    · exact ⟨_, _, rfl, Nat.pow_pos (by decide)⟩
  rw [hstep] at h
  dsimp only at h
  -- Zero does not lie in the interval, and so a point that does is not the zeroth.
  have hlower : i.contains (i.value * down / (i.den * up) * up) down = true → i.value * down / (i.den * up) ≠ 0 := by
    intro hcontains hzero
    rw [hzero, Nat.zero_mul, contains_zero hlow hdown] at hcontains
    cases hcontains
  split at h
  · rename_i hin _
    have hne := hlower hin
    cases h
    split
    · exact hne
    · split
      · exact Nat.succ_ne_zero _
      · exact fun hzero => hne (Nat.eq_zero_of_add_eq_zero_right hzero)
  · rename_i hin _
    cases h
    exact hlower hin
  · cases h
    exact Nat.succ_ne_zero _
  · cases h

theorem firstGrid_ne_zero {power x : Int} {n : Nat} (hlow : 0 < i.low) : ∀ {fuel digits : Nat},
    firstGrid i power fuel digits = some (n, x) → n ≠ 0 := by
  intro fuel
  induction fuel with
  | zero => exact fun h => nomatch h
  | succ fuel ih =>
    intro digits h
    unfold firstGrid at h
    dsimp only at h
    split at h
    · rename_i hpoint
      cases h
      exact gridPoint?_ne_zero hlow hpoint
    · exact ih h

end

theorem interval_low_pos {m : Nat} {e : Int} (h : m ≠ 0) : 0 < (interval m e).low := by
  unfold interval
  have hbelow : 0 < if decide (m = Nat.pow 2 52) && decide (minExponent < e) then 4 * m - 1 else 4 * m - 2 := by
    split
    all_goals omega
  split
  rename_i scale den hscale
  refine Nat.mul_pos hbelow ?_
  split at hscale
  · cases hscale
    exact Nat.pow_pos (by decide)
  · cases hscale
    exact Nat.one_pos

theorem decimalForm_ne_zero {m : Nat} {e : Int} (h : m ≠ 0) : (decimalForm m e).1 ≠ 0 := by
  unfold decimalForm
  split
  · exact stripZeros_ne_zero (Nat.mul_ne_zero h (Nat.pow_pos (by decide)).ne')
  · exact stripZeros_ne_zero (Nat.mul_ne_zero h (Nat.pow_pos (by decide)).ne')

theorem shortest_ne_zero {m : Nat} {e : Int} (h : m ≠ 0) : (shortest m e).1 ≠ 0 := by
  unfold shortest
  dsimp only
  split
  · rename_i hgrid
    exact stripZeros_ne_zero (firstGrid_ne_zero (interval_low_pos h) hgrid)
  · exact decimalForm_ne_zero h

end Double

namespace Json

/-! ### The text of a decimal -/

/-- Text of a number with a point or a power of ten. -/
inductive Scientific : List Char → Prop
  | mk {whole point fraction mark : List Char} {power : Option Int} (hwhole : Whole whole)
    (hfraction : Fraction point fraction) (hpower : Power mark power) (hparts : fraction = [] → power = none → False) :
    Scientific (whole ++ (point ++ mark))

theorem Scientific.spells {limit : Option Nat} {cs : List Char} (h : Scientific cs) (negative : Bool) :
    ∃ x, Spells limit ((if negative then ['-'] else []) ++ cs) (.double x) := by
  cases h with
  | @mk whole point fraction mark power hwhole hfraction hpower hparts =>
    refine ⟨.ofScientific negative (natOf (whole ++ fraction)) (power.getD 0 - fraction.length), ?_⟩
    rw [← numberOf.eq_2 negative _ _ _ hparts]
    refine .number hwhole hfraction hpower fun hnoPoint hnoMark => ?_
    subst hnoPoint hnoMark
    cases hfraction
    cases hpower
    exact (hparts rfl rfl).elim

theorem scientific_point {whole fraction : List Char} (hwhole : Whole whole) (hfraction : Digits fraction) :
    Scientific (whole ++ '.' :: fraction) := by
  have htext := Scientific.mk hwhole (.point hfraction) .none fun hnil => absurd hnil hfraction.ne_nil
  rw [List.append_nil] at htext
  exact htext

theorem digits_replicate_append {n : Nat} {ds : List Char} (h : Digits ds) : Digits (List.replicate n '0' ++ ds) := by
  refine ⟨List.append_ne_nil_of_right_ne_nil _ h.ne_nil, fun c hc => ?_⟩
  rcases List.mem_append.mp hc with hzero | hdigit
  · rw [(List.mem_replicate.mp hzero).2]
    rfl
  · exact h.isDigit c hdigit

section
variable {ds : List Char} (hwhole : Whole ds) (hhead : ds.head? ≠ some '0')
include hwhole hhead

/-- More zeros can stand behind digits. -/
theorem whole_append_replicate (n : Nat) : Whole (ds ++ List.replicate n '0') := by
  refine ⟨⟨List.append_ne_nil_of_left_ne_nil hwhole.ne_nil _, fun c hc => ?_⟩, fun hzero => ?_⟩
  · rcases List.mem_append.mp hc with hdigit | hzero
    · exact hwhole.isDigit c hdigit
    · rw [(List.mem_replicate.mp hzero).2]
      rfl
  · rw [List.head?_append_of_ne_nil _ hwhole.ne_nil] at hzero
    exact absurd hzero hhead

theorem whole_take {n : Nat} (hn : 0 < n) : Whole (ds.take n) := by
  refine ⟨⟨fun hnil => ?_, fun c hc => hwhole.isDigit c (List.mem_of_mem_take hc)⟩, fun hzero => ?_⟩
  · rcases List.take_eq_nil_iff.mp hnil with hlen | hnil
    · omega
    · exact hwhole.ne_nil hnil
  · rw [List.head?_take, if_neg hn.ne'] at hzero
    exact absurd hzero hhead

theorem scientific_positional (place : Int) : Scientific (Double.positional ds place) := by
  unfold Double.positional
  have hzero : Digits ['0'] := ⟨List.cons_ne_nil _ _, List.forall_mem_singleton.mpr rfl⟩
  split
  · exact scientific_point ⟨hzero, fun _ => rfl⟩ (digits_replicate_append hwhole.toDigits)
  · rename_i hplace
    split
    · exact scientific_point (whole_append_replicate hwhole hhead _) hzero
    · rename_i hlong
      refine scientific_point (whole_take hwhole hhead (by omega)) ⟨fun hnil => ?_, fun c hc => ?_⟩
      · exact hlong (List.drop_eq_nil_iff.mp hnil)
      · exact hwhole.isDigit c (List.mem_of_mem_drop hc)

end

theorem digits_decimalDigits (n : Nat) : Digits (decimalDigits n) := (whole_decimalDigits n).toDigits

theorem scientific_exponential {ds : List Char} (hdigits : Digits ds) (power : Int) :
    Scientific (Double.exponential ds power) := by
  -- The power has a sign and digits, whatever it is.
  obtain ⟨mark, value, hmark, hmarkText⟩ : ∃ mark value, Power mark (some value) ∧ mark = 'e' ::
      (if power < 0 then '-' else '+') :: (if (decimalDigits power.natAbs).length < 2 then '0' :: decimalDigits power.natAbs
        else decimalDigits power.natAbs) := by
    have hsize : Digits (if (decimalDigits power.natAbs).length < 2 then '0' :: decimalDigits power.natAbs
        else decimalDigits power.natAbs) := by
      split
      · exact digits_replicate_append (n := 1) (digits_decimalDigits _)
      · exact digits_decimalDigits _
    by_cases hsign : power < 0
    · rw [if_pos hsign]
      exact ⟨_, _, .minus (.inl rfl) hsize, rfl⟩
    · rw [if_neg hsign]
      exact ⟨_, _, .plus (.inl rfl) hsize, rfl⟩
  have hone {d : Char} (hd : d.isDigit = true) : Whole [d] := by
    refine ⟨⟨List.cons_ne_nil _ _, List.forall_mem_singleton.mpr hd⟩, fun hhead => ?_⟩
    rw [Option.some.inj hhead]
  unfold Double.exponential
  dsimp only
  rw [← hmarkText]
  cases ds with
  | nil => exact absurd rfl hdigits.ne_nil
  | cons d ds =>
    obtain ⟨hd, hds⟩ := List.forall_mem_cons.mp hdigits.isDigit
    cases ds with
    | nil => exact .mk (hone hd) .none hmark fun _ hnone => nomatch hnone
    | cons e es => exact .mk (hone hd) (.point ⟨List.cons_ne_nil e es, hds⟩) hmark fun hnil => nomatch hnil

theorem scientific_decimalText {c : Nat} (h : c ≠ 0) (e : Int) : Scientific (Double.decimalText c e) := by
  unfold Double.decimalText
  dsimp only
  split
  · exact scientific_positional (whole_decimalDigits c) (head_decimalDigits_ne_zero h) _
  · exact scientific_exponential (digits_decimalDigits c) _

/-! ### The text of a number -/

/-- Every floating-point number has JSON text. -/
theorem exists_written_double {limit : Option Nat} (x : Double) : ∃ y, Written limit (.double x) (.double y) := by
  cases x with
  | nan => exact ⟨.nan, _, rfl, .name (by simp only [names, List.mem_cons]; tauto)⟩
  | infinite negative =>
    refine ⟨.infinite negative, _, rfl, ?_⟩
    cases negative with
    | false => exact .name (by simp only [names, List.mem_cons]; tauto)
    | true => exact .name (by simp only [names, List.mem_cons]; tauto)
  | finite negative m e =>
    obtain ⟨body, hbody, htext⟩ : ∃ body, Scientific body ∧
        (Double.finite negative m e).text = String.ofList (if negative then '-' :: body else body) := by
      by_cases hm : m = 0
      · exact ⟨['0', '.', '0'], scientific_point (whole_decimalDigits 0) (digits_decimalDigits 0),
          by rw [Double.text, if_pos hm]⟩
      · exact ⟨_, scientific_decimalText (Double.shortest_ne_zero hm) _, by rw [Double.text, if_neg hm]⟩
    obtain ⟨y, hspells⟩ : ∃ y, Spells limit ((if negative then ['-'] else []) ++ body) (.double y) := hbody.spells negative
    have hwritten : writeDouble (.finite negative m e) = if negative then '-' :: body else body := by
      rw [← String.toList_ofList (l := if negative then '-' :: body else body), ← htext]
      rfl
    refine ⟨y, _, rfl, ?_⟩
    rw [hwritten]
    cases negative with
    | false => exact hspells
    | true => exact hspells

end Json

end TableQuery
