import Mathlib.Order.Bounds.Basic
import TableQuery.Proofs.NearestDoubles
import TableQuery.Query.Paging

/-! The last page: the least number of pages that hold all rows. The number of pages is a quotient that is rounded up,
    but as a floating-point number it has been rounded before. A last page with too few rows on it is lost in that, and
    from `2 ^ 53` pages on there may be no floating-point number for the number of pages. -/

namespace TableQuery.LastPage
open Double

/-- There are rows behind the full pages, but so few that the full pages alone are the nearest floating-point number:
    the part of a page that they fill is below half of the step between the numbers there, or it is half of it and the
    number of full pages is an even count of steps. -/
structure Grazes (total size : Nat) : Prop where
  full : 0 < total / size
  fine : total / size < 2 ^ 53
  rest : 0 < total % size
  close : total % size * 2 ^ (53 - Nat.log2 (total / size)) < size ∨
    total % size * 2 ^ (53 - Nat.log2 (total / size)) = size ∧
      total / size * 2 ^ (52 - Nat.log2 (total / size)) % 2 = 0

/-- What rounding makes of the last page: it is found if it is a floating-point number and has enough rows. A last
    page with too few leaves the one in front of it; otherwise what is found differs from the last page by a small part
    of it, or the number of pages is out of range. -/
structure Rounded (total size last : Nat) : Prop where
  exact_iff : lastPage? total size = some (last : Int) ↔ Holds last ∧ ¬Grazes total size
  lost : Grazes total size → lastPage? total size = some ((last : Int) - 1)
  close : ∀ n, lastPage? total size = some n → ¬Grazes total size → 2 ^ 53 * (n - last).natAbs ≤ last
  none_iff : lastPage? total size = none ↔ (2 ^ 54 - 1) * 2 ^ 970 * size ≤ total

/-- A full page has many more rows than a last page that is lost. -/
theorem Grazes.lt {total size : Nat} (h : Grazes total size) : 2 ^ 53 < total := by
  have hrest := h.rest
  have hfull := Nat.div_add_mod' total size
  have hlog := Nat.log2_self_le h.full.ne'
  have hlt : Nat.log2 (total / size) < 53 := (Nat.log2_lt h.full.ne').mpr h.fine
  have hclose : 2 ^ (53 - Nat.log2 (total / size)) ≤ size := by
    refine Nat.le_trans (Nat.le_mul_of_pos_left _ hrest) ?_
    have hclose := h.close
    omega
  have hmul : 2 ^ 53 ≤ total / size * size := by
    calc 2 ^ 53 = 2 ^ Nat.log2 (total / size) * 2 ^ (53 - Nat.log2 (total / size)) := by
          rw [← Nat.pow_add]
          congr 1
          omega
      _ ≤ total / size * size := Nat.mul_le_mul hlog hclose
  omega

section
variable {total size : Nat} (hsize : 1 ≤ size)
include hsize

theorem isLeast_max_ceilDiv (total : Nat) : IsLeast {n | 1 ≤ n ∧ total ≤ n * size} (max 1 (ceilDiv total size)) := by
  refine ⟨⟨le_max_left _ _, ?_⟩, fun n hn => max_le hn.1 ((ceilDiv_le_iff hsize).mpr hn.2)⟩
  exact (ceilDiv_le_iff hsize).mp (le_max_right _ _)

theorem ceilDiv_of_mod_eq_zero (h : total % size = 0) : ceilDiv total size = total / size := by
  obtain ⟨pages, rfl⟩ := Nat.dvd_of_mod_eq_zero h
  rw [Nat.mul_div_cancel_left pages hsize]
  have hle (a : Nat) : ceilDiv (size * pages) size ≤ a ↔ pages ≤ a := by
    rw [ceilDiv_le_iff hsize, Nat.mul_comm, Nat.mul_le_mul_right_iff hsize]
  exact Nat.le_antisymm ((hle pages).mpr (Nat.le_refl _)) ((hle _).mp (Nat.le_refl _))

theorem ceilDiv_of_mod_pos (h : 0 < total % size) : ceilDiv total size = total / size + 1 := by
  have hsplit := Nat.div_add_mod' total size
  have hrest := Nat.mod_lt total hsize
  refine Nat.le_antisymm ((ceilDiv_le_iff hsize).mpr ?_) (Nat.lt_of_not_le fun hle => ?_)
  · rw [Nat.succ_mul]
    omega
  · have hfull := (ceilDiv_le_iff hsize).mp hle
    omega

/-! ### What the quotient becomes -/

theorem lastPage?_eq_map : lastPage? total size = (ofRatio false total size).ceil?.map (max 1) := by
  rw [lastPage?, if_neg (by omega), ofQuotient, Int.toNat_natCast, Int.natAbs_natCast, decide_eq_false (by omega)]

theorem lastPage?_of_hasValue {num den : Nat} (hden : 0 < den) (h : (ofRatio false total size).HasValue false num den) :
    lastPage? total size = some ((max 1 (ceilDiv num den) : Nat) : Int) := by
  rw [lastPage?_eq_map hsize, h.ceil? hden, Option.map_some, Nat.cast_max]
  rfl

theorem lastPage?_zero : lastPage? (0 : Nat) size = some 1 := by
  have hvalue : (ofRatio false 0 size).HasValue false 0 1 := hasValue_zero false minExponent
  exact lastPage?_of_hasValue hsize Nat.one_pos hvalue

/-- The quotient is rounded to the number of full pages. -/
theorem roundHalfEven_le_div_iff (total places : Nat) :
    roundHalfEven (total * 2 ^ places) size ≤ total / size * 2 ^ places ↔
      total % size * 2 ^ (places + 1) < size ∨
        total % size * 2 ^ (places + 1) = size ∧ total / size * 2 ^ places % 2 = 0 := by
  have hfull : (2 * (total / size * 2 ^ places) + 1) * size = 2 * (total / size * 2 ^ places) * size + size := by ring
  have hsplit : 2 * (total * 2 ^ places) =
      2 * (total / size * 2 ^ places) * size + total % size * 2 ^ (places + 1) := by
    conv_lhs => rw [← Nat.div_add_mod' total size]
    ring
  rw [roundHalfEven_le_iff hsize, hfull, hsplit]
  omega

/-- Up to `2 ^ 53` pages the quotient goes up to the last page, unless the last page is lost. -/
theorem lastPage?_fine_of_pos (htotal : 0 < total) (hfine : total / size < 2 ^ 53) :
    (Grazes total size → lastPage? total size = some ((total / size : Nat) : Int)) ∧
    (¬Grazes total size → lastPage? total size = some ((max 1 (ceilDiv total size) : Nat) : Int)) := by
  obtain ⟨places, hplaces, hvalue⟩ := ofRatio_fine hsize htotal hfine
  have hpos := Nat.two_pow_pos places
  have hlast := lastPage?_of_hasValue hsize hpos (hvalue false)
  have hclose := roundHalfEven_le_div_iff hsize total places
  have hle (a : Nat) : ceilDiv (roundHalfEven (total * 2 ^ places) size) (2 ^ places) ≤ a ↔
      roundHalfEven (total * 2 ^ places) size ≤ a * 2 ^ places := ceilDiv_le_iff hpos
  have hmost (a : Nat) (h : total ≤ a * size) :
      ceilDiv (roundHalfEven (total * 2 ^ places) size) (2 ^ places) ≤ a := by
    refine (hle a).mpr (roundHalfEven_le hsize ?_)
    rw [Nat.mul_right_comm]
    exact Nat.mul_le_mul_right _ h
  have hleast : total / size ≤ ceilDiv (roundHalfEven (total * 2 ^ places) size) (2 ^ places) := by
    refine Nat.le_of_mul_le_mul_right (Nat.le_trans (le_roundHalfEven hsize ?_) ((hle _).mp (Nat.le_refl _))) hpos
    rw [Nat.mul_right_comm]
    exact Nat.mul_le_mul_right _ (Nat.div_mul_le_self total size)
  rw [← hle] at hclose
  rw [hlast]
  generalize ceilDiv (roundHalfEven (total * 2 ^ places) size) (2 ^ places) = last at *
  have hsplit := Nat.div_add_mod' total size
  rcases Nat.eq_zero_or_pos (total % size) with hrest | hrest
  · have hlast' := hmost (total / size) (by omega)
    rw [ceilDiv_of_mod_eq_zero hsize hrest, Nat.le_antisymm hlast' hleast]
    exact ⟨fun hgrazes => absurd hrest hgrazes.rest.ne', fun _ => rfl⟩
  · have hmod := Nat.mod_lt total hsize
    have hlast' := hmost (total / size + 1) (by rw [Nat.succ_mul]; omega)
    rw [ceilDiv_of_mod_pos hsize hrest]
    rcases Nat.eq_zero_or_pos (total / size) with hfull | hfull
    -- A single page is there even if the quotient is rounded to zero.
    · rw [hfull] at hlast' ⊢
      rw [max_eq_left hlast', max_self]
      exact ⟨fun hgrazes => absurd hfull hgrazes.full.ne', fun _ => rfl⟩
    · have hlog := hplaces (Nat.div_pos_iff.mp hfull).2
      have hgrazes : Grazes total size ↔ last ≤ total / size := by
        rw [hclose, show places + 1 = 53 - Nat.log2 (total / size) by omega,
          show places = 52 - Nat.log2 (total / size) by omega]
        exact ⟨fun h => h.close, fun h => ⟨hfull, hfine, hrest, h⟩⟩
      rw [hgrazes]
      refine ⟨fun h => ?_, fun h => ?_⟩
      · rw [Nat.le_antisymm h hleast, max_eq_right hfull]
      · rw [Nat.le_antisymm hlast' (Nat.lt_of_not_le h)]

/-- From `2 ^ 53` pages on it is the nearest floating-point number, if that is in range. -/
theorem lastPage?_large (hlarge : 2 ^ 53 ≤ total / size) :
    (nearestWhole total size < limit → lastPage? total size = some (nearestWhole total size : Int)) ∧
    (limit ≤ nearestWhole total size → lastPage? total size = none) := by
  obtain ⟨hrange, hinfinite⟩ := ofRatio_large hsize hlarge
  refine ⟨fun hlt => ?_, fun hge => ?_⟩
  · have hleast : 1 ≤ nearestWhole total size := Nat.le_trans (by decide) (two_pow_le_nearestWhole hsize hlarge)
    rw [lastPage?_of_hasValue hsize Nat.one_pos (hrange hlt false),
      ceilDiv_of_mod_eq_zero (Nat.le_refl 1) (Nat.mod_one _), Nat.div_one, max_eq_right hleast]
  · rw [lastPage?_eq_map hsize, hinfinite hge]
    rfl

/-! ### The last page -/

theorem Grazes.last_eq (h : Grazes total size) : max 1 (ceilDiv total size) = total / size + 1 := by
  rw [ceilDiv_of_mod_pos hsize h.rest, max_eq_right (Nat.le_add_left 1 _)]

/-- The pages up to `2 ^ 53`, without rows too. -/
theorem lastPage?_fine (hfine : total / size < 2 ^ 53) :
    (Grazes total size → lastPage? total size = some (((max 1 (ceilDiv total size) : Nat) : Int) - 1)) ∧
    (¬Grazes total size → lastPage? total size = some ((max 1 (ceilDiv total size) : Nat) : Int)) := by
  rcases Nat.eq_zero_or_pos total with rfl | htotal
  · have hlast : max 1 (ceilDiv 0 size) = 1 := by
      rw [ceilDiv_of_mod_eq_zero hsize (Nat.zero_mod size), Nat.zero_div]
      rfl
    rw [hlast, lastPage?_zero hsize]
    exact ⟨fun hgrazes => absurd (Nat.zero_mod size) hgrazes.rest.ne', fun _ => rfl⟩
  · refine (lastPage?_fine_of_pos hsize htotal hfine).imp_left fun h hgrazes => ?_
    rw [h hgrazes, hgrazes.last_eq hsize]
    congr 1
    omega

theorem rounded_fine (hfine : total / size < 2 ^ 53) : Rounded total size (max 1 (ceilDiv total size)) := by
  obtain ⟨hlost, hexact⟩ := lastPage?_fine hsize hfine
  have htotal : total < 2 ^ 53 * size := (Nat.div_lt_iff_lt_mul hsize).mp hfine
  have hholds : Holds (max 1 (ceilDiv total size)) :=
    holds_of_le (max_le (by decide) ((ceilDiv_le_iff hsize).mpr htotal.le))
  have hrange : ¬(2 ^ 54 - 1) * 2 ^ 970 * size ≤ total :=
    Nat.not_le.mpr (Nat.lt_of_lt_of_le htotal (Nat.mul_le_mul_right size (two_pow_le_overflow 970)))
  generalize max 1 (ceilDiv total size) = last at *
  by_cases hgrazes : Grazes total size
  · have hfound := hlost hgrazes
    refine ⟨iff_of_false (fun h => ?_) fun h => h.2 hgrazes, fun _ => hfound, fun _ _ h => absurd hgrazes h,
      iff_of_false (fun h => ?_) hrange⟩
    · have heq := Option.some.inj (hfound.symm.trans h)
      omega
    · cases hfound.symm.trans h
  · have hfound := hexact hgrazes
    refine ⟨iff_of_true hfound ⟨hholds, hgrazes⟩, fun h => absurd h hgrazes, fun n h _ => ?_,
      iff_of_false (fun h => ?_) hrange⟩
    · obtain rfl := Option.some.inj (hfound.symm.trans h)
      rw [Int.sub_self]
      exact Nat.zero_le _
    · cases hfound.symm.trans h

theorem rounded_large (hlarge : 2 ^ 53 ≤ total / size) : Rounded total size (max 1 (ceilDiv total size)) := by
  obtain ⟨hfound, hnone⟩ := lastPage?_large hsize hlarge
  have hle : total ≤ ceilDiv total size * size := (ceilDiv_le_iff hsize).mp (Nat.le_refl _)
  have hlt := ceilDiv_mul_lt hsize total
  have hholds := nearestWhole_eq_iff hsize hlarge hle hlt
  have hclose := nearestWhole_close hsize hlarge hle hlt
  have hover := limit_le_nearestWhole_iff hsize hlarge
  have hgrazes : ¬Grazes total size := fun h => Nat.not_lt.mpr hlarge h.fine
  have hpos : 1 ≤ ceilDiv total size := by
    have hfull : total / size ≤ ceilDiv total size :=
      Nat.le_of_mul_le_mul_right (Nat.le_trans (Nat.div_mul_le_self total size) hle) hsize
    exact Nat.le_trans (by decide) (Nat.le_trans hlarge hfull)
  rw [max_eq_right hpos]
  rcases Nat.lt_or_ge (nearestWhole total size) limit with hlt | hge
  · refine ⟨?_, fun h => absurd h hgrazes, fun n h _ => ?_, ?_⟩
    · rw [hfound hlt, Option.some_inj, Int.natCast_inj, ← hholds]
      exact ⟨fun h => ⟨⟨h, h ▸ hlt⟩, hgrazes⟩, fun h => h.1.1⟩
    · obtain rfl := Option.some.inj ((hfound hlt).symm.trans h)
      exact hclose
    · rw [hfound hlt, ← hover]
      exact iff_of_false nofun (Nat.not_le.mpr hlt)
  · refine ⟨?_, fun h => absurd h hgrazes, fun n h _ => ?_, ?_⟩
    · rw [hnone hge, ← hholds]
      exact iff_of_false nofun fun h => Nat.not_lt.mpr hge (h.1.1 ▸ h.1.2)
    · cases (hnone hge).symm.trans h
    · rw [hnone hge, ← hover]
      exact iff_of_true rfl hge

end

/-- The last page is the least number of pages, one or more, that hold all rows, so that there are more rows than the
    pages in front of it hold. For up to `2 ^ 53` rows it is found. -/
theorem exists_isLeast_rounded (total size : Nat) (hsize : 1 ≤ size) :
    ∃ last : Nat, IsLeast {n | 1 ≤ n ∧ total ≤ n * size} last ∧ (∀ n, 1 ≤ n → n < last → n * size < total) ∧
      Rounded total size last ∧ (total ≤ 2 ^ 53 → lastPage? total size = some (last : Int)) := by
  have hleast := isLeast_max_ceilDiv hsize total
  have hrounded : Rounded total size (max 1 (ceilDiv total size)) := by
    rcases Nat.lt_or_ge (total / size) (2 ^ 53) with hfine | hlarge
    · exact rounded_fine hsize hfine
    · exact rounded_large hsize hlarge
  refine ⟨_, hleast, fun n hn hlt => ?_, hrounded, fun h => ?_⟩
  · exact Nat.lt_of_not_le fun hle => Nat.not_le.mpr hlt (hleast.2 ⟨hn, hle⟩)
  · have hlast : max 1 (ceilDiv total size) ≤ 2 ^ 53 :=
      hleast.2 ⟨by decide, Nat.le_trans h (Nat.le_mul_of_pos_right _ hsize)⟩
    exact hrounded.exact_iff.mpr ⟨holds_of_le hlast, fun hgrazes => Nat.not_lt.mpr h hgrazes.lt⟩

/-- One row behind `2 ^ 52` pages of two rows: its page is lost. -/
theorem exists_isLeast_rounded_lost : ∃ last : Nat, IsLeast {n | 1 ≤ n ∧ 2 ^ 53 + 1 ≤ n * 2} last ∧
    lastPage? (2 ^ 53 + 1 : Nat) 2 = some ((last : Int) - 1) := by
  obtain ⟨last, hleast, -, hrounded, -⟩ := exists_isLeast_rounded (2 ^ 53 + 1) 2 (by decide)
  exact ⟨last, hleast, hrounded.lost ⟨by decide, by decide, by decide, by decide⟩⟩

end TableQuery.LastPage
