import TableQuery.Json.Reader
import TableQuery.Proofs.Outcomes

/-! JSON text. The reader counts its steps; what it reads in some number of steps it reads in any number that is large
    enough for the length of the text, so that no text is refused for how deep it is. What it refuses is no JSON, or has a
    number longer than the limit. -/

namespace TableQuery

namespace Json

/-! ### What is read is shorter -/

theorem length_skipSpace_le (cs : List Char) : (skipSpace cs).length ≤ cs.length :=
  (List.dropWhile_suffix isSpace).length_le

theorem length_of_skipSpace {cs rest : List Char} {c : Char} (h : skipSpace cs = c :: rest) : rest.length < cs.length := by
  have hle := length_skipSpace_le cs
  rw [h] at hle
  exact hle

theorem length_of_takeUnit? {cs rest : List Char} {n : Nat} (h : takeUnit? cs = some (n, rest)) :
    rest.length < cs.length := by
  unfold takeUnit? at h
  split at h
  · simp only [Option.bind_eq_bind, Option.bind_eq_some_iff] at h
    obtain ⟨_, -, _, -, _, -, _, -, h⟩ := h
    cases h
    simp only [List.length_cons]
    omega
  · cases h

theorem length_of_takeEscape? {cs rest : List Char} {c : Char} (h : takeEscape? cs = some (c, rest)) :
    rest.length < cs.length := by
  simp only [takeEscape?, Option.bind_eq_bind, Option.bind_eq_some_iff] at h
  obtain ⟨⟨high, tail⟩, hunit, h⟩ := h
  have htail := length_of_takeUnit? hunit
  dsimp only at h
  split at h
  · split at h
    · split at h
      · rename_i hlow
        have hrest := length_of_takeUnit? hlow
        simp only [List.length_cons] at htail
        split at h
        · obtain ⟨-, rfl⟩ := Prod.mk.inj (Option.some.inj h)
          omega
        · obtain ⟨-, rfl⟩ := Prod.mk.inj (Option.some.inj h)
          simp only [List.length_cons]
          omega
      · cases h
        exact htail
    · cases h
      exact htail
  · cases h
    exact htail

theorem length_of_takeString {fuel : Nat} : ∀ {cs body rest : List Char}, takeString fuel cs = some (body, rest) →
    rest.length < cs.length := by
  induction fuel with
  | zero => exact fun h => (nomatch h)
  | succ fuel ih =>
    intro cs body rest h
    cases cs with
    | nil => cases h
    | cons c cs =>
      unfold takeString at h
      split at h
      · cases h
        exact Nat.lt_succ_self _
      split at h
      · split at h
        · cases h
        · split at h
          · simp only [Option.bind_eq_bind, Option.bind_eq_some_iff] at h
            obtain ⟨⟨_, tail⟩, hescape, ⟨_, _⟩, hrest, h⟩ := h
            cases h
            have htail := length_of_takeEscape? hescape
            have hlast := ih hrest
            simp only [List.length_cons] at hlast ⊢
            omega
          · simp only [Option.bind_eq_bind, Option.bind_eq_some_iff] at h
            obtain ⟨_, -, ⟨_, _⟩, hrest, h⟩ := h
            cases h
            have hlast := ih hrest
            simp only [List.length_cons]
            omega
      · split at h
        · cases h
        · simp only [Option.bind_eq_bind, Option.bind_eq_some_iff] at h
          obtain ⟨⟨_, _⟩, hrest, h⟩ := h
          cases h
          have hlast := ih hrest
          simp only [List.length_cons]
          omega

theorem length_of_takeName? {cs rest : List Char} {v : Value} (h : takeName? cs = some (v, rest)) :
    rest.length < cs.length := by
  unfold takeName? at h
  split at h
  case h_7 => cases h
  all_goals
    obtain ⟨-, rfl⟩ := Prod.mk.inj (Option.some.inj h)
    simp only [List.length_cons]
    omega

theorem length_takeWhole (cs : List Char) : (takeWhole cs).1.length + (takeWhole cs).2.length = cs.length := by
  unfold takeWhole
  split
  · simp only [List.length_cons, List.length_nil]
    omega
  · rw [← List.length_append, List.takeWhile_append_dropWhile]

theorem length_takeFractionDigits_le (cs : List Char) : (takeFractionDigits cs).2.length ≤ cs.length := by
  unfold takeFractionDigits
  split
  · rename_i rest
    dsimp only
    split
    · exact Nat.le_refl _
    · exact Nat.le_succ_of_le (List.dropWhile_suffix Char.isDigit).length_le
  · exact Nat.le_refl _

theorem length_takeSign_le (cs : List Char) : (takeSign cs).2.length ≤ cs.length := by
  unfold takeSign
  split <;> simp

theorem length_takePower_le (cs : List Char) : (takePower cs).2.length ≤ cs.length := by
  unfold takePower
  split
  · rename_i rest
    split
    · dsimp only
      split
      · exact Nat.le_refl _
      · have hdigits := (List.dropWhile_suffix (l := (takeSign rest).2) Char.isDigit).length_le
        have hsign := length_takeSign_le rest
        simp only [List.length_cons]
        omega
    · exact Nat.le_refl _
  · exact Nat.le_refl _

variable {limit : Option Nat}

theorem length_of_takeNumber {negative : Bool} {cs rest : List Char} {v : Value}
    (h : takeNumber limit negative cs = .ok (v, rest)) : rest.length < cs.length := by
  unfold takeNumber at h
  dsimp only at h
  split at h
  · cases h
  rename_i hwhole
  have hne : 0 < (takeWhole cs).1.length := by
    rw [List.length_pos_iff]
    simpa using hwhole
  have hcs := length_takeWhole cs
  have hfraction := length_takeFractionDigits_le (takeWhole cs).2
  have hpower := length_takePower_le (takeFractionDigits (takeWhole cs).2).2
  have hrest : rest = (takePower (takeFractionDigits (takeWhole cs).2).2).2 := by
    split at h
    · split at h
      · cases h
      · exact (Prod.mk.inj (Except.ok.inj h)).2.symm
    · exact (Prod.mk.inj (Except.ok.inj h)).2.symm
  rw [hrest]
  omega

/-! ### Steps -/

/-- What is read in some number of steps is read in any other that is no smaller, or large enough for the text. -/
def Steady {α : Type} (take : Nat → List Char → Except ReadError (α × List Char)) (enough : Nat) (steps : Nat) : Prop :=
  ∀ cs a rest, take steps cs = .ok (a, rest) → rest.length < cs.length ∧
    ∀ more, min steps (2 * cs.length + enough) ≤ more → take more cs = .ok (a, rest)

theorem exists_step {steps enough more : Nat} (h : min (steps + 1) (enough + 1) ≤ more) :
    ∃ n, more = n + 1 ∧ min steps enough ≤ n :=
  ⟨more - 1, by omega, by omega⟩

section
variable {steps : Nat}

theorem takeValue_of_items {tail : List Char} (h : ∀ rest, skipSpace tail ≠ ']' :: rest) (n : Nat) :
    takeValue limit (n + 1) ('[' :: tail) =
      takeItems limit n (skipSpace tail) >>= fun read => .ok (.list read.1, read.2) := by
  simp only [takeValue]

theorem takeValue_of_entries {tail : List Char} (h : ∀ rest, skipSpace tail ≠ '\x7d' :: rest) (n : Nat) :
    takeValue limit (n + 1) ('\x7b' :: tail) =
      takeEntries limit n (skipSpace tail) >>= fun read => .ok (.dict (Row.ofList read.1), read.2) := by
  simp only [takeValue]

/-- Names and numbers are read in one step. -/
theorem takeValue_of_name {cs rest : List Char} {v : Value} (hstring : ∀ tail, cs ≠ '"' :: tail)
    (hlist : ∀ tail, cs ≠ '[' :: tail) (hdict : ∀ tail, cs ≠ '\x7b' :: tail)
    (h : takeValue limit (steps + 1) cs = .ok (v, rest)) :
    rest.length < cs.length ∧ ∀ n, takeValue limit (n + 1) cs = .ok (v, rest) := by
  have hname (n : Nat) : takeValue limit (n + 1) cs = takeValue limit (steps + 1) cs := by
    simp only [takeValue]
  refine ⟨?_, fun n => (hname n).trans h⟩
  simp only [takeValue] at h
  split at h
  · rename_i hfound
    exact length_of_takeName? (hfound.trans (congrArg some (Except.ok.inj h)))
  · split at h
    · exact Nat.lt_succ_of_lt (length_of_takeNumber h)
    · exact length_of_takeNumber h

/-- A list or an object is read one step after what stands inside. -/
theorem Steady.inside {α : Type} {take : Nat → List Char → Except ReadError (α × List Char)} {f : α → Value}
    {tail rest : List Char} {v : Value} (h : Steady take 2 steps)
    (hread : (take steps (skipSpace tail) >>= fun read => .ok (f read.1, read.2)) = .ok (v, rest)) :
    rest.length < tail.length + 1 ∧ ∀ more, min (steps + 1) (2 * (tail.length + 1) + 1) ≤ more → ∃ n, more = n + 1 ∧
      (take n (skipSpace tail) >>= fun read => .ok (f read.1, read.2)) = .ok (v, rest) := by
  obtain ⟨⟨a, back⟩, hback, hread⟩ := bind_eq_ok.mp hread
  obtain ⟨rfl, rfl⟩ := Prod.mk.inj (Except.ok.inj hread)
  obtain ⟨hshort, hmore⟩ := h _ _ _ hback
  have htail := length_skipSpace_le tail
  refine ⟨show back.length < tail.length + 1 by omega, fun more hsteps => ?_⟩
  obtain ⟨n, rfl, hn⟩ := exists_step hsteps
  exact ⟨n, rfl, bind_eq_ok.mpr ⟨_, hmore n (by omega), rfl⟩⟩

theorem steady_takeValue (hitems : Steady (takeItems limit) 2 steps) (hentries : Steady (takeEntries limit) 2 steps) :
    Steady (takeValue limit) 1 (steps + 1) := by
  intro cs v rest h
  by_cases hstring : ∃ tail, cs = '"' :: tail
  · obtain ⟨tail, rfl⟩ := hstring
    simp only [takeValue] at h
    split at h
    · rename_i hread
      obtain ⟨rfl, rfl⟩ := Prod.mk.inj (Except.ok.inj h)
      refine ⟨Nat.lt_succ_of_lt (length_of_takeString hread), fun more hmore => ?_⟩
      obtain ⟨n, rfl, -⟩ := exists_step hmore
      simp only [takeValue, hread]
    · cases h
  by_cases hlist : ∃ tail, cs = '[' :: tail
  · obtain ⟨tail, rfl⟩ := hlist
    by_cases hempty : ∃ back, skipSpace tail = ']' :: back
    · obtain ⟨back, hback⟩ := hempty
      simp only [takeValue, hback] at h
      obtain ⟨rfl, rfl⟩ := Prod.mk.inj (Except.ok.inj h)
      refine ⟨Nat.lt_succ_of_lt (length_of_skipSpace hback), fun more hmore => ?_⟩
      obtain ⟨n, rfl, -⟩ := exists_step hmore
      simp only [takeValue, hback]
    · have hne : ∀ back, skipSpace tail ≠ ']' :: back := fun back hback => hempty ⟨back, hback⟩
      rw [takeValue_of_items hne] at h
      obtain ⟨hshort, hmore⟩ := hitems.inside h
      refine ⟨hshort, fun more hsteps => ?_⟩
      obtain ⟨n, rfl, hagain⟩ := hmore more hsteps
      exact (takeValue_of_items hne n).trans hagain
  by_cases hdict : ∃ tail, cs = '\x7b' :: tail
  · obtain ⟨tail, rfl⟩ := hdict
    by_cases hempty : ∃ back, skipSpace tail = '\x7d' :: back
    · obtain ⟨back, hback⟩ := hempty
      simp only [takeValue, hback] at h
      obtain ⟨rfl, rfl⟩ := Prod.mk.inj (Except.ok.inj h)
      refine ⟨Nat.lt_succ_of_lt (length_of_skipSpace hback), fun more hmore => ?_⟩
      obtain ⟨n, rfl, -⟩ := exists_step hmore
      simp only [takeValue, hback]
    · have hne : ∀ back, skipSpace tail ≠ '\x7d' :: back := fun back hback => hempty ⟨back, hback⟩
      rw [takeValue_of_entries hne] at h
      obtain ⟨hshort, hmore⟩ := hentries.inside (f := fun entries => .dict (Row.ofList entries)) h
      refine ⟨hshort, fun more hsteps => ?_⟩
      obtain ⟨n, rfl, hagain⟩ := hmore more hsteps
      exact (takeValue_of_entries hne n).trans hagain
  obtain ⟨hshort, hagain⟩ := takeValue_of_name (fun tail ht => hstring ⟨tail, ht⟩) (fun tail ht => hlist ⟨tail, ht⟩)
    (fun tail ht => hdict ⟨tail, ht⟩) h
  refine ⟨hshort, fun more hmore => ?_⟩
  obtain ⟨n, rfl, -⟩ := exists_step hmore
  exact hagain n

theorem steady_takeItems (hvalue : Steady (takeValue limit) 1 steps) (hitems : Steady (takeItems limit) 2 steps) :
    Steady (takeItems limit) 2 (steps + 1) := by
  intro cs items rest h
  unfold takeItems at h
  obtain ⟨⟨item, back⟩, hread, h⟩ := bind_eq_ok.mp h
  obtain ⟨hback, hmore⟩ := hvalue _ _ _ hread
  have hskipped := length_skipSpace_le back
  dsimp only at h
  split at h
  · rename_i hskip
    obtain ⟨rfl, rfl⟩ := Prod.mk.inj (Except.ok.inj h)
    rw [hskip] at hskipped
    refine ⟨?_, fun more hsteps => ?_⟩
    · simp only [List.length_cons] at hskipped
      omega
    · obtain ⟨n, rfl, hn⟩ := exists_step hsteps
      unfold takeItems
      refine bind_eq_ok.mpr ⟨_, hmore n (by omega), ?_⟩
      simp only [hskip]
  · rename_i tail hskip
    obtain ⟨⟨others, last⟩, hothers, h⟩ := bind_eq_ok.mp h
    obtain ⟨rfl, rfl⟩ := Prod.mk.inj (Except.ok.inj h)
    obtain ⟨hlast, hagain⟩ := hitems _ _ _ hothers
    have htail := length_skipSpace_le tail
    rw [hskip] at hskipped
    simp only [List.length_cons] at hskipped
    -- an item and the comma behind it are two characters at least, which pay for the step that is taken here
    refine ⟨show last.length < cs.length by omega, fun more hsteps => ?_⟩
    obtain ⟨n, rfl, hn⟩ := exists_step hsteps
    unfold takeItems
    refine bind_eq_ok.mpr ⟨_, hmore n (by omega), ?_⟩
    simp only [hskip]
    exact bind_eq_ok.mpr ⟨_, hagain n (by omega), rfl⟩
  · cases h

theorem steady_takeEntries (hvalue : Steady (takeValue limit) 1 steps) (hentries : Steady (takeEntries limit) 2 steps) :
    Steady (takeEntries limit) 2 (steps + 1) := by
  intro cs entries rest h
  unfold takeEntries at h
  split at h
  · rename_i tail
    split at h
    · cases h
    rename_i key behind hkey
    have hbehind := length_of_takeString hkey
    have hskipped := length_skipSpace_le behind
    split at h
    · rename_i colon hcolon
      rw [hcolon] at hskipped
      have hvalueText := length_skipSpace_le colon
      obtain ⟨⟨value, back⟩, hread, h⟩ := bind_eq_ok.mp h
      obtain ⟨hback, hmore⟩ := hvalue _ _ _ hread
      have hbackSkipped := length_skipSpace_le back
      simp only [List.length_cons] at hskipped
      dsimp only at h
      split at h
      · rename_i hskip
        obtain ⟨rfl, rfl⟩ := Prod.mk.inj (Except.ok.inj h)
        rw [hskip] at hbackSkipped
        simp only [List.length_cons] at hbackSkipped
        refine ⟨by simp only [List.length_cons]; omega, fun more hsteps => ?_⟩
        obtain ⟨n, rfl, hn⟩ := exists_step hsteps
        simp only [List.length_cons] at hn
        simp only [takeEntries, hkey, hcolon]
        refine bind_eq_ok.mpr ⟨_, hmore n (by omega), ?_⟩
        simp only [hskip]
      · rename_i next hskip
        obtain ⟨⟨others, last⟩, hothers, h⟩ := bind_eq_ok.mp h
        obtain ⟨rfl, rfl⟩ := Prod.mk.inj (Except.ok.inj h)
        obtain ⟨hlast, hagain⟩ := hentries _ _ _ hothers
        have hnext := length_skipSpace_le next
        rw [hskip] at hbackSkipped
        simp only [List.length_cons] at hbackSkipped
        refine ⟨by simp only [List.length_cons]; omega, fun more hsteps => ?_⟩
        obtain ⟨n, rfl, hn⟩ := exists_step hsteps
        simp only [List.length_cons] at hn
        simp only [takeEntries, hkey, hcolon]
        refine bind_eq_ok.mpr ⟨_, hmore n (by omega), ?_⟩
        simp only [hskip]
        exact bind_eq_ok.mpr ⟨_, hagain n (by omega), rfl⟩
      · cases h
    · cases h
  · cases h

end

theorem steady (steps : Nat) : Steady (takeValue limit) 1 steps ∧ Steady (takeItems limit) 2 steps ∧
    Steady (takeEntries limit) 2 steps := by
  -- the readers call one another with one step less, so the induction has to carry all three
  induction steps with
  | zero => exact ⟨fun _ _ _ h => (nomatch h), fun _ _ _ h => (nomatch h), fun _ _ _ h => (nomatch h)⟩
  | succ steps ih =>
    obtain ⟨hvalue, hitems, hentries⟩ := ih
    exact ⟨steady_takeValue hitems hentries, steady_takeItems hvalue hitems, steady_takeEntries hvalue hentries⟩

/-- A text is JSON for a value if that is what is found in it in some number of steps, with nothing but blanks behind. -/
def Holds (limit : Option Nat) (text : String) (v : Value) : Prop :=
  ∃ steps rest, takeValue limit steps (skipSpace text.toList) = .ok (v, rest) ∧ skipSpace rest = []

/-- The steps that are allowed for a text are enough, however deep it is. -/
theorem readWithin_eq_ok {text : String} {v : Value} : readWithin limit text = .ok v ↔ Holds limit text v := by
  unfold readWithin readChars
  rw [bind_eq_ok]
  constructor
  · rintro ⟨⟨found, rest⟩, htake, h⟩
    dsimp only at h
    split at h
    · rename_i hrest
      cases h
      exact ⟨_, rest, htake, by simpa using hrest⟩
    · cases h
  · rintro ⟨steps, rest, htake, hrest⟩
    have hle := length_skipSpace_le text.toList
    obtain ⟨-, hmore⟩ := (steady steps).1 _ _ _ htake
    refine ⟨(v, rest), hmore _ (by omega), ?_⟩
    simp [hrest]

/-! ### Refusals -/

/-- Text is refused for being no JSON, or for a number that is longer than the limit, if there is one. -/
def Refuses (limit : Option Nat) (e : ReadError) : Prop :=
  e = .malformed ∨ ∃ most digits, limit = some most ∧ most < digits ∧ e = .tooLong digits

theorem failsOnly_takeNumber (negative : Bool) (cs : List Char) :
    FailsOnly (Refuses limit) (takeNumber limit negative cs) := by
  unfold takeNumber
  dsimp only
  split
  · exact .inl rfl
  split
  · split
    · rename_i hlong
      cases limit with
      | none => cases hlong
      | some most => exact .inr ⟨most, _, rfl, of_decide_eq_true hlong, rfl⟩
    · exact trivial
  · exact trivial

theorem failsOnly_take (fuel : Nat) : (∀ cs, FailsOnly (Refuses limit) (takeValue limit fuel cs)) ∧
    (∀ cs, FailsOnly (Refuses limit) (takeItems limit fuel cs)) ∧
    ∀ cs, FailsOnly (Refuses limit) (takeEntries limit fuel cs) := by
  have hmalformed : Refuses limit .malformed := .inl rfl
  induction fuel with
  | zero => exact ⟨fun _ => hmalformed, fun _ => hmalformed, fun _ => hmalformed⟩
  | succ fuel ih =>
    obtain ⟨hvalue, hitems, hentries⟩ := ih
    refine ⟨fun cs => ?_, fun cs => ?_, fun cs => ?_⟩
    · unfold takeValue
      split
      · split
        · exact trivial
        · exact hmalformed
      · split
        · exact trivial
        · exact (hitems _).bind fun _ _ => trivial
      · split
        · exact trivial
        · exact (hentries _).bind fun _ _ => trivial
      · split
        · exact trivial
        · split
          · exact failsOnly_takeNumber true _
          · exact failsOnly_takeNumber false _
    · unfold takeItems
      refine (hvalue cs).bind fun found _ => ?_
      obtain ⟨item, rest⟩ := found
      dsimp only
      split
      · exact trivial
      · exact (hitems _).bind fun _ _ => trivial
      · exact hmalformed
    · unfold takeEntries
      split
      · split
        · exact hmalformed
        · split
          · refine (hvalue _).bind fun found _ => ?_
            obtain ⟨value, rest⟩ := found
            dsimp only
            split
            · exact trivial
            · exact (hentries _).bind fun _ _ => trivial
            · exact hmalformed
          · exact hmalformed
      · exact hmalformed

theorem failsOnly_readWithin (text : String) : FailsOnly (Refuses limit) (readWithin limit text) := by
  refine ((failsOnly_take _).1 _).bind fun found _ => ?_
  obtain ⟨value, rest⟩ := found
  dsimp only
  split
  · exact trivial
  · exact .inl rfl

theorem eq_malformed_of_readWithin {text : String} {e : ReadError} (h : readWithin none text = .error e) :
    e = .malformed := by
  have hrefuses := @failsOnly_readWithin none text
  rw [h] at hrefuses
  rcases hrefuses with hmalformed | ⟨_, _, hnone, -⟩
  · exact hmalformed
  · cases hnone

end Json
end TableQuery
